/-
Instants and the years they fall in: which are kept (`isKept_iff`), what a clock
ahead of UTC does to that, and what is left of an instant that is counted in
milliseconds (`ofMillis_toMillis`).
-/
import PacketTelemetry.Proofs.Time.Calendar
import PacketTelemetry.Time.Instant

namespace PacketTelemetry.Time.Instant

variable {t : Instant}

/-! ## Years -/

/-- The day of an instant, counted from the first of January of the year 1. -/
def dayNumber (t : Instant) : Int := t.seconds / secondsPerDay + epochDays

theorem year_lt_iff {year : Int} : t.date.year < year ↔ t.dayNumber < daysBeforeYear year :=
  yearOfDay_lt_iff

theorem le_year_iff {year : Int} : year ≤ t.date.year ↔ daysBeforeYear year ≤ t.dayNumber := by
  rw [← Int.not_lt, ← Int.not_lt, year_lt_iff]

/-- The instants kept are those of some hundred thousand years. -/
theorem isKept_iff : t.isKept = true ↔
    daysBeforeYear leastYear ≤ t.dayNumber ∧ t.dayNumber < daysBeforeYear (mostYear + 1) := by
  rw [isKept, keepsYear, Bool.and_eq_true, decide_eq_true_eq, decide_eq_true_eq, le_year_iff,
    ← year_lt_iff, Int.lt_add_one_iff]

theorem ahead_eq_iff {seconds : Int} : t.ahead seconds = t ↔ seconds = 0 := by
  refine ⟨fun h => ?_, fun h => ?_⟩
  · have hseconds : t.seconds + seconds = t.seconds := congrArg Instant.seconds h
    omega
  · rw [h, ahead, Int.add_zero]

/-- Wherever the clocks stand, all years but the first and the last are kept. -/
theorem isKept_ahead (hfirst : leastYear < t.date.year) (hlast : t.date.year < mostYear)
    {seconds : Int} (hseconds : seconds.natAbs < 86400) : (t.ahead seconds).isKept = true := by
  have hleast : daysBeforeYear (leastYear + 1) ≤ t.dayNumber := le_year_iff.1 hfirst
  have hmost : t.dayNumber < daysBeforeYear mostYear := year_lt_iff.1 hlast
  have hnear : t.dayNumber - 1 ≤ (t.ahead seconds).dayNumber ∧
      (t.ahead seconds).dayNumber ≤ t.dayNumber + 1 := by
    unfold dayNumber ahead secondsPerDay
    dsimp only
    omega
  have hbounds : daysBeforeYear leastYear < daysBeforeYear (leastYear + 1) ∧
      daysBeforeYear mostYear < daysBeforeYear (mostYear + 1) := by decide
  rw [isKept_iff]
  omega

/-! ## Milliseconds -/

theorem toMillis_ofMillis (ms : Int) : (ofMillis ms).toMillis = ms := by
  unfold ofMillis toMillis
  dsimp only
  omega

/-- Of an instant that is counted in milliseconds the whole ones are left. -/
theorem ofMillis_toMillis (hnanos : t.nanos < nanosPerSecond) :
    ofMillis t.toMillis = ⟨t.seconds, t.nanos / 1000000 * 1000000⟩ := by
  unfold nanosPerSecond at hnanos
  unfold ofMillis toMillis
  rw [mk.injEq]
  omega

theorem ofMillis?_eq_some_iff {ms : Int} :
    ofMillis? ms = some t ↔ ofMillis ms = t ∧ t.isKept = true := by
  unfold ofMillis?
  split
  · next hkept =>
    rw [Option.some.injEq]
    exact ⟨fun h => ⟨h, h ▸ hkept⟩, fun h => h.1⟩
  · next hkept =>
    refine iff_of_false (fun h => nomatch h) ?_
    rintro ⟨rfl, h⟩
    exact hkept h

/-- The milliseconds of the instants kept have no more than 64 bits. -/
theorem toMillis_bounds {ms : Int} (h : (ofMillis ms).isKept = true) :
    Int64.minValue.toInt ≤ ms ∧ ms ≤ Int64.maxValue.toInt := by
  have hbounds : daysBeforeYear leastYear = -95746130 ∧
      daysBeforeYear (mostYear + 1) = 95745399 := by decide
  obtain ⟨hleast, hmost⟩ := isKept_iff.1 h
  unfold dayNumber ofMillis secondsPerDay epochDays at hleast hmost
  have hword : Int64.minValue.toInt = -9223372036854775808 ∧
      Int64.maxValue.toInt = 9223372036854775807 := by decide
  dsimp only at hleast hmost
  omega

end PacketTelemetry.Time.Instant
