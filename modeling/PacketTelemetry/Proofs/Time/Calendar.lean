/-
Days and the dates they fall on: each day has a date, and the date gives the day
back (`Date.toDays_ofDays`).

A year ends where the next one begins (`daysBeforeYear_succ`), and its months
make up the whole of it (`sum_monthLengths`). Which year a day falls in is
guessed from the mean length of a year, and the guess is off by one at the most
(`yearOfDay_spec`).
-/
import PacketTelemetry.Time.Calendar

namespace PacketTelemetry.Time

/-! ## Years -/

theorem yearOfDay_spec (n : Int) :
    daysBeforeYear (yearOfDay n) ≤ n ∧ n < daysBeforeYear (yearOfDay n + 1) := by
  unfold yearOfDay daysBeforeYear
  dsimp only
  split
  · omega
  split <;> omega

theorem daysBeforeYear_succ (year : Int) :
    daysBeforeYear (year + 1) =
      daysBeforeYear year + (if isLeap year then 366 else 365 : Nat) := by
  unfold daysBeforeYear isLeap
  simp only [Bool.and_eq_true, Bool.or_eq_true, decide_eq_true_eq]
  split <;> omega

theorem daysBeforeYear_mono {year year' : Int} (h : year ≤ year') :
    daysBeforeYear year ≤ daysBeforeYear year' := by
  unfold daysBeforeYear
  dsimp only
  omega

theorem yearOfDay_lt_iff {n year : Int} : yearOfDay n < year ↔ n < daysBeforeYear year := by
  obtain ⟨hfirst, hlast⟩ := yearOfDay_spec n
  constructor
  · intro h
    exact Int.lt_of_lt_of_le hlast (daysBeforeYear_mono h)
  · intro h
    refine Int.not_le.1 fun hle => ?_
    have hmono := daysBeforeYear_mono hle
    omega

/-! ## Months -/

theorem sum_monthLengths (year : Int) :
    (monthLengths year).foldr (· + ·) 0 = if isLeap year then 366 else 365 := by
  unfold monthLengths
  cases isLeap year <;> rfl

/-- A day of a year falls in a month that has such a day. -/
theorem monthAndDay_spec {lengths : List Nat} {n : Nat} (h : n < lengths.foldr (· + ·) 0)
    (first : Nat) :
    ∃ k length, lengths[k]? = some length ∧ (monthAndDay lengths first n).1 = first + k ∧
      (lengths.take k).foldr (· + ·) 0 + (monthAndDay lengths first n).2 = n + 1 ∧
      1 ≤ (monthAndDay lengths first n).2 ∧ (monthAndDay lengths first n).2 ≤ length := by
  induction lengths generalizing first n with
  | nil => cases h
  | cons length lengths ih =>
    rw [monthAndDay]
    split
    · next hlt => exact ⟨0, length, rfl, rfl, Nat.zero_add _, Nat.succ_pos n, hlt⟩
    · next hge =>
      rw [List.foldr_cons] at h
      obtain ⟨k, length', hget, hmonth, hsum, hday⟩ :=
        ih (n := n - length) (by omega) (first + 1)
      refine ⟨k + 1, length', hget, by omega, ?_, hday⟩
      rw [List.take_succ_cons, List.foldr_cons]
      omega

/-! ## Dates -/

/-- The date of a day stands in the calendar, and gives the day back. -/
theorem Date.ofDays_spec (days : Int) :
    (Date.ofDays days).isReal = true ∧ (Date.ofDays days).toDays = days := by
  obtain ⟨hfirst, hlast⟩ := yearOfDay_spec (days + epochDays)
  rw [daysBeforeYear_succ, ← sum_monthLengths] at hlast
  dsimp only [ofDays]
  generalize yearOfDay (days + epochDays) = year at *
  obtain ⟨n, hn⟩ := Int.eq_ofNat_of_zero_le (Int.sub_nonneg_of_le hfirst)
  obtain ⟨k, length, hget, hmonth, hsum, hday, hlength⟩ :=
    monthAndDay_spec (show n < (monthLengths year).foldr (· + ·) 0 by omega) 1
  have hindex : (monthAndDay (monthLengths year) 1 n).1 - 1 = k := by omega
  have hfrom : 1 ≤ (monthAndDay (monthLengths year) 1 n).1 := by omega
  simp only [hn, Int.toNat_natCast]
  constructor
  · simp only [isReal, hindex, hget, hfrom, hday, hlength, decide_true, Bool.and_self]
  · simp only [toDays, daysBeforeMonth, hindex]
    omega

theorem Date.isReal_ofDays (days : Int) : (Date.ofDays days).isReal = true := (ofDays_spec days).1

theorem Date.toDays_ofDays (days : Int) : (Date.ofDays days).toDays = days := (ofDays_spec days).2

/-- No year has more than twelve months, and no month more than 31 days. -/
theorem Date.bounds_of_isReal (d : Date) (h : d.isReal = true) : d.month ≤ 12 ∧ d.day ≤ 31 := by
  simp only [isReal, Bool.and_eq_true, decide_eq_true_eq] at h
  obtain ⟨⟨hmonth, -⟩, h⟩ := h
  split at h
  · next length hget =>
    have hindex : d.month - 1 < (monthLengths d.year).length :=
      (List.getElem?_eq_some_iff.1 hget).1
    have hmost : ∀ n ∈ monthLengths d.year, n ≤ 31 := by
      unfold monthLengths
      cases isLeap d.year <;> decide
    have htwelve : (monthLengths d.year).length = 12 := rfl
    have hlength := hmost length (List.mem_of_getElem? hget)
    have hday := of_decide_eq_true h
    omega
  · cases h

end PacketTelemetry.Time
