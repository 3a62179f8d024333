/-
Instants as texts, read again (`ofRfc3339_toRfc3339`). The text gives the instant
back where the clocks by which it was written are a whole number of minutes from
UTC, and nowhere else (`ofRfc3339_toRfc3339_iff`): behind the time of day, which
stands to the second, the offset is rounded to the nearest minute.

Numbers are written in as many digits as the reader takes at the most, or end
where something else than a digit follows (`takeNumber_append`). The digits after
the second are few or many, but what is left out of nine of them is zero
(`readFraction_fractionChars`).
-/
import PacketTelemetry.Proofs.Text.Lines
import PacketTelemetry.Proofs.Time.Instants
import PacketTelemetry.Time.Rfc3339

namespace PacketTelemetry.Time

open Text (isSpace trimStart trimStart_of_head)

/-! ## Numbers -/

/-- A text that does not go on with a digit. -/
def NoDigit (cs : List Char) : Prop := ∀ c ∈ cs.head?, c.isDigit = false

theorem noDigit_cons {c : Char} (hc : c.isDigit = false) (cs : List Char) : NoDigit (c :: cs) := by
  rintro c' ⟨⟩
  exact hc

theorem takeNumber_append {most : Nat} {ds rest : List Char} (hds : ∀ c ∈ ds, c.isDigit = true)
    (hmost : ds.length ≤ most) (hrest : ds.length = most ∨ NoDigit rest) (n count : Nat) :
    takeNumber most (ds ++ rest) n count =
      (Nat.ofDigitChars 10 ds n, count + ds.length, rest) := by
  induction ds generalizing most n count with
  | nil =>
    rw [List.nil_append]
    cases most with
    | zero => exact takeNumber.eq_1 rest n count
    | succ most =>
      cases rest with
      | nil => exact takeNumber.eq_2 _ n count (Nat.succ_ne_zero most)
      | cons c rest =>
        have hc : c.isDigit = false := hrest.resolve_left (fun h => nomatch h) c rfl
        rw [takeNumber, hc]
        rfl
  | cons c ds ih =>
    obtain ⟨hc, hds⟩ := List.forall_mem_cons.1 hds
    obtain ⟨most, rfl⟩ : ∃ k, most = k + 1 := ⟨most - 1, by simp at hmost; omega⟩
    rw [List.cons_append, takeNumber, if_pos hc, ih hds (Nat.le_of_succ_le_succ hmost)
      (hrest.imp_left Nat.succ.inj), List.length_cons]
    have hstep : Nat.ofDigitChars 10 (c :: ds) n =
        Nat.ofDigitChars 10 ds (n * 10 + (c.toNat - '0'.toNat)) := by
      rw [Nat.ofDigitChars_eq_foldl, Nat.ofDigitChars_eq_foldl, List.foldl_cons, Nat.mul_comm]
    rw [hstep, Nat.add_right_comm, Nat.add_assoc]

theorem isDigit_of_mem_padded {width n : Nat} {c : Char} (h : c ∈ padded width n) :
    c.isDigit = true := by
  rcases List.mem_append.1 h with h | h
  · rw [List.eq_of_mem_replicate h]
    rfl
  · exact Nat.isDigit_of_mem_toDigits (by decide) (by decide) h

theorem ofDigitChars_padded (width n : Nat) : Nat.ofDigitChars 10 (padded width n) 0 = n := by
  have hzeros : ∀ k, (List.replicate k '0').foldl
      (fun n c => 10 * n + (c.toNat - '0'.toNat)) 0 = 0 := by
    intro k
    induction k with
    | zero => rfl
    | succ k ih => rw [List.replicate_succ, List.foldl_cons]; exact ih
  rw [padded, Nat.ofDigitChars_eq_foldl, List.foldl_append, hzeros, ← Nat.ofDigitChars_eq_foldl]
  exact Nat.ofDigitChars_toDigits (by decide) (by decide)

theorem length_padded {width n : Nat} (hwidth : 0 < width) (h : n < Decimal.tenTo width) :
    (padded width n).length = width := by
  have hlength := (Nat.length_toDigits_le_iff (by decide) hwidth).2 h
  rw [padded, List.length_append, List.length_replicate]
  omega

theorem padded_eq_cons (width n : Nat) : ∃ c cs, padded width n = c :: cs ∧ c.isDigit = true := by
  have hne : padded width n ≠ [] := by
    intro h
    exact Nat.toDigits_ne_nil (List.append_eq_nil_iff.1 h).2
  obtain ⟨c, cs, hcons⟩ := List.exists_cons_of_ne_nil hne
  exact ⟨c, cs, hcons, isDigit_of_mem_padded (hcons ▸ List.mem_cons_self)⟩

theorem isSpace_of_isDigit {c : Char} (hc : c.isDigit = true) : isSpace c = false := by
  rw [Char.isDigit, Bool.and_eq_true, decide_eq_true_eq, decide_eq_true_eq] at hc
  obtain ⟨hlow, hhigh⟩ := hc
  have hlow' : 48 ≤ c.toNat := hlow
  have hhigh' : c.toNat ≤ 57 := hhigh
  simp only [isSpace, Bool.or_eq_false_iff, Bool.and_eq_false_iff, decide_eq_false_iff_not,
    beq_eq_false_iff_ne]
  omega

theorem trimStart_padded (width n : Nat) (rest : List Char) :
    trimStart (padded width n ++ rest) = padded width n ++ rest := by
  obtain ⟨c, cs, hcons, hc⟩ := padded_eq_cons width n
  rw [hcons]
  exact trimStart_of_head (isSpace_of_isDigit hc) _

theorem takeNumber_padded {width n : Nat} (hwidth : 0 < width) (h : n < Decimal.tenTo width)
    (rest : List Char) : takeNumber width (padded width n ++ rest) 0 0 = (n, width, rest) := by
  have hlength := length_padded hwidth h
  rw [takeNumber_append (fun _ => isDigit_of_mem_padded) (Nat.le_of_eq hlength) (.inl hlength),
    ofDigitChars_padded, hlength, Nat.zero_add]

/-- A number is read as it was written. -/
theorem readNumber_padded {width n : Nat} (hwidth : 0 < width) (h : n < Decimal.tenTo width)
    (rest : List Char) : readNumber width (padded width n ++ rest) = some (n, rest) := by
  rw [readNumber, trimStart_padded, takeNumber_padded hwidth h]
  obtain ⟨width, rfl⟩ : ∃ k, width = k + 1 := ⟨width - 1, by omega⟩
  rfl

theorem readAllDigits_padded (width n : Nat) {rest : List Char} (hrest : NoDigit rest) :
    readAllDigits (padded width n ++ rest) = some (n, rest) := by
  obtain ⟨c, cs, hcons, -⟩ := padded_eq_cons width n
  rw [readAllDigits, takeNumber_append (fun _ => isDigit_of_mem_padded)
    (by rw [List.length_append]; omega) (.inr hrest), ofDigitChars_padded, hcons]
  rfl

/-! ## Parts of a text -/

theorem readYear_yearChars (year : Int) {rest : List Char} (hrest : NoDigit rest) :
    readYear (yearChars year ++ rest) = some (year, rest) := by
  unfold yearChars
  split
  · next hyear =>
    have hmost : year.toNat < 10000 := by omega
    have hread := readNumber_padded (show 0 < 4 by decide) hmost rest
    obtain ⟨c, cs, hcons, hdigit⟩ := padded_eq_cons 4 year.toNat
    rw [readYear, trimStart_padded]
    rw [hcons, List.cons_append] at hread ⊢
    split
    · next heq =>
      cases heq
      cases hdigit
    · next heq =>
      cases heq
      cases hdigit
    · rw [hread]
      exact congrArg (fun y => some (y, rest)) (Int.toNat_of_nonneg hyear.1)
  · have hread := readAllDigits_padded 4 year.natAbs hrest
    rw [List.cons_append]
    split
    · next hneg =>
      have hvalue : -(year.natAbs : Int) = year := by omega
      rw [readYear, trimStart_of_head (by decide)]
      exact (congrArg (Option.map _) hread).trans (congrArg (fun y => some (y, rest)) hvalue)
    · next hpos =>
      have hvalue : (year.natAbs : Int) = year := by omega
      rw [readYear, trimStart_of_head (by decide)]
      exact (congrArg (Option.map _) hread).trans (congrArg (fun y => some (y, rest)) hvalue)

theorem readMark_cons (mark : Char) (hmark : isSpace mark = false) (rest : List Char) :
    readMark mark (mark :: rest) = some rest := by
  rw [readMark, trimStart_of_head hmark]
  exact if_pos rfl

/-- A text with which the time of day goes on behind its digits. -/
structure Ends (rest : List Char) : Prop where
  noDigit : NoDigit rest
  noPoint : ∀ c ∈ rest.head?, c ≠ '.'

theorem dropWhile_of_noDigit {rest : List Char} (h : NoDigit rest) :
    rest.dropWhile Char.isDigit = rest := by
  cases rest with
  | nil => rfl
  | cons c rest =>
    refine List.dropWhile_cons_of_neg ?_
    rw [h c rfl]
    exact Bool.false_ne_true

theorem readFraction_padded {width n : Nat} (hwidth : 0 < width) (hmost : width ≤ 9)
    (h : n < Decimal.tenTo width) {rest : List Char} (hrest : NoDigit rest) :
    readFraction ('.' :: (padded width n ++ rest)) =
      some (n * Decimal.tenTo (9 - width), rest) := by
  have hlength := length_padded hwidth h
  rw [readFraction, takeNumber_append (fun _ => isDigit_of_mem_padded) (by omega) (.inr hrest),
    ofDigitChars_padded, hlength, Nat.zero_add]
  obtain ⟨width, rfl⟩ : ∃ k, width = k + 1 := ⟨width - 1, by omega⟩
  show some (n * Decimal.tenTo (9 - (width + 1)), rest.dropWhile Char.isDigit) = _
  rw [dropWhile_of_noDigit hrest]

/-- The digits left out are zero. -/
theorem readFraction_fractionChars {n : Nat} (h : n < 1000000000) {rest : List Char}
    (hrest : Ends rest) : readFraction (fractionChars n ++ rest) = some (n, rest) := by
  unfold fractionChars
  split
  · next hzero =>
    subst hzero
    rw [List.nil_append]
    unfold readFraction
    split
    · next c => exact absurd rfl (hrest.noPoint '.' rfl)
    · rfl
  split
  · next hthree =>
    have hmost : n / 1000000 < 1000 := by omega
    rw [List.cons_append, readFraction_padded (by decide) (by decide) hmost hrest.noDigit]
    have hvalue : n / 1000000 * Decimal.tenTo (9 - 3) = n := by
      show n / 1000000 * 1000000 = n
      omega
    rw [hvalue]
  split
  · next hsix =>
    have hmost : n / 1000 < 1000000 := by omega
    rw [List.cons_append, readFraction_padded (by decide) (by decide) hmost hrest.noDigit]
    have hvalue : n / 1000 * Decimal.tenTo (9 - 6) = n := by
      show n / 1000 * 1000 = n
      omega
    rw [hvalue]
  · rw [List.cons_append, readFraction_padded (by decide) (by decide) h hrest.noDigit]
    exact congrArg (fun n => some (n, rest)) (Nat.mul_one n)

/-! ## Offsets -/

/-- The offset that is read where clocks are some seconds ahead of UTC. -/
def writtenOffset (seconds : Int) : Int :=
  if seconds < 0 then -(nearestMinutes seconds.natAbs * 60 : Nat)
  else (nearestMinutes seconds.natAbs * 60 : Nat)

/-- An offset is written as it is if it has no seconds. -/
theorem writtenOffset_eq_iff {seconds : Int} : writtenOffset seconds = seconds ↔ 60 ∣ seconds := by
  unfold writtenOffset nearestMinutes
  split <;> omega

/-- Half a minute is the most by which what is written differs from an offset. -/
theorem natAbs_sub_writtenOffset_le (seconds : Int) :
    (seconds - writtenOffset seconds).natAbs ≤ 30 := by
  unfold writtenOffset nearestMinutes
  split <;> omega

theorem ends_offsetChars (seconds : Int) : Ends (offsetChars seconds) := by
  unfold offsetChars
  split
  · exact ⟨noDigit_cons rfl _, by rintro c ⟨⟩; decide⟩
  dsimp only
  split
  · exact ⟨noDigit_cons rfl _, by rintro c ⟨⟩; decide⟩
  · exact ⟨noDigit_cons rfl _, by rintro c ⟨⟩; decide⟩

theorem readOffsetDigits_padded {n : Nat} (h : n < 6000) :
    readOffsetDigits (padded 2 (n / 60) ++ ':' :: padded 2 (n % 60)) = some (n * 60, []) := by
  obtain ⟨c, cs, hcons, hdigit⟩ := padded_eq_cons 2 (n % 60)
  have hdrop : (':' :: padded 2 (n % 60)).dropWhile (fun c => c = ':' || isSpace c) =
      padded 2 (n % 60) := by
    have hc : (decide (c = ':') || isSpace c) = false := by
      rw [isSpace_of_isDigit hdigit, Bool.or_false, decide_eq_false_iff_not]
      rintro rfl
      cases hdigit
    rw [List.dropWhile_cons_of_pos rfl, hcons]
    exact List.dropWhile_cons_of_neg (by rw [hc]; exact Bool.false_ne_true)
  have hhours : n / 60 < 100 := by omega
  have hminutes : n % 60 < 100 := by omega
  have hfirst := takeNumber_padded (show 0 < 2 by decide) hhours (':' :: padded 2 (n % 60))
  have hlast := takeNumber_padded (show 0 < 2 by decide) hminutes []
  rw [List.append_nil] at hlast
  have hvalue : n / 60 * 3600 + n % 60 * 60 = n * 60 := by omega
  simp only [readOffsetDigits, hfirst, hdrop, hlast, hvalue]
  exact if_pos (by omega)

theorem readOffset_offsetChars {seconds : Int} (h : seconds.natAbs < 86400) :
    readOffset (offsetChars seconds) = some (writtenOffset seconds, []) := by
  have hminutes : nearestMinutes seconds.natAbs < 6000 := by
    unfold nearestMinutes
    omega
  have hdigits := readOffsetDigits_padded hminutes
  unfold offsetChars writtenOffset
  split
  · next hzero =>
    subst hzero
    rfl
  dsimp only
  split
  · have hname : ∀ cs : List Char, (('-' :: cs).take 3).map Char.toUpper ≠ ['U', 'T', 'C'] := by
      intro cs hcs
      cases hcs
    rw [readOffset, if_neg (hname _), if_neg (by decide), if_neg (by decide), if_pos (.inl rfl),
      hdigits]
    rfl
  · have hname : ∀ cs : List Char, (('+' :: cs).take 3).map Char.toUpper ≠ ['U', 'T', 'C'] := by
      intro cs hcs
      cases hcs
    rw [readOffset, if_neg (hname _), if_neg (by decide), if_pos rfl, hdigits]
    rfl

theorem trimStart_offsetChars (seconds : Int) :
    trimStart (offsetChars seconds) = offsetChars seconds := by
  unfold offsetChars
  split
  · rfl
  dsimp only
  split <;> exact trimStart_of_head (by decide) _

/-! ## Instants -/

namespace Instant

/-- The time of day makes up the seconds since the day began. -/
theorem clock_spec {t : Instant} (hnanos : t.nanos < nanosPerSecond) :
    t.hour ≤ 23 ∧ t.minute ≤ 59 ∧ t.second ≤ 59 ∧
      t.hour * 3600 + t.minute * 60 + t.second = t.secondOfDay := by
  have hday : t.secondOfDay < 86400 := by
    unfold secondOfDay secondsPerDay
    omega
  have hwhole : t.nanos / nanosPerSecond = 0 := Nat.div_eq_of_lt hnanos
  unfold hour minute second
  omega

/-- What clocks show gives the instant at which they do, if they are ahead of UTC by the offset given
with it. -/
theorem ofParts_reading {r : Instant} (hnanos : r.nanos < nanosPerSecond) (hkept : r.isKept = true)
    {offset : Int} (hkept' : (r.ahead (-offset)).isKept = true) :
    ofParts r.date r.hour r.minute r.second r.nanos offset =
      if offset.natAbs < 86400 then some (r.ahead (-offset)) else none := by
  obtain ⟨hhour, hminute, hsecond, hclock⟩ := clock_spec hnanos
  have hreal : r.date.isReal = true := Date.isReal_ofDays _
  replace hkept : keepsYear r.date.year = true := hkept
  have hreading : r.date.toDays * secondsPerDay + (r.hour * 3600 + r.minute * 60 + r.second : Nat) =
      r.seconds := by
    rw [hclock, date, Date.toDays_ofDays]
    unfold secondOfDay secondsPerDay
    omega
  have hleap : r.second ≠ 60 := by omega
  have hresult : (⟨r.seconds - offset, r.nanos⟩ : Instant) = r.ahead (-offset) := rfl
  simp only [ofParts, hreal, hkept, hhour, hminute, Nat.le_succ_of_le hsecond, hleap,
    Nat.min_eq_left hsecond, hreading, hresult, hkept', Bool.true_and, decide_true, if_true,
    if_false, decide_eq_true_eq]

variable {t : Instant}

/-- **What is read of a text.** The text of an instant by the clocks of a place is read as the
instant, but for what the offset lost when it was rounded. An offset that was rounded up to a day is
refused. -/
theorem ofRfc3339_toRfc3339 (hnanos : t.nanos < nanosPerSecond) (hfirst : leastYear < t.date.year)
    (hlast : t.date.year < mostYear) (z : Zone) :
    ofRfc3339 (t.toRfc3339 z) =
      if (writtenOffset (z.offset t)).natAbs < 86400 then
        some (t.ahead (z.offset t - writtenOffset (z.offset t)))
      else none := by
  have hr : (z.reading t).nanos < nanosPerSecond := hnanos
  have hkept : (z.reading t).isKept = true := isKept_ahead hfirst hlast (z.within t)
  have hback : (z.reading t).ahead (-writtenOffset (z.offset t)) =
      t.ahead (z.offset t - writtenOffset (z.offset t)) := by
    rw [Zone.reading, ahead, ahead, ahead, Int.add_assoc, ← Int.sub_eq_add_neg]
  have hkept' : (t.ahead (z.offset t - writtenOffset (z.offset t))).isKept = true := by
    refine isKept_ahead hfirst hlast (Nat.lt_of_le_of_lt (natAbs_sub_writtenOffset_le _) ?_)
    decide
  have hfraction : (z.reading t).fraction = (z.reading t).nanos := Nat.mod_eq_of_lt hr
  obtain ⟨hmonth, hday⟩ := (z.reading t).date.bounds_of_isReal (Date.isReal_ofDays _)
  obtain ⟨hhour, hminute, hsecond, -⟩ := clock_spec hr
  have hnumber : ∀ {n : Nat}, n < 100 → ∀ rest,
      readNumber 2 (padded 2 n ++ rest) = some (n, rest) :=
    fun hn rest => readNumber_padded (by decide) hn rest
  simp only [ofRfc3339, toRfc3339, String.toList_ofList, Date.chars, clockChars, List.append_assoc,
    List.cons_append, bind, Option.bind,
    readYear_yearChars (z.reading t).date.year (noDigit_cons (c := '-') rfl _),
    hnumber (n := (z.reading t).date.month) (by omega),
    hnumber (n := (z.reading t).date.day) (by omega),
    hnumber (n := (z.reading t).hour) (by omega),
    hnumber (n := (z.reading t).minute) (by omega),
    hnumber (n := (z.reading t).second) (by omega),
    readMark_cons '-' (by decide), readMark_cons ':' (by decide),
    hfraction, readFraction_fractionChars hr (ends_offsetChars (z.offset t)),
    trimStart_offsetChars, readOffset_offsetChars (z.within t)]
  rw [← hback] at hkept' ⊢
  exact ofParts_reading hr hkept hkept'

/-- **Texts give instants back** where the clocks are a whole number of minutes from UTC, and nowhere
else. -/
theorem ofRfc3339_toRfc3339_iff (hnanos : t.nanos < nanosPerSecond)
    (hfirst : leastYear < t.date.year) (hlast : t.date.year < mostYear) (z : Zone) :
    ofRfc3339 (t.toRfc3339 z) = some t ↔ 60 ∣ z.offset t := by
  have hread := ofRfc3339_toRfc3339 hnanos hfirst hlast z
  rw [← writtenOffset_eq_iff]
  refine ⟨fun h => ?_, fun h => ?_⟩
  · rw [hread] at h
    split at h
    · have hslip := ahead_eq_iff.1 (Option.some.inj h)
      omega
    · cases h
  · rw [hread, h, if_pos (z.within t), ahead_eq_iff.2 (Int.sub_self _)]

end Instant

end PacketTelemetry.Time
