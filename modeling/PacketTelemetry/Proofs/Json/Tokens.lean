/-
Strings and whole numbers as they are written, read again.

A character of a string is written in one of three ways, and each is read back
as that character (`readStringFrom_escape`). The digits of a whole number never
begin with a zero too many, and as long as it has 64 bits none of them is left
out when it is read (`readNumber_natAbs`).
-/
import PacketTelemetry.Json.Printer
import PacketTelemetry.Json.Reader

namespace PacketTelemetry.Json

open PacketTelemetry.Decimal

theorem Source.ofChars_cons (c : Char) (cs : List Char) :
    Source.ofChars (c :: cs) = some c :: Source.ofChars cs := rfl

theorem Source.ofChars_append (cs cs' : List Char) :
    Source.ofChars (cs ++ cs') = Source.ofChars cs ++ Source.ofChars cs' :=
  List.map_append

/-! ## Strings -/

theorem hexDigit?_hexDigit (n : Nat) : hexDigit? (hexDigit n) = some (n % 16) := by
  have hall : ∀ d < 16, hexDigit? (Nat.digitChar d) = some d := by decide
  exact hall _ (Nat.mod_lt _ (by decide))

/-- The four digits of an escape give the character of their number. -/
theorem readStringFrom_number {c : Char} (hc : c.toNat < 0x20) (done : List Char) (s : Source) :
    readStringFrom (.number 4 0 none) done
        (some '0' :: some '0' :: some (hexDigit (c.toNat / 16)) :: some (hexDigit c.toNat) :: s) =
      readStringFrom .plain (c :: done) s := by
  have hzero : hexDigit? '0' = some 0 := by decide
  have hvalue : c.toNat / 16 % 16 * 16 + c.toNat % 16 = c.toNat := by omega
  simp only [readStringFrom, Option.bind_some, hzero, hexDigit?_hexDigit, endEscape]
  simp [hvalue, show ¬ (0xDC00 ≤ c.toNat) by omega, show ¬ (0xD800 ≤ c.toNat) by omega]

/-- A character is read again as it was written. -/
theorem readStringFrom_escape (c : Char) (done : List Char) (s : Source) :
    readStringFrom .plain done (Source.ofChars (escape c) ++ s) =
      readStringFrom .plain (c :: done) s := by
  have hnumbered : ∀ n, c.toNat = n → c = Char.ofNat n := by
    rintro n rfl
    exact (Char.ofNat_toNat c).symm
  unfold escape
  split
  · next h => subst h; simp [Source.ofChars, readStringFrom, unescape?]
  split
  · next h => subst h; simp [Source.ofChars, readStringFrom, unescape?]
  split
  · next h => subst h; simp [Source.ofChars, readStringFrom, unescape?]
  split
  · next h => subst h; simp [Source.ofChars, readStringFrom, unescape?]
  split
  · next h => subst h; simp [Source.ofChars, readStringFrom, unescape?]
  split
  · next h => rw [hnumbered 8 h]; simp [Source.ofChars, readStringFrom, unescape?]
  split
  · next h => rw [hnumbered 12 h]; simp [Source.ofChars, readStringFrom, unescape?]
  split
  · next h => exact readStringFrom_number h done s
  · next hquote hbackslash _ _ _ _ _ hcontrol =>
    simp [Source.ofChars, readStringFrom, hquote, hbackslash, hcontrol]

/-- A string is read again as it was written. -/
theorem readStringFrom_bodyOnto (cs done rest : List Char) :
    readStringFrom .plain done (Source.ofChars (bodyOnto cs rest)) =
      .ok (String.ofList (done.reverse ++ cs), Source.ofChars rest) := by
  induction cs generalizing done with
  | nil => simp [bodyOnto, Source.ofChars, readStringFrom]
  | cons c cs ih =>
    rw [bodyOnto, Source.ofChars_append, readStringFrom_escape, ih, List.reverse_cons,
      List.append_assoc]
    rfl

theorem readString_bodyOnto (s : String) (rest : List Char) :
    readString (Source.ofChars (bodyOnto s.toList rest)) = .ok (s, Source.ofChars rest) := by
  rw [readString, readStringFrom_bodyOnto, List.reverse_nil, List.nil_append, String.ofList_toList]

/-! ## Whole numbers -/

/-- What may stand behind a value: nothing, or what goes on with the array or object around it, or
ends it. -/
def Behind (rest : List Char) : Prop := ∀ c ∈ rest.head?, c = ',' ∨ c = ']' ∨ c = '\x7d'

theorem behind_nil : Behind [] := fun _ h => by cases h

theorem behind_cons {c : Char} (hc : c = ',' ∨ c = ']' ∨ c = '\x7d') (rest : List Char) :
    Behind (c :: rest) := by
  intro c' h
  cases h
  exact hc

/-- The digits a number is written with. -/
def digitsOf (n : Nat) : List Nat := (Nat.toDigits 10 n).map fun c => c.toNat - '0'.toNat

theorem ofDigits_digitsOf (n : Nat) : ofDigits (digitsOf n) = n := by
  have hcore := Nat.ofDigitChars_toDigits (b := 10) (n := n) (by decide) (by decide)
  rw [Nat.ofDigitChars_eq_foldl] at hcore
  rw [ofDigits, digitsOf, List.foldl_map]
  simpa only [Nat.mul_comm] using hcore

/-- Only zero begins with a zero. -/
theorem head?_digitsOf {n : Nat} (hn : 0 < n) : ∀ d ∈ (digitsOf n).head?, d ≠ 0 := by
  induction n using Nat.strongRecOn with
  | ind n ih =>
    by_cases hten : n < 10
    · have hdigits : digitsOf n = [n] := by
        rw [digitsOf, Nat.toDigits_of_lt_base hten, List.map_singleton]
        exact congrArg ([·]) (Nat.toNat_digitChar_sub_48_of_lt_ten hten)
      intro d hd
      rw [hdigits] at hd
      cases hd
      omega
    · have hhead : (digitsOf n).head? = (digitsOf (n / 10)).head? := by
        obtain ⟨c, cs, hcons⟩ :=
          List.exists_cons_of_ne_nil (Nat.toDigits_ne_nil (n := n / 10) (b := 10))
        rw [digitsOf, digitsOf, Nat.toDigits_of_base_le (by decide) (by omega), hcons]
        rfl
      rw [hhead]
      exact ih (n / 10) (by omega) (by omega)

theorem digitsOf_zero : digitsOf 0 = [0] := by decide

theorem digitsOf_ne_nil (n : Nat) : digitsOf n ≠ [] := by
  rw [digitsOf, ne_eq, List.map_eq_nil_iff]
  exact Nat.toDigits_ne_nil

/-- A zero stands at the front only where it stands alone. -/
theorem eq_nil_of_digitsOf {n : Nat} {ds : List Nat} (h : digitsOf n = 0 :: ds) : ds = [] := by
  cases Nat.eq_zero_or_pos n with
  | inl hzero =>
    rw [hzero, digitsOf_zero] at h
    exact (List.cons.inj h).2.symm
  | inr hpos => exact absurd rfl (head?_digitsOf hpos 0 (by rw [h]; rfl))

theorem takeDigits_append {cs : List Char} (hcs : ∀ c ∈ cs, c.isDigit = true) {s : Source}
    (hs : ∀ x ∈ s.head?, x.bind digit? = none) :
    takeDigits (Source.ofChars cs ++ s) = (cs.map fun c => c.toNat - '0'.toNat, s) := by
  induction cs with
  | nil =>
    cases s with
    | nil => rfl
    | cons x s => simp [Source.ofChars, takeDigits, hs x rfl]
  | cons c cs ih =>
    have hc : digit? c = some (c.toNat - '0'.toNat) := by
      rw [digit?, if_pos (hcs c List.mem_cons_self)]
    have hrest := ih fun c' h => hcs c' (List.mem_cons_of_mem c h)
    rw [Source.ofChars_cons, List.cons_append, takeDigits, Option.bind_some, hc, hrest]
    rfl

/-- Whole numbers of 64 bits lose no digit. -/
theorem fitWhole_of_lt {ds : List Nat} (h : ofDigits ds < twoTo 64) :
    fitWhole ds = (ofDigits ds, 0) := by
  have hmono : ∀ (ds : List Nat) (n : Nat), n ≤ ds.foldl (fun n d => n * 10 + d) n := by
    intro ds
    induction ds with
    | nil => exact fun n => Nat.le_refl n
    | cons d ds ih => exact fun n => Nat.le_trans (by omega) (ih (n * 10 + d))
  have hfit : ∀ (ds : List Nat) (n : Nat), ds.foldl (fun n d => n * 10 + d) n < twoTo 64 →
      ds.foldl (fun (p : Nat × Nat) d =>
        if p.2 = 0 ∧ p.1 * 10 + d < twoTo 64 then (p.1 * 10 + d, 0) else (p.1, p.2 + 1)) (n, 0) =
          (ds.foldl (fun n d => n * 10 + d) n, 0) := by
    intro ds
    induction ds with
    | nil => exact fun n _ => rfl
    | cons d ds ih =>
      intro n h
      have hnext : n * 10 + d < twoTo 64 := Nat.lt_of_le_of_lt (hmono ds _) h
      rw [List.foldl_cons, List.foldl_cons, if_pos ⟨rfl, hnext⟩]
      exact ih _ h
  exact hfit ds 0 h

theorem readNumeral_toDigits (negative : Bool) (n : Nat) {rest : List Char} (hrest : Behind rest) :
    readNumeral negative (Source.ofChars (Nat.toDigits 10 n ++ rest)) =
      .ok (⟨negative, digitsOf n, none, none⟩, Source.ofChars rest) := by
  have hstop : ∀ x ∈ (Source.ofChars rest).head?, x.bind digit? = none := by
    intro x hx
    rw [Source.ofChars, List.head?_map] at hx
    obtain ⟨c, hc, rfl⟩ := Option.map_eq_some_iff.1 hx
    rcases hrest c hc with rfl | rfl | rfl <;> decide
  have htake : takeDigits (Source.ofChars (Nat.toDigits 10 n ++ rest)) =
      (digitsOf n, Source.ofChars rest) := by
    rw [Source.ofChars_append]
    exact takeDigits_append (fun c h => Nat.isDigit_of_mem_toDigits (by decide) (by decide) h) hstop
  have hdigits : readDigits (Source.ofChars (Nat.toDigits 10 n ++ rest)) =
      .ok (digitsOf n, Source.ofChars rest) := by
    unfold readDigits
    rw [htake]
    split
    · next h => exact absurd (congrArg Prod.fst h) (digitsOf_ne_nil n)
    · next h => exact absurd (congrArg Prod.fst h) (digitsOf_ne_nil n)
    · next h => cases h; rfl
  have hwhole : readWhole (Source.ofChars (Nat.toDigits 10 n ++ rest)) =
      .ok (digitsOf n, Source.ofChars rest) := by
    unfold readWhole
    rw [hdigits]
    dsimp only [bind, Except.bind]
    split
    · next h => cases eq_nil_of_digitsOf h
    · rfl
  have hfraction : readFraction (Source.ofChars rest) = .ok (none, Source.ofChars rest) := by
    cases rest with
    | nil => rfl
    | cons c cs => rcases hrest c rfl with rfl | rfl | rfl <;> rfl
  have hexponent : readExponent (Source.ofChars rest) = .ok (none, Source.ofChars rest) := by
    cases rest with
    | nil => rfl
    | cons c cs => rcases hrest c rfl with rfl | rfl | rfl <;> rfl
  simp only [readNumeral, hwhole, bind, Except.bind, hfraction, hexponent]

/-- A whole number of 64 bits, with a sign or without. -/
def IsWhole (n : Int) : Prop := -(twoTo 63 : Int) ≤ n ∧ n < (twoTo 64 : Int)

instance (n : Int) : Decidable (IsWhole n) := inferInstanceAs (Decidable (_ ∧ _))

/-- A whole number is read again as it was written, without its sign. -/
theorem readNumber_natAbs {n : Int} (hn : IsWhole n) {rest : List Char} (hrest : Behind rest) :
    readNumber (decide (n < 0)) (Source.ofChars (Nat.toDigits 10 n.natAbs ++ rest)) =
      .ok (.integer n, Source.ofChars rest) := by
  have htwo : twoTo 63 < twoTo 64 := by decide
  have hfit : fitWhole (digitsOf n.natAbs) = (n.natAbs, 0) := by
    have hlt : ofDigits (digitsOf n.natAbs) < twoTo 64 := by
      rw [ofDigits_digitsOf]
      obtain ⟨hlow, hhigh⟩ := hn
      omega
    rw [fitWhole_of_lt hlt, ofDigits_digitsOf]
  have hvalue : (⟨decide (n < 0), digitsOf n.natAbs, none, none⟩ : Numeral).value =
      some (.integer n) := by
    simp only [Numeral.value, hfit]
    by_cases hneg : n < 0
    · have hbound : n.natAbs ≤ twoTo 63 := by
        have hlow := hn.1
        omega
      have hsigned : -(n.natAbs : Int) = n := by omega
      have hpositive : 0 < n.natAbs := by omega
      rw [if_neg (by simp [hneg]), if_pos ⟨trivial, hpositive, hbound⟩, hsigned]
    · have hsigned : (n.natAbs : Int) = n := by omega
      rw [if_pos (by simp [hneg]), hsigned]
  simp only [readNumber, readNumeral_toDigits _ _ hrest, bind, Except.bind, hvalue]

end PacketTelemetry.Json
