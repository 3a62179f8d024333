/-
Values as they are written, read again (`readsBack`), and values as they come
from a reader (`readValue_fits`).

Whatever texts and numbers a value holds, no control character is written for it
(`noControl_chars`), and so it takes one line. It is read again as it was written
if its numbers are whole, its members stand in order, and it holds no more levels
than the reader lets it. The last two hold of every value that has been read,
whatever the text was, so whatever has been read and has whole numbers may be
written and read once more.
-/
import PacketTelemetry.Proofs.Json.Steps
import PacketTelemetry.Proofs.Json.Tokens

namespace PacketTelemetry.Json

open PacketTelemetry.Decimal

/-! ## Values, level by level -/

namespace Value

/-- What a value owes to its items and members alone holds of every value. -/
theorem induction {P : Value → Prop} (null : P .null) (boolean : ∀ b, P (.boolean b))
    (number : ∀ n, P (.number n)) (text : ∀ s, P (.text s))
    (array : ∀ vs : List Value, (∀ v ∈ vs, P v) → P (.array vs))
    (object : ∀ ms : Members, (∀ e ∈ ms, P e.2) → P (.object ms)) (v : Value) : P v := by
  refine Value.rec (motive_1 := P) (motive_2 := fun vs => ∀ v ∈ vs, P v)
    (motive_3 := fun ms => ∀ e ∈ ms, P e.2) (motive_4 := fun e => P e.2)
    null boolean number text array object ?_ ?_ ?_ ?_ ?_ v
  · exact fun v h => nomatch h
  · exact fun v vs hv hvs => List.forall_mem_cons.2 ⟨hv, hvs⟩
  · exact fun e h => nomatch h
  · exact fun e ms he hms => List.forall_mem_cons.2 ⟨he, hms⟩
  · exact fun _ _ h => h

mutual

/-- The levels of arrays and objects a value holds. -/
def depth : Value → Nat
  | .array vs => itemsDepth vs + 1
  | .object ms => membersDepth ms + 1
  | _ => 0

def itemsDepth : List Value → Nat
  | [] => 0
  | v :: vs => max v.depth (itemsDepth vs)

def membersDepth : List (String × Value) → Nat
  | [] => 0
  | (_, v) :: ms => max v.depth (membersDepth ms)

end

theorem depth_array_le {vs : List Value} {n : Nat} :
    (Value.array vs).depth ≤ n + 1 ↔ ∀ v ∈ vs, v.depth ≤ n := by
  have hitems : itemsDepth vs ≤ n ↔ ∀ v ∈ vs, v.depth ≤ n := by
    induction vs with
    | nil => exact iff_of_true (Nat.zero_le n) fun _ h => nomatch h
    | cons v vs ih => rw [itemsDepth, Nat.max_le, List.forall_mem_cons, ih]
  rw [depth, Nat.add_le_add_iff_right, hitems]

theorem depth_object_le {ms : Members} {n : Nat} :
    (Value.object ms).depth ≤ n + 1 ↔ ∀ e ∈ ms, e.2.depth ≤ n := by
  have hmembers : membersDepth ms ≤ n ↔ ∀ e ∈ ms, e.2.depth ≤ n := by
    induction ms with
    | nil => exact iff_of_true (Nat.zero_le n) fun _ h => nomatch h
    | cons e ms ih => rw [membersDepth, Nat.max_le, List.forall_mem_cons, ih]
  rw [depth, Nat.add_le_add_iff_right, hmembers]

mutual

/-- Whether a value and those it holds, at every level, are of a kind. -/
def every (p : Value → Bool) : Value → Bool
  | .array vs => p (.array vs) && everyItem p vs
  | .object ms => p (.object ms) && everyMember p ms
  | v => p v

def everyItem (p : Value → Bool) : List Value → Bool
  | [] => true
  | v :: vs => v.every p && everyItem p vs

def everyMember (p : Value → Bool) : List (String × Value) → Bool
  | [] => true
  | (_, v) :: ms => v.every p && everyMember p ms

end

variable {p : Value → Bool}

theorem every_array {vs : List Value} :
    (Value.array vs).every p = true ↔ p (.array vs) = true ∧ ∀ v ∈ vs, v.every p = true := by
  have hitems : everyItem p vs = true ↔ ∀ v ∈ vs, v.every p = true := by
    induction vs with
    | nil => exact iff_of_true rfl fun _ h => nomatch h
    | cons v vs ih => rw [everyItem, Bool.and_eq_true, List.forall_mem_cons, ih]
  rw [every, Bool.and_eq_true, hitems]

theorem every_object {ms : Members} :
    (Value.object ms).every p = true ↔ p (.object ms) = true ∧ ∀ e ∈ ms, e.2.every p = true := by
  have hmembers : everyMember p ms = true ↔ ∀ e ∈ ms, e.2.every p = true := by
    induction ms with
    | nil => exact iff_of_true rfl fun _ h => nomatch h
    | cons e ms ih => rw [everyMember, Bool.and_eq_true, List.forall_mem_cons, ih]
  rw [every, Bool.and_eq_true, hmembers]

/-- Whether all numbers are whole numbers of 64 bits. -/
def isWhole (v : Value) : Bool :=
  v.every fun
    | .number (.integer n) => IsWhole n
    | .number (.fractional _) => false
    | _ => true

/-- Whether all members stand in ascending order of their names, no name twice. -/
def isOrdered (v : Value) : Bool :=
  v.every fun
    | .object ms => Table.Ordered ms
    | _ => true

theorem isWhole_integer {n : Int} : (Value.number (.integer n)).isWhole = true ↔ IsWhole n :=
  decide_eq_true_iff

theorem isWhole_array {vs : List Value} :
    (Value.array vs).isWhole = true ↔ ∀ v ∈ vs, v.isWhole = true :=
  every_array.trans (and_iff_right rfl)

theorem isWhole_object {ms : Members} :
    (Value.object ms).isWhole = true ↔ ∀ e ∈ ms, e.2.isWhole = true :=
  every_object.trans (and_iff_right rfl)

theorem isOrdered_array {vs : List Value} :
    (Value.array vs).isOrdered = true ↔ ∀ v ∈ vs, v.isOrdered = true :=
  every_array.trans (and_iff_right rfl)

theorem isOrdered_object {ms : Members} :
    (Value.object ms).isOrdered = true ↔
      Table.Ordered ms ∧ ∀ e ∈ ms, e.2.isOrdered = true :=
  every_object.trans (and_congr_left' decide_eq_true_iff)

end Value

/-! ## Written values -/

theorem bodyOnto_eq (cs rest : List Char) : bodyOnto cs rest = bodyOnto cs [] ++ rest := by
  induction cs with
  | nil => rfl
  | cons c cs ih => rw [bodyOnto, bodyOnto, ih, List.append_assoc]

theorem textOnto_eq (s : String) (rest : List Char) : textOnto s rest = textOnto s [] ++ rest :=
  congrArg ('"' :: ·) (bodyOnto_eq s.toList rest)

theorem itemsOnto_eq {vs : List Value} (h : ∀ v ∈ vs, ∀ rest, v.onto rest = v.chars ++ rest)
    (rest : List Char) : itemsOnto vs rest = itemsOnto vs [] ++ rest := by
  induction vs with
  | nil => rfl
  | cons v vs ih =>
    obtain ⟨hv, hvs⟩ := List.forall_mem_cons.1 h
    rw [itemsOnto, itemsOnto, hv, hv (itemsOnto vs []), ih hvs, List.cons_append, List.append_assoc]

theorem membersOnto_eq {ms : Members} (h : ∀ e ∈ ms, ∀ rest, e.2.onto rest = e.2.chars ++ rest)
    (rest : List Char) : membersOnto ms rest = membersOnto ms [] ++ rest := by
  induction ms with
  | nil => rfl
  | cons e ms ih =>
    obtain ⟨he, hms⟩ := List.forall_mem_cons.1 h
    rw [membersOnto, membersOnto, he, he (membersOnto ms []), ih hms, textOnto_eq,
      textOnto_eq e.1 (_ :: _)]
    simp only [List.cons_append, List.append_assoc]

/-- A value is written in front of a text without a look at it. -/
theorem Value.onto_eq (v : Value) (rest : List Char) : v.onto rest = v.chars ++ rest := by
  induction v using Value.induction generalizing rest with
  | null => rfl
  | boolean b => cases b <;> rfl
  | number n => rw [chars, onto, onto, List.append_nil]
  | text s => exact textOnto_eq s rest
  | array vs ih =>
    cases vs with
    | nil => rfl
    | cons v vs =>
      obtain ⟨hv, hvs⟩ := List.forall_mem_cons.1 ih
      rw [chars, onto, onto, hv, hv (itemsOnto vs []), itemsOnto_eq hvs, List.cons_append,
        List.append_assoc]
  | object ms ih =>
    cases ms with
    | nil => rfl
    | cons e ms =>
      obtain ⟨he, hms⟩ := List.forall_mem_cons.1 ih
      rw [chars, onto, onto, he, he (membersOnto ms []), membersOnto_eq hms, textOnto_eq,
        textOnto_eq e.1 (_ :: _)]
      simp only [List.cons_append, List.append_assoc]

/-- An object is written between braces. -/
theorem exists_object_chars (ms : Members) :
    ∃ cs, (Value.object ms).chars = '\x7b' :: (cs ++ ['\x7d']) := by
  have hend : ∀ ms : Members, ∃ cs, membersOnto ms [] = cs ++ ['\x7d'] := by
    intro ms
    induction ms with
    | nil => exact ⟨[], rfl⟩
    | cons e ms ih =>
      obtain ⟨cs, hcs⟩ := ih
      refine ⟨',' :: (textOnto e.1 [] ++ ':' :: (e.2.chars ++ cs)), ?_⟩
      rw [membersOnto, textOnto_eq, Value.onto_eq, hcs]
      simp only [List.cons_append, List.append_assoc]
  cases ms with
  | nil => exact ⟨[], rfl⟩
  | cons e ms =>
    obtain ⟨cs, hcs⟩ := hend ms
    refine ⟨textOnto e.1 [] ++ ':' :: (e.2.chars ++ cs), ?_⟩
    rw [Value.chars, Value.onto, textOnto_eq, Value.onto_eq, hcs]
    simp only [List.cons_append, List.append_assoc]

theorem ne_of_isDigit {c d : Char} (hc : c.isDigit = true) (hd : d.isDigit = false) : c ≠ d := by
  rintro rfl
  rw [hc] at hd
  cases hd

theorem isBlank_of_isDigit {c : Char} (hc : c.isDigit = true) : isBlank c = false := by
  simp only [isBlank, ne_of_isDigit hc (d := ' ') rfl, ne_of_isDigit hc (d := '\n') rfl,
    ne_of_isDigit hc (d := '\t') rfl, ne_of_isDigit hc (d := '\r') rfl]
  rfl

theorem toDigits_eq_cons (n : Nat) : ∃ c cs, Nat.toDigits 10 n = c :: cs ∧ c.isDigit = true := by
  obtain ⟨c, cs, hcons⟩ := List.exists_cons_of_ne_nil (Nat.toDigits_ne_nil (n := n) (b := 10))
  refine ⟨c, cs, hcons, Nat.isDigit_of_mem_toDigits (n := n) (b := 10) (by decide) (by decide) ?_⟩
  rw [hcons]
  exact List.mem_cons_self

/-- The first character of a value is no white space and ends no array. -/
theorem Value.onto_eq_cons {v : Value} (hv : v.isWhole = true) (rest : List Char) :
    ∃ c cs, v.onto rest = c :: cs ∧ isBlank c = false ∧ c ≠ ']' := by
  cases v with
  | null => exact ⟨'n', _, rfl, rfl, by decide⟩
  | boolean b => cases b <;> exact ⟨_, _, rfl, rfl, by decide⟩
  | number n =>
    cases n with
    | fractional x => cases hv
    | integer n =>
      rw [onto, Number.chars, intChars]
      split
      · exact ⟨'-', _, rfl, rfl, by decide⟩
      · obtain ⟨c, cs, hcons, hdigit⟩ := toDigits_eq_cons n.natAbs
        refine ⟨c, cs ++ rest, by rw [hcons]; rfl, isBlank_of_isDigit hdigit, ?_⟩
        exact ne_of_isDigit hdigit rfl
  | text s => exact ⟨'"', _, rfl, rfl, by decide⟩
  | array vs => cases vs <;> exact ⟨'[', _, rfl, rfl, by decide⟩
  | object ms => cases ms <;> exact ⟨'\x7b', _, rfl, rfl, by decide⟩

/-- Characters none of which is a control character below the space. -/
def NoControl (cs : List Char) : Prop := ∀ c ∈ cs, 0x20 ≤ c.toNat

instance (cs : List Char) : Decidable (NoControl cs) :=
  List.decidableBAll (fun c : Char => 0x20 ≤ c.toNat) cs

theorem NoControl.append {cs cs' : List Char} (h : NoControl cs) (h' : NoControl cs') :
    NoControl (cs ++ cs') :=
  List.forall_mem_append.2 ⟨h, h'⟩

theorem NoControl.cons {c : Char} (hc : 0x20 ≤ c.toNat) {cs : List Char} (h : NoControl cs) :
    NoControl (c :: cs) :=
  List.forall_mem_cons.2 ⟨hc, h⟩

theorem noControl_escape (c : Char) : NoControl (escape c) := by
  have hhex : ∀ n, 0x20 ≤ (hexDigit n).toNat := by
    intro n
    have hall : ∀ d < 16, 0x20 ≤ (Nat.digitChar d).toNat := by decide
    exact hall _ (Nat.mod_lt _ (by decide))
  have hshort : ∀ d : Char, 0x20 ≤ d.toNat → NoControl ['\\', d] := fun d hd =>
    .cons (by decide) (.cons hd (by decide))
  unfold escape
  iterate 7 (split; next => exact hshort _ (by decide))
  split
  · exact .append (hshort 'u' (by decide)) (.cons (by decide) (.cons (by decide)
      (.cons (hhex _) (.cons (hhex _) (by decide)))))
  · next h => exact .cons (Nat.not_lt.1 h) (by decide)

theorem noControl_textOnto (s : String) {rest : List Char} (hrest : NoControl rest) :
    NoControl (textOnto s rest) := by
  have hbody : ∀ cs, NoControl (bodyOnto cs rest) := by
    intro cs
    induction cs with
    | nil => exact .cons (by decide) hrest
    | cons c cs ih => exact (noControl_escape c).append ih
  exact .cons (by decide) (hbody s.toList)

theorem noControl_itemsOnto {vs : List Value} (h : ∀ v ∈ vs, NoControl v.chars) :
    NoControl (itemsOnto vs []) := by
  induction vs with
  | nil => decide
  | cons v vs ih =>
    obtain ⟨hv, hvs⟩ := List.forall_mem_cons.1 h
    rw [itemsOnto, Value.onto_eq]
    exact .cons (by decide) (hv.append (ih hvs))

theorem noControl_membersOnto {ms : Members} (h : ∀ e ∈ ms, NoControl e.2.chars) :
    NoControl (membersOnto ms []) := by
  induction ms with
  | nil => decide
  | cons e ms ih =>
    obtain ⟨he, hms⟩ := List.forall_mem_cons.1 h
    rw [membersOnto, Value.onto_eq]
    exact .cons (by decide) (noControl_textOnto e.1 (.cons (by decide) (he.append (ih hms))))

theorem noControl_toDigits (n : Nat) : NoControl (Nat.toDigits 10 n) := by
  intro c hc
  have hdigit := Nat.isDigit_of_mem_toDigits (by decide) (by decide) hc
  rw [Char.isDigit, Bool.and_eq_true, decide_eq_true_eq] at hdigit
  exact Nat.le_trans (by decide) hdigit.1

/-- Digits are laid out with a point, zeros, a sign and an exponent. -/
theorem noControl_layout {digits : List Char} (h : NoControl digits) (l : Layout) (first : Int) :
    NoControl (l.render digits first) := by
  have hzeros : ∀ n, NoControl (List.replicate n '0') := by
    intro n c hc
    rw [List.eq_of_mem_replicate hc]
    decide
  unfold Layout.render
  split
  · split
    · exact .cons (by decide) (.cons (by decide) ((hzeros _).append h))
    · dsimp only
      split
      · exact .append (h.append (hzeros _)) (by decide)
      · exact .append (fun c hc => h c (List.mem_of_mem_take hc))
          (.cons (by decide) fun c hc => h c (List.mem_of_mem_drop hc))
  · refine .append ?_ (.cons (by decide) (.cons ?_ (noControl_toDigits _)))
    · match digits, h with
      | [], _ => decide
      | [d], h => exact h
      | d :: d' :: rest, h =>
        obtain ⟨hd, hrest⟩ := List.forall_mem_cons.1 h
        exact .cons hd (.cons (by decide) hrest)
    · split <;> decide

theorem noControl_number (n : Number) : NoControl n.chars := by
  cases n with
  | integer n =>
    rw [Number.chars, intChars]
    split
    · exact .cons (by decide) (noControl_toDigits _)
    · exact noControl_toDigits _
  | fractional x =>
    rw [Number.chars]
    split
    · have hbody : NoControl (if x.parts.1 = 0 then ['0', '.', '0'] else
          numberLayout.render (Nat.toDigits 10 x.shortest.digits)
            (x.shortest.exponent + (Nat.toDigits 10 x.shortest.digits).length - 1)) := by
        split
        · decide
        · exact noControl_layout (noControl_toDigits _) _ _
      unfold Binary64.text
      dsimp only
      split
      · exact .cons (by decide) hbody
      · exact hbody
    · decide

/-- A value is written without a control character, and so on one line. -/
theorem noControl_chars (v : Value) : NoControl v.chars := by
  induction v using Value.induction with
  | null => decide
  | boolean b => cases b <;> decide
  | number n =>
    rw [Value.chars, Value.onto, List.append_nil]
    exact noControl_number n
  | text s => exact noControl_textOnto s (by decide)
  | array vs ih =>
    cases vs with
    | nil => decide
    | cons v vs =>
      obtain ⟨hv, hvs⟩ := List.forall_mem_cons.1 ih
      rw [Value.chars, Value.onto, Value.onto_eq]
      exact .cons (by decide) (hv.append (noControl_itemsOnto hvs))
  | object ms ih =>
    cases ms with
    | nil => decide
    | cons e ms =>
      obtain ⟨he, hms⟩ := List.forall_mem_cons.1 ih
      rw [Value.chars, Value.onto, Value.onto_eq]
      exact .cons (by decide) (noControl_textOnto e.1 (.cons (by decide)
        (he.append (noControl_membersOnto hms))))

/-! ## Values read again -/

/-- A value is read again as it was written, whatever may stand behind it. -/
def ReadsBack (levels : Nat) (v : Value) : Prop :=
  ∀ fuel rest, Behind rest → v.chars.length ≤ fuel →
    readValue fuel levels (Source.ofChars (v.onto rest)) = .ok (v, Source.ofChars rest)

/-- A value that is no array and no object is read at one go. -/
theorem readsBack_of_scalar {v : Value} {levels : Nat}
    (h : ∀ rest, Behind rest → ∃ c cs, v.onto rest = c :: cs ∧ isBlank c = false ∧ c ≠ '[' ∧
      c ≠ '\x7b' ∧ readScalar c (Source.ofChars cs) = .ok (v, Source.ofChars rest)) :
    ReadsBack levels v := by
  intro fuel rest hrest hfuel
  obtain ⟨c, cs, hcons, hblank, hbracket, hbrace, hscalar⟩ := h rest hrest
  cases fuel with
  | zero =>
    have hempty : v.chars = [] := List.length_eq_zero_iff.1 (Nat.le_zero.1 hfuel)
    obtain ⟨_, _, hchars, _⟩ := h [] behind_nil
    rw [← Value.chars, hempty] at hchars
    cases hchars
  | succ fuel =>
    rw [hcons, Source.ofChars_cons, readValue, skipBlank, hblank]
    simp only [hbracket, hbrace, if_false, hscalar, Bool.false_eq_true]

theorem readScalar_of_isDigit {c : Char} (hc : c.isDigit = true) (s : Source) :
    readScalar c s =
      (readNumber false (some c :: s)).map fun (n, rest) => (.number n, rest) := by
  have hletters : c ≠ 'n' ∧ c ≠ 't' ∧ c ≠ 'f' ∧ c ≠ '"' ∧ c ≠ '-' :=
    ⟨ne_of_isDigit hc rfl, ne_of_isDigit hc rfl, ne_of_isDigit hc rfl, ne_of_isDigit hc rfl,
      ne_of_isDigit hc rfl⟩
  simp only [readScalar, hletters, if_false, hc, if_true]

theorem readsBack_integer {n : Int} (hn : IsWhole n) (levels : Nat) :
    ReadsBack levels (.number (.integer n)) := by
  refine readsBack_of_scalar fun rest hrest => ?_
  have hnumber := readNumber_natAbs hn hrest
  rw [Value.onto, Number.chars, intChars]
  by_cases hneg : n < 0
  · rw [decide_eq_true hneg] at hnumber
    refine ⟨'-', Nat.toDigits 10 n.natAbs ++ rest, ?_, rfl, by decide, by decide, ?_⟩
    · rw [if_pos hneg, List.cons_append]
    · simp [readScalar, hnumber, Except.map]
  · obtain ⟨c, cs, hcons, hdigit⟩ := toDigits_eq_cons n.natAbs
    rw [decide_eq_false hneg, hcons] at hnumber
    refine ⟨c, cs ++ rest, ?_, isBlank_of_isDigit hdigit, ne_of_isDigit hdigit rfl,
      ne_of_isDigit hdigit rfl, ?_⟩
    · rw [if_neg hneg, hcons, List.cons_append]
    · rw [List.cons_append, Source.ofChars_cons] at hnumber
      rw [readScalar_of_isDigit hdigit, hnumber]
      rfl

theorem readsBack_text (s : String) (levels : Nat) : ReadsBack levels (.text s) := by
  refine readsBack_of_scalar fun rest _ => ⟨'"', _, rfl, rfl, by decide, by decide, ?_⟩
  simp [readScalar, readString_bodyOnto, Except.map]

theorem skipBlank_ofChars_cons {c : Char} (hc : isBlank c = false) (cs : List Char) :
    skipBlank (Source.ofChars (c :: cs)) = some c :: Source.ofChars cs := by
  rw [Source.ofChars_cons, skipBlank, hc]
  rfl

/-- Items are read one after another. Each takes a step of its own, which its comma or the opening
bracket pays for. -/
theorem readItems_itemsOnto {levels : Nat} {v : Value} {vs : List Value}
    (hback : ∀ w ∈ v :: vs, ReadsBack levels w) (fuel : Nat) (rest : List Char) (done : List Value)
    (hfuel : (v.onto (itemsOnto vs [])).length ≤ fuel) :
    readItems fuel levels done (Source.ofChars (v.onto (itemsOnto vs rest))) =
      .ok (.array (done.reverse ++ v :: vs), Source.ofChars rest) := by
  induction vs generalizing v fuel done with
  | nil =>
    rw [Value.onto_eq, itemsOnto, List.length_append] at hfuel
    obtain ⟨fuel, rfl⟩ : ∃ k, fuel = k + 1 := ⟨fuel - 1, by simp at hfuel; omega⟩
    have hv := hback v List.mem_cons_self fuel (']' :: rest) (behind_cons (by decide) rest)
      (by simp at hfuel; omega)
    rw [itemsOnto, ← List.reverse_cons]
    exact readItems_iff.2 (.last hv (skipBlank_ofChars_cons (by decide) rest))
  | cons w vs ih =>
    obtain ⟨hv, hvs⟩ := List.forall_mem_cons.1 hback
    rw [Value.onto_eq, itemsOnto, List.length_append, List.length_cons] at hfuel
    obtain ⟨fuel, rfl⟩ : ∃ k, fuel = k + 1 := ⟨fuel - 1, by omega⟩
    have hread := hv fuel (',' :: w.onto (itemsOnto vs rest)) (behind_cons (by decide) _) (by omega)
    have hlater := ih hvs fuel (v :: done) (by omega)
    rw [List.reverse_cons, List.append_assoc] at hlater
    exact readItems_iff.2 (.next hread (skipBlank_ofChars_cons (by decide) _) hlater)

theorem readName_textOnto (name : String) (rest : List Char) :
    readName (Source.ofChars (textOnto name (':' :: rest))) = .ok (name, Source.ofChars rest) := by
  simp [readName, readKey, readColon, textOnto, Source.ofChars_cons, skipBlank, isBlank,
    readString_bodyOnto, bind, Except.bind]

/-- Members are read one after another, and are kept as they stand where they stand in order. -/
theorem readMembers_membersOnto {levels : Nat} {name : String} {v : Value} {ms : Members}
    (hback : ∀ e ∈ (name, v) :: ms, ReadsBack levels e.2) (fuel : Nat) (rest : List Char)
    (done : Members) (hordered : Table.Ordered (done ++ (name, v) :: ms))
    (hfuel : (v.onto (membersOnto ms [])).length ≤ fuel) :
    readMembers fuel levels done
        (Source.ofChars (textOnto name (':' :: v.onto (membersOnto ms rest)))) =
      .ok (.object (done ++ (name, v) :: ms), Source.ofChars rest) := by
  induction ms generalizing name v fuel done with
  | nil =>
    rw [Value.onto_eq, membersOnto, List.length_append] at hfuel
    obtain ⟨fuel, rfl⟩ : ∃ k, fuel = k + 1 := ⟨fuel - 1, by simp at hfuel; omega⟩
    have hv := hback (name, v) List.mem_cons_self fuel ('\x7d' :: rest)
      (behind_cons (by decide) rest) (by simp at hfuel; omega)
    rw [membersOnto, ← Table.put_of_ordered hordered]
    exact readMembers_iff.2
      (.last (readName_textOnto name _) hv (skipBlank_ofChars_cons (by decide) rest))
  | cons e ms ih =>
    obtain ⟨hv, hms⟩ := List.forall_mem_cons.1 hback
    rw [List.append_cons] at hordered ⊢
    rw [Value.onto_eq, membersOnto, List.length_append, List.length_cons, textOnto_eq,
      List.length_append, List.length_cons] at hfuel
    obtain ⟨fuel, rfl⟩ : ∃ k, fuel = k + 1 := ⟨fuel - 1, by omega⟩
    replace hv : ReadsBack levels v := hv
    have hread := hv fuel (',' :: textOnto e.1 (':' :: e.2.onto (membersOnto ms rest)))
      (behind_cons (by decide) _) (by omega)
    have hlater := ih hms fuel (done ++ [(name, v)]) hordered (by omega)
    rw [← Table.put_of_ordered hordered.of_append] at hlater ⊢
    exact readMembers_iff.2
      (.next (readName_textOnto name _) hread (skipBlank_ofChars_cons (by decide) _) hlater)

theorem readsBack_array {levels : Nat} {vs : List Value} (hwhole : ∀ v ∈ vs, v.isWhole = true)
    (hitems : ∀ v ∈ vs, ReadsBack levels v) : ReadsBack (levels + 1) (.array vs) := by
  intro fuel rest _ hfuel
  cases vs with
  | nil =>
    rw [Value.chars, Value.onto] at hfuel
    obtain ⟨fuel, rfl⟩ : ∃ k, fuel = k + 1 := ⟨fuel - 1, by simp at hfuel; omega⟩
    rfl
  | cons v vs =>
    rw [Value.chars, Value.onto, List.length_cons] at hfuel
    obtain ⟨fuel, rfl⟩ : ∃ k, fuel = k + 1 := ⟨fuel - 1, by omega⟩
    have hread := readItems_itemsOnto hitems fuel rest [] (by omega)
    obtain ⟨c, cs, hcons, hblank, hend⟩ :=
      Value.onto_eq_cons (hwhole v List.mem_cons_self) (itemsOnto vs rest)
    have hinside : skipBlank (Source.ofChars (c :: cs)) = Source.ofChars (c :: cs) :=
      skipBlank_ofChars_cons hblank cs
    rw [hcons, ← hinside] at hread
    -- The first item does not begin with the bracket that would make the array an empty one.
    have hfurther : Further ']' (skipBlank (Source.ofChars (c :: cs))) := by
      rw [hinside]
      exact ⟨List.cons_ne_nil _ _, fun rest h => hend (Option.some.inj (List.cons.inj h).1)⟩
    rw [Value.onto, hcons]
    exact readValue_iff.2 (.array (skipBlank_ofChars_cons (by decide) _) hfurther hread)

theorem readsBack_object {levels : Nat} {ms : Members} (hordered : Table.Ordered ms)
    (hmembers : ∀ e ∈ ms, ReadsBack levels e.2) : ReadsBack (levels + 1) (.object ms) := by
  intro fuel rest _ hfuel
  cases ms with
  | nil =>
    rw [Value.chars, Value.onto] at hfuel
    obtain ⟨fuel, rfl⟩ : ∃ k, fuel = k + 1 := ⟨fuel - 1, by simp at hfuel; omega⟩
    rfl
  | cons e ms =>
    rw [Value.chars, Value.onto, List.length_cons, textOnto_eq, List.length_append,
      List.length_cons] at hfuel
    obtain ⟨fuel, rfl⟩ : ∃ k, fuel = k + 1 := ⟨fuel - 1, by omega⟩
    have hread := readMembers_membersOnto hmembers fuel rest [] hordered (by omega)
    have hinside : ∀ cs, skipBlank (Source.ofChars (textOnto e.1 cs)) =
        Source.ofChars (textOnto e.1 cs) := fun cs => skipBlank_ofChars_cons (by decide) _
    rw [← hinside] at hread
    have hfurther : ∀ cs, Further '\x7d' (skipBlank (Source.ofChars (textOnto e.1 cs))) := by
      intro cs
      rw [hinside]
      exact ⟨List.cons_ne_nil _ _, fun rest h => nomatch h⟩
    exact readValue_iff.2 (.object (skipBlank_ofChars_cons (by decide) _) (hfurther _) hread)

/-- A value of whole numbers, with its members in order and no more levels than there may be, is
read again as it was written. -/
theorem readsBack {v : Value} (hwhole : v.isWhole = true) (hordered : v.isOrdered = true)
    {levels : Nat} (hdepth : v.depth ≤ levels) : ReadsBack levels v := by
  induction v using Value.induction generalizing levels with
  | null => exact readsBack_of_scalar fun rest _ => ⟨'n', _, rfl, rfl, by decide, by decide, rfl⟩
  | boolean b =>
    cases b <;>
      exact readsBack_of_scalar fun rest _ => ⟨_, _, rfl, rfl, by decide, by decide, rfl⟩
  | number n =>
    cases n with
    | integer n => exact readsBack_integer (Value.isWhole_integer.1 hwhole) levels
    | fractional x => cases hwhole
  | text s => exact readsBack_text s levels
  | array vs ih =>
    cases levels with
    | zero => cases hdepth
    | succ levels =>
      rw [Value.isWhole_array] at hwhole
      rw [Value.isOrdered_array] at hordered
      rw [Value.depth_array_le] at hdepth
      exact readsBack_array hwhole fun v h => ih v h (hwhole v h) (hordered v h) (hdepth v h)
  | object ms ih =>
    cases levels with
    | zero => cases hdepth
    | succ levels =>
      rw [Value.isWhole_object] at hwhole
      rw [Value.isOrdered_object] at hordered
      rw [Value.depth_object_le] at hdepth
      exact readsBack_object hordered.1 fun e h =>
        ih e h (hwhole e h) (hordered.2 e h) (hdepth e h)

/-! ## Values that have been read -/

/-- A value of no more levels than there may be, its members in order. -/
structure Value.Fits (levels : Nat) (v : Value) : Prop where
  ordered : v.isOrdered = true
  depth : v.depth ≤ levels

theorem fits_array {levels : Nat} {vs : List Value} (h : ∀ v ∈ vs, v.Fits levels) :
    (Value.array vs).Fits (levels + 1) :=
  ⟨Value.isOrdered_array.2 fun v hv => (h v hv).ordered,
    Value.depth_array_le.2 fun v hv => (h v hv).depth⟩

theorem fits_object {levels : Nat} {ms : Members} (hordered : Table.Ordered ms)
    (h : ∀ e ∈ ms, e.2.Fits levels) : (Value.object ms).Fits (levels + 1) :=
  ⟨Value.isOrdered_object.2 ⟨hordered, fun e he => (h e he).ordered⟩,
    Value.depth_object_le.2 fun e he => (h e he).depth⟩

theorem exists_of_map_eq_ok {ε α β : Type} {f : α → β} {x : Except ε α} {b : β}
    (h : x.map f = .ok b) : ∃ a, x = .ok a ∧ f a = b := by
  cases x with
  | error e => cases h
  | ok a => exact ⟨a, rfl, Except.ok.inj h⟩

theorem readScalar_fits {c : Char} {s rest : Source} {v : Value} (levels : Nat)
    (h : readScalar c s = .ok (v, rest)) : v.Fits levels := by
  have hscalar : ∀ {α : Type} {x : Except Fault α} {f : α → Value × Source},
      x.map f = .ok (v, rest) → (∀ a, (f a).1.Fits levels) → v.Fits levels := by
    intro α x f hmap hf
    obtain ⟨a, -, ha⟩ := exists_of_map_eq_ok hmap
    have hfits := hf a
    rw [ha] at hfits
    exact hfits
  unfold readScalar at h
  iterate 6 (split at h; next => exact hscalar h fun _ => ⟨rfl, Nat.zero_le _⟩)
  cases h

/-- Whatever is read has no more levels than there may be, and its members in order. -/
theorem readValue_fits_all (fuel : Nat) :
    (∀ {levels s r}, readValue fuel levels s = .ok r → r.1.Fits levels) ∧
    (∀ {levels done s r}, readItems fuel levels done s = .ok r →
      (∀ w ∈ done, w.Fits levels) → r.1.Fits (levels + 1)) ∧
    (∀ {levels done s r}, readMembers fuel levels done s = .ok r →
      Table.Ordered done → (∀ e ∈ done, e.2.Fits levels) → r.1.Fits (levels + 1)) := by
  induction fuel with
  | zero =>
    refine ⟨fun h => ?_, fun h => ?_, fun h => ?_⟩
    · cases h
    · cases h
    · cases h
  | succ fuel ih =>
    obtain ⟨hvalue, hitems, hmembers⟩ := ih
    refine ⟨fun h => ?_, fun h hdone => ?_, fun {levels done _ _} h hordered hdone => ?_⟩
    · cases readValue_iff.1 h with
      | emptyArray => exact fits_array fun _ h => nomatch h
      | array _ _ h => exact hitems h fun _ h => nomatch h
      | emptyObject => exact fits_object List.Pairwise.nil fun _ h => nomatch h
      | object _ _ h => exact hmembers h List.Pairwise.nil fun _ h => nomatch h
      | scalar _ _ _ h => exact readScalar_fits _ h
    · cases readItems_iff.1 h with
      | last hread =>
        have hall := List.forall_mem_cons.2 ⟨hvalue hread, hdone⟩
        exact fits_array fun w hw => hall w (List.mem_reverse.1 hw)
      | next hread _ h => exact hitems h (List.forall_mem_cons.2 ⟨hvalue hread, hdone⟩)
    · have hput : ∀ {name w}, w.Fits levels → ∀ e ∈ Table.put name w done, e.2.Fits levels := by
        intro name w hw e he
        rcases Table.mem_of_mem_put he with rfl | he
        · exact hw
        · exact hdone e he
      cases readMembers_iff.1 h with
      | last _ hread => exact fits_object (hordered.put _ _) (hput (hvalue hread))
      | next _ hread _ h => exact hmembers h (hordered.put _ _) (hput (hvalue hread))

theorem readValue_fits {fuel levels : Nat} {s rest : Source} {v : Value}
    (h : readValue fuel levels s = .ok (v, rest)) : v.Fits levels :=
  (readValue_fits_all fuel).1 h

end PacketTelemetry.Json
