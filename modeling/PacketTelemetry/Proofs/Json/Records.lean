/-
Records as they are written, read again, and what holds of every record that
has been read.

The members of a record are read into it one by one, so that it is filled step
by step (`Filled`). When all that was written has been carried over, the record
read is the one that was written, from a text (`readsBack_record`) as well as
from a value (`takeObject_fields`). What no member breaks when it is read holds
of the record in the end (`keeps_of_read`).
-/
import PacketTelemetry.Json.Form
import PacketTelemetry.Proofs.Json.Values

namespace PacketTelemetry.Json

variable {α σ : Type}

theorem exists_of_bind_eq_ok {ε α β : Type} {x : Except ε α} {f : α → Except ε β} {b : β}
    (h : x.bind f = .ok b) : ∃ a, x = .ok a ∧ f a = .ok b := by
  cases x with
  | error e => cases h
  | ok a => exact ⟨a, rfl, h⟩

theorem eq_ok_of_toOption {ε α : Type} {x : Except ε α} {a : α} (h : x.toOption = some a) :
    x = .ok a := by
  cases x with
  | error e => cases h
  | ok a' => exact congrArg Except.ok (Option.some.inj h)

/-! ## Members -/

/-- What is written in a form takes one line. -/
theorem Form.noControl_render (f : Form α) (a : α) : NoControl (f.render a).toList := by
  rw [render, Value.render, String.toList_ofList]
  exact noControl_chars (f.write a)

/-- What is written in a form is read again. -/
def Form.ReadsBack (f : Form α) (levels : Nat) (a : α) : Prop :=
  ∀ rest, Behind rest →
    f.read levels (Source.ofChars ((f.write a).onto rest)) = .ok (a, Source.ofChars rest)

theorem Form.readsBack_text (levels : Nat) (s : String) : Form.text.ReadsBack levels s := by
  intro rest _
  simp [text, Value.onto, textOnto, Source.ofChars_cons, skipBlank, isBlank, readString_bodyOnto]

theorem Form.readsBack_optional_text (levels : Nat) (s : Option String) :
    Form.text.optional.ReadsBack levels s := by
  intro rest hrest
  cases s with
  | none => rfl
  | some s =>
    have hread := Form.readsBack_text levels s rest hrest
    simp [optional, Value.ofOption, text, Value.onto, textOnto, Source.ofChars_cons, skipBlank,
      isBlank, Except.map] at hread ⊢
    rw [hread]

theorem Form.readsBack_any {levels : Nat} {v : Value} (hv : Json.ReadsBack levels v) :
    Form.any.ReadsBack levels v := by
  intro rest hrest
  refine hv _ rest hrest ?_
  show v.chars.length ≤ (Source.ofChars (v.onto rest)).steps
  rw [Source.steps, Value.onto_eq, Source.ofChars, List.length_map, List.length_append]
  omega

/-- A member, written for one record, is carried over into another. -/
def Member.Carries (m : Member σ) (levels : Nat) (x y y' : σ) : Prop :=
  ∀ rest, Behind rest →
    m.read levels y (Source.ofChars ((m.write x).onto rest)) = .ok (y', Source.ofChars rest)

theorem Form.ReadsBack.carries {f : Form α} {levels : Nat} {get : σ → α} {x : σ}
    (h : f.ReadsBack levels (get x)) (name : String) (required : Bool) (set : σ → α → σ) (y : σ) :
    (f.member name required get set).Carries levels x y (set y (get x)) := by
  intro rest hrest
  simp only [member, h rest hrest]
  rfl

/-- A record is filled, one member after another. -/
inductive Filled (fills : Member σ → σ → σ → Prop) : List (Member σ) → σ → σ → Prop
  | nil (y : σ) : Filled fills [] y y
  | cons {m : Member σ} {ms : List (Member σ)} {y y' z : σ} :
    fills m y y' → Filled fills ms y' z → Filled fills (m :: ms) y z

/-- A member, written for one record, is taken into another. -/
def Member.Takes (m : Member σ) (x y y' : σ) : Prop := m.take y (m.write x) = .ok y'

theorem Form.take_member {f : Form α} {v : Value} {a : α} (h : f.take v = .ok a) (name : String)
    (required : Bool) (get : σ → α) (set : σ → α → σ) (y : σ) :
    (f.member name required get set).take y v = .ok (set y a) := by
  simp only [member, h]
  rfl

theorem Form.takes_of_take {f : Form α} {get : σ → α} {x : σ}
    (h : f.take (f.write (get x)) = .ok (get x)) (name : String) (required : Bool)
    (set : σ → α → σ) (y : σ) : (f.member name required get set).Takes x y (set y (get x)) :=
  take_member h name required get set y

theorem Form.takes_maybe_text (name : String) (get : σ → Option String)
    (set : σ → Option String → σ) (x y : σ) :
    (Form.text.maybe name get set).Takes x y (set y (get x)) := by
  have htext : ∀ s, Form.text.optional.take (Form.text.optional.write s) = .ok s := by
    intro s
    cases s <;> rfl
  exact Form.takes_of_take (htext _) _ _ _ _

theorem memberNamed_of_nodup {members : List (Member σ)} (h : (members.map (·.name)).Nodup)
    {m : Member σ} (hm : m ∈ members) : memberNamed m.name members = some m := by
  induction members with
  | nil => cases hm
  | cons m' members ih =>
    obtain ⟨hnew, hnodup⟩ := List.nodup_cons.1 h
    rcases List.mem_cons.1 hm with rfl | hm
    · exact List.find?_cons_of_pos (decide_eq_true rfl)
    · have hne : m'.name ≠ m.name := by
        intro hname
        exact hnew (List.mem_map.2 ⟨m, hm, hname.symm⟩)
      rw [memberNamed, List.find?_cons_of_neg (by simpa using hne)]
      exact ih hnodup hm

/-- The name of a member is none of those before it. -/
theorem name_not_seen {members front ms : List (Member σ)} {m : Member σ}
    (h : (members.map (·.name)).Nodup) (hsplit : members = front ++ m :: ms) :
    m.name ∉ (front.map (·.name)).reverse := by
  intro hmem
  rw [hsplit, List.map_append, List.nodup_append] at h
  exact h.2.2 _ (List.mem_reverse.1 hmem) _ List.mem_cons_self rfl

theorem missingMember_of_seen {members : List (Member σ)} {seen : List String}
    (h : ∀ m ∈ members, m.name ∈ seen) : missingMember seen members = none := by
  have hnone : (members.find? fun m => m.required && !seen.contains m.name) = none := by
    rw [List.find?_eq_none]
    intro m hm
    simp [h m hm]
  rw [missingMember, hnone]
  rfl

/-! ## Objects -/

section

variable {members : List (Member σ)} (others : Others) {levels : Nat} {x : σ}

theorem readKey_textOnto (name : String) (rest : List Char) :
    readKey (Source.ofChars (textOnto name rest)) = .ok (name, Source.ofChars rest) := by
  simp [readKey, textOnto, Source.ofChars_cons, skipBlank, isBlank, readString_bodyOnto]

theorem nextKey_first (name : String) (rest : List Char) :
    nextKey true (Source.ofChars (textOnto name rest)) = .ok (some name, Source.ofChars rest) := by
  have hkey := readKey_textOnto name rest
  simp only [textOnto, Source.ofChars_cons] at hkey ⊢
  simp [nextKey, skipBlank, isBlank, hkey, Except.map]

theorem nextKey_later (name : String) (rest : List Char) :
    nextKey false (Source.ofChars (',' :: textOnto name rest)) =
      .ok (some name, Source.ofChars rest) := by
  simp [nextKey, Source.ofChars_cons, skipBlank, isBlank, readKey_textOnto, Except.map]

/-- One member is read. -/
theorem readObject_member {m : Member σ} (hm : memberNamed m.name members = some m) {y y' : σ}
    (hcarry : m.Carries levels x y y') {seen : List String} (hseen : m.name ∉ seen)
    {rest : List Char} (hrest : Behind rest) {first : Bool} {s : Source}
    (hkey : nextKey first s =
      .ok (some m.name, Source.ofChars (':' :: (m.write x).onto rest))) (fuel : Nat)
    (kept : Members) :
    readObject members others levels (fuel + 1) first ⟨y, seen, kept⟩ s =
      readObject members others levels fuel false ⟨y', m.name :: seen, kept⟩
        (Source.ofChars rest) := by
  have hcolon : readColon (Source.ofChars (':' :: (m.write x).onto rest)) =
      .ok (Source.ofChars ((m.write x).onto rest)) := rfl
  rw [readObject]
  simp [hkey, hm, hseen, hcolon, hcarry rest hrest, bind, Except.bind]

/-- The members after the first ones are read. -/
theorem readObject_membersOnto (hnodup : (members.map (·.name)).Nodup)
    (front : List (Member σ)) {ms : List (Member σ)} {y z : σ}
    (hcarry : Filled (·.Carries levels x) ms y z) (hsplit : members = front ++ ms) {fuel : Nat}
    (hfuel : ms.length < fuel) (kept : Members)
    (rest : List Char) :
    readObject members others levels fuel false ⟨y, (front.map (·.name)).reverse, kept⟩
        (Source.ofChars (membersOnto (ms.map fun m => (m.name, m.write x)) rest)) =
      .ok (⟨z, (members.map (·.name)).reverse, kept⟩, Source.ofChars rest) := by
  induction hcarry generalizing front fuel with
  | nil y =>
    obtain ⟨fuel, rfl⟩ : ∃ k, fuel = k + 1 := ⟨fuel - 1, by simp at hfuel; omega⟩
    have hnone : missingMember (members.map (·.name)).reverse members = none :=
      missingMember_of_seen fun m hm => List.mem_reverse.2 (List.mem_map.2 ⟨m, hm, rfl⟩)
    rw [List.append_nil] at hsplit
    subst hsplit
    simp [readObject, membersOnto, Source.ofChars_cons, nextKey, skipBlank, isBlank, hnone, bind,
      Except.bind]
  | @cons m ms y y' z hm _ ih =>
    obtain ⟨fuel, rfl⟩ : ∃ k, fuel = k + 1 := ⟨fuel - 1, by simp at hfuel; omega⟩
    have hnamed : memberNamed m.name members = some m :=
      memberNamed_of_nodup hnodup (by simp [hsplit])
    have hnew : m.name ∉ (front.map (·.name)).reverse := name_not_seen hnodup hsplit
    have hlater := ih (front ++ [m]) (by simp [hsplit]) (Nat.lt_of_succ_lt_succ hfuel)
    rw [List.map_append, List.reverse_append] at hlater
    rw [← hlater]
    refine readObject_member others hnamed hm hnew ?_ ?_ fuel kept
    · cases ms <;> exact behind_cons (by decide) _
    · exact nextKey_later m.name _

end

/-! ## Records -/

theorem length_membersOnto (ms : Members) (rest : List Char) :
    ms.length < (membersOnto ms rest).length := by
  induction ms with
  | nil => exact Nat.succ_pos _
  | cons e ms ih =>
    rw [membersOnto, textOnto_eq, Value.onto_eq]
    simp only [List.length_cons, List.length_append]
    omega

/-- A record of which all members are carried over is read again as it was written. -/
theorem readsBack_record {r : Record σ} (hnodup : (r.members.map (·.name)).Nodup) {levels : Nat}
    {x : σ} (hcarry : Filled (·.Carries levels x) r.members r.blank x) :
    r.form.ReadsBack (levels + 1) x := by
  obtain ⟨expected, blank, members⟩ := r
  intro rest _
  cases hcarry with
  | nil => rfl
  | @cons m ms _ y _ hm hms =>
    have hbehind : Behind (membersOnto (ms.map fun m => (m.name, m.write x)) rest) := by
      cases ms <;> exact behind_cons (by decide) _
    have hnamed : memberNamed m.name (m :: ms) = some m :=
      memberNamed_of_nodup hnodup List.mem_cons_self
    have hsteps : (m :: ms).length <
        (Source.ofChars (textOnto m.name (':' :: (m.write x).onto
          (membersOnto (ms.map fun m => (m.name, m.write x)) rest)))).length := by
      have hlength := length_membersOnto (ms.map fun m => (m.name, m.write x)) rest
      rw [List.length_map] at hlength
      rw [Source.ofChars, List.length_map, textOnto_eq, Value.onto_eq]
      simp only [List.length_cons, List.length_append]
      omega
    have hread := (readObject_member .pass hnamed hm List.not_mem_nil hbehind
      (nextKey_first m.name _) _ []).trans
      (readObject_membersOnto .pass hnodup [m] hms rfl (Nat.lt_of_succ_lt hsteps) [] rest)
    exact congrArg (Except.map fun read => (read.1.record, read.2)) hread

theorem takeObject_known {members : List (Member σ)} {name : String} {m : Member σ}
    (hm : memberNamed name members = some m) {seen : List String} (hseen : name ∉ seen) (x : σ)
    (v : Value) (ms : Members) :
    takeObject members seen x ((name, v) :: ms) =
      (m.take x v).bind (takeObject members (name :: seen) · ms) := by
  rw [takeObject, hm]
  simp only [List.contains_iff_mem, hseen, if_false]
  rfl

theorem takeObject_named {members : List (Member σ)} {name : String} {v : Value} {m : Member σ}
    (hm : memberNamed name members = some m) {seen : List String} (hseen : name ∉ seen) {x y : σ}
    (hy : m.take x v = .ok y) (ms : Members) :
    takeObject members seen x ((name, v) :: ms) = takeObject members (name :: seen) y ms := by
  rw [takeObject_known hm hseen, hy]
  rfl

/-- The members of an object are taken as they were written. -/
theorem takeObject_fields {members : List (Member σ)} (hnodup : (members.map (·.name)).Nodup)
    {x : σ} (front : List (Member σ)) {ms : List (Member σ)} {y z : σ}
    (hcarry : Filled (·.Takes x) ms y z) (hsplit : members = front ++ ms) :
    takeObject members (front.map (·.name)).reverse y (ms.map fun m => (m.name, m.write x)) =
      .ok z := by
  induction hcarry generalizing front with
  | nil y =>
    have hnone : missingMember (front.map (·.name)).reverse members = none := by
      refine missingMember_of_seen fun m hm => List.mem_reverse.2 (List.mem_map.2 ⟨m, ?_, rfl⟩)
      rwa [hsplit, List.append_nil] at hm
    rw [List.map_nil, takeObject, hnone]
  | @cons m ms y y' z hm _ ih =>
    have hnamed : memberNamed m.name members = some m :=
      memberNamed_of_nodup hnodup (by simp [hsplit])
    have hnew : m.name ∉ (front.map (·.name)).reverse := name_not_seen hnodup hsplit
    have hlater := ih (front ++ [m]) (by simp [hsplit])
    rw [List.map_append, List.reverse_append] at hlater
    rw [List.map_cons, takeObject_named hnamed hnew hm]
    exact hlater

/-! ## What holds of a record that has been read -/

section

variable {P : σ → Prop} {members : List (Member σ)} {levels : Nat}

/-- A member that has been read is set to what its form gives. -/
theorem exists_of_member_read {f : Form α} {name : String} {required : Bool} {get : σ → α}
    {set : σ → α → σ} {y y' : σ} {s s' : Source}
    (h : (f.member name required get set).read levels y s = .ok (y', s')) :
    ∃ a, f.read levels s = .ok (a, s') ∧ set y a = y' := by
  obtain ⟨⟨a, s''⟩, ha, heq⟩ := exists_of_map_eq_ok h
  cases heq
  exact ⟨a, ha, rfl⟩

theorem readObject_keeps
    (hread : ∀ m ∈ members, ∀ y s y' s', m.read levels y s = .ok (y', s') → P y → P y')
    {others : Others} {fuel : Nat} {first : Bool} {p p' : Progress σ} {s rest : Source}
    (h : readObject members others levels fuel first p s = .ok (p', rest)) (hp : P p.record) :
    P p'.record := by
  induction fuel generalizing first p s with
  | zero => cases h
  | succ fuel ih =>
    rw [readObject] at h
    obtain ⟨⟨name?, s⟩, -, h⟩ := exists_of_bind_eq_ok h
    cases name? with
    | none =>
      dsimp only at h
      split at h
      · cases h
      · cases h
        exact hp
    | some name =>
      dsimp only at h
      split at h
      · next m hnamed =>
        split at h
        · cases h
        obtain ⟨s, -, h⟩ := exists_of_bind_eq_ok h
        obtain ⟨⟨y, s⟩, hy, h⟩ := exists_of_bind_eq_ok h
        exact ih h (hread m (List.mem_of_find?_eq_some hnamed) _ _ _ _ hy hp)
      · obtain ⟨s, -, h⟩ := exists_of_bind_eq_ok h
        cases others with
        | pass =>
          obtain ⟨s, -, h⟩ := exists_of_bind_eq_ok h
          exact ih h hp
        | keep =>
          obtain ⟨⟨v, s⟩, -, h⟩ := exists_of_bind_eq_ok h
          exact ih h hp

theorem readInOrder_keeps {ms : List (Member σ)}
    (hread : ∀ m ∈ ms, ∀ y s y' s', m.read levels y s = .ok (y', s') → P y → P y')
    {first : Bool} {y z : σ} {s rest : Source}
    (h : readInOrder levels ms first y s = .ok (z, rest)) (hy : P y) : P z := by
  induction ms generalizing first y s with
  | nil =>
    obtain ⟨s', -, h⟩ := exists_of_bind_eq_ok h
    cases h
    exact hy
  | cons m ms ih =>
    obtain ⟨hm, hms⟩ := List.forall_mem_cons.1 hread
    obtain ⟨next, -, h⟩ := exists_of_bind_eq_ok h
    cases next with
    | done rest => cases h
    | item s =>
      obtain ⟨⟨y', s'⟩, hy', h⟩ := exists_of_bind_eq_ok h
      exact ih hms h (hm _ _ _ _ hy' hy)

/-- What holds of the blank record, and is kept by the reading of each member, holds of every
record that has been read, from an object or from an array. -/
theorem keeps_of_read {r : Record σ} (hblank : P r.blank)
    (hread : ∀ m ∈ r.members, ∀ y s y' s', m.read levels y s = .ok (y', s') → P y → P y')
    {s rest : Source} {x : σ} (h : r.form.read (levels + 1) s = .ok (x, rest)) : P x := by
  simp only [Record.form] at h
  split at h
  · next hlevels => cases hlevels
  · next hlevels => cases hlevels
  · next hlevels =>
    cases hlevels
    obtain ⟨⟨p, s'⟩, hp, hx⟩ := exists_of_map_eq_ok h
    cases hx
    exact readObject_keeps hread hp hblank
  · next hlevels =>
    cases hlevels
    exact readInOrder_keeps hread h hblank
  · cases h

end

end PacketTelemetry.Json
