/-
Objects by their members: what is read from a text is what would be taken out
of the members that stand in it (`OpenRecord.ofString_iff`).

The members of an object are read as they stand by a record that knows none of
them (`wholeObject`). A record that knows some takes a member after the other
where that one keeps it, and so the two go through a source side by side
(`Stands`).
-/
import PacketTelemetry.Proofs.Json.Agreement
import PacketTelemetry.Proofs.Json.Members

namespace PacketTelemetry.Json

variable {α σ τ : Type} {levels : Nat}

/-! ## Objects in a source -/

/-- The members of an object stand in a source, from behind its brace or from behind a member, and
`rest` is what follows the object. -/
inductive Stands (levels : Nat) : Bool → Source → Members → Source → Prop
  | ends {first : Bool} {s rest : Source} :
    nextKey first s = .ok (none, rest) → Stands levels first s [] rest
  | goesOn {first : Bool} {s s₁ s₂ s₃ rest : Source} {name : String} {v : Value} {ms : Members} :
    nextKey first s = .ok (some name, s₁) → readColon s₁ = .ok s₂ → Reads levels s₂ v s₃ →
      Stands levels false s₃ ms rest → Stands levels first s ((name, v) :: ms) rest

theorem length_readKey {s rest : Source} {name : String} (h : readKey s = .ok (name, rest)) :
    rest.length < s.length := by
  obtain ⟨s', -, -, hlength⟩ := skipString_of_readKey h
  exact hlength

theorem length_nextKey {first : Bool} {s rest : Source} {name : String}
    (h : nextKey first s = .ok (some name, rest)) : rest.length < s.length := by
  have hblank := length_skipBlank s
  unfold nextKey at h
  split at h
  · cases h
  · cases h
  split at h
  · obtain ⟨⟨name', rest'⟩, hkey, heq⟩ := exists_of_map_eq_ok h
    cases heq
    have hlength := length_readKey hkey
    omega
  split at h
  · next s' hcomma =>
    obtain ⟨⟨name', rest'⟩, hkey, heq⟩ := exists_of_map_eq_ok h
    cases heq
    have hlength := length_readKey hkey
    have hshorter := length_of_skipBlank hcomma
    omega
  · cases h

theorem Stands.length_le {first : Bool} {s rest : Source} {ms : Members}
    (h : Stands levels first s ms rest) : ms.length ≤ s.length := by
  induction h with
  | ends => exact Nat.zero_le _
  | goesOn hkey hcolon hreads _ ih =>
    obtain ⟨fuel, hvalue⟩ := hreads
    have h₁ := length_nextKey hkey
    have h₂ := length_readColon hcolon
    have h₃ := length_of_readValue hvalue
    rw [List.length_cons]
    omega

/-- What is kept of the members of an object, last first. -/
def Others.kept (members : List (Member σ)) (ms : Members) : Others → Members
  | .pass => []
  | .keep => (strangers members ms).reverse

variable {members : List (Member σ)}

/-- What can be taken out of the members that stand in a source is read from it. -/
theorem Stands.readObject (hagree : ∀ m ∈ members, m.Agrees) (others : Others) {first : Bool}
    {s rest : Source} {ms : Members} (h : Stands levels first s ms rest) {fuel : Nat}
    (hfuel : ms.length < fuel) {seen : List String} {y z : σ} (kept : Members)
    (htake : takeObject members seen y ms = .ok z) :
    ∃ seen', readObject members others levels fuel first ⟨y, seen, kept⟩ s =
      .ok (⟨z, seen', others.kept members ms ++ kept⟩, rest) := by
  induction h generalizing fuel seen y kept with
  | @ends first s rest hkey =>
    obtain ⟨fuel, rfl⟩ : ∃ k, fuel = k + 1 := ⟨fuel - 1, by simp at hfuel; omega⟩
    rw [takeObject] at htake
    split at htake
    · cases htake
    · next hmissing =>
      cases htake
      refine ⟨seen, ?_⟩
      cases others <;>
        simp [PacketTelemetry.Json.readObject, hkey, bind, Except.bind, hmissing, Others.kept,
          strangers]
  | @goesOn first s s₁ s₂ s₃ rest name v ms hkey hcolon hreads _ ih =>
    obtain ⟨fuel, rfl⟩ : ∃ k, fuel = k + 1 := ⟨fuel - 1, by simp at hfuel; omega⟩
    replace hfuel := Nat.lt_of_succ_lt_succ hfuel
    rw [takeObject] at htake
    split at htake
    · next hnamed =>
      obtain ⟨seen', hlater⟩ := ih hfuel (others.kept members [(name, v)] ++ kept) htake
      refine ⟨seen', ?_⟩
      cases others with
      | pass =>
        obtain ⟨k, hvalue⟩ := hreads
        simp only [PacketTelemetry.Json.readObject, hkey, hnamed, hcolon, bind, Except.bind,
          skipValue_of_readValue hvalue]
        exact hlater
      | keep =>
        simp only [PacketTelemetry.Json.readObject, hkey, hnamed, hcolon, bind, Except.bind,
          reads_iff.1 hreads]
        rw [Others.kept, strangers_of_unnamed hnamed, List.reverse_cons, List.append_assoc]
        rw [Others.kept, Others.kept, strangers_of_unnamed hnamed] at hlater
        exact hlater
    · next m hnamed =>
      split at htake
      · cases htake
      next hseen =>
      obtain ⟨y', hy', htake⟩ := exists_of_bind_eq_ok htake
      have hread := (hagree m (List.mem_of_find?_eq_some hnamed) _ _ _ _ _).2 ⟨v, hreads, hy'⟩
      obtain ⟨seen', hlater⟩ := ih hfuel kept htake
      refine ⟨seen', ?_⟩
      have hkept : others.kept members ((name, v) :: ms) = others.kept members ms := by
        cases others with
        | pass => rfl
        | keep => exact congrArg List.reverse (strangers_of_named hnamed ms)
      simp only [PacketTelemetry.Json.readObject, hkey, hnamed, hseen, hcolon, hread, bind,
        Except.bind, Bool.false_eq_true, if_false, hkept]
      exact hlater

/-- What is read from a source, and kept, can be taken out of the members that stand there. -/
theorem exists_stands (hagree : ∀ m ∈ members, m.Agrees) {fuel : Nat} {first : Bool}
    {p p' : Progress σ} {s rest : Source}
    (h : readObject members .keep levels fuel first p s = .ok (p', rest)) :
    ∃ ms, Stands levels first s ms rest ∧
      takeObject members p.seen p.record ms = .ok p'.record ∧
      p'.kept = (strangers members ms).reverse ++ p.kept := by
  induction fuel generalizing first p s with
  | zero => cases h
  | succ fuel ih =>
    rw [readObject] at h
    obtain ⟨⟨name?, s₁⟩, hkey, h⟩ := exists_of_bind_eq_ok h
    cases name? with
    | none =>
      dsimp only at h
      split at h
      · cases h
      · next hmissing =>
        cases h
        refine ⟨[], .ends hkey, ?_, rfl⟩
        rw [takeObject, Option.not_isSome_iff_eq_none.1 hmissing]
    | some name =>
      dsimp only at h
      split at h
      · next m hnamed =>
        split at h
        · cases h
        next hseen =>
        obtain ⟨s₂, hcolon, h⟩ := exists_of_bind_eq_ok h
        obtain ⟨⟨y, s₃⟩, hy, h⟩ := exists_of_bind_eq_ok h
        obtain ⟨v, hreads, htake⟩ := (hagree m (List.mem_of_find?_eq_some hnamed) _ _ _ _ _).1 hy
        obtain ⟨ms, hstands, htaken, hkept⟩ := ih h
        refine ⟨(name, v) :: ms, .goesOn hkey hcolon hreads hstands, ?_, ?_⟩
        · rw [takeObject, hnamed]
          dsimp only
          rw [if_neg hseen, htake]
          exact htaken
        · rw [strangers_of_named hnamed]
          exact hkept
      · next hnamed =>
        obtain ⟨s₂, hcolon, h⟩ := exists_of_bind_eq_ok h
        obtain ⟨⟨v, s₃⟩, hvalue, h⟩ := exists_of_bind_eq_ok h
        obtain ⟨ms, hstands, htaken, hkept⟩ := ih h
        refine ⟨(name, v) :: ms, .goesOn hkey hcolon ⟨_, hvalue⟩ hstands, ?_, ?_⟩
        · rw [takeObject_stranger hnamed]
          exact htaken
        · rw [strangers_of_unnamed hnamed, List.reverse_cons, List.append_assoc]
          exact hkept

/-! ## Records that are read -/

theorem OpenRecord.read_iff_stands {r : OpenRecord σ τ} (hagree : ∀ m ∈ r.members, m.Agrees)
    {s rest : Source} {x : τ} :
    r.form.read levels s = .ok (x, rest) ↔ ∃ levels' s' ms, levels = levels' + 1 ∧
      skipBlank s = some '\x7b' :: s' ∧ Stands levels' true s' ms rest ∧
      r.form.take (.object ms) = .ok x := by
  constructor
  · intro h
    simp only [OpenRecord.form] at h
    split at h
    · cases h
    · next s' levels' hblank =>
      obtain ⟨⟨p, rest'⟩, hread, h⟩ := exists_of_bind_eq_ok h
      obtain ⟨ms, hstands, htake, hkept⟩ := exists_stands hagree hread
      dsimp only at h
      split at h
      · next x' hfinish =>
        cases h
        refine ⟨levels', s', ms, rfl, hblank, hstands, ?_⟩
        rw [hkept, List.append_nil, List.reverse_reverse] at hfinish
        rw [take_object]
        exact (congrArg (Except.bind · _) htake).trans hfinish
      · cases h
    · cases h
  · rintro ⟨levels, s', ms, rfl, hblank, hstands, htake⟩
    rw [take_object] at htake
    obtain ⟨y, hy, hfinish⟩ := exists_of_bind_eq_ok htake
    obtain ⟨seen', hread⟩ := hstands.readObject hagree .keep (Nat.lt_succ_of_le hstands.length_le)
      [] hy
    rw [List.append_nil] at hread
    simp only [OpenRecord.form, hblank, hread, bind, Except.bind, Others.kept,
      List.reverse_reverse, hfinish]

/-- An object of which no member is known. -/
def wholeObject : OpenRecord Unit Members where
  expected := "an object"
  blank := ()
  members := []
  finish _ ms := .ok ms
  write ms := ms

theorem wholeObject_take (ms : Members) : wholeObject.form.take (.object ms) = .ok ms := by
  have hnone : takeObject wholeObject.members [] wholeObject.blank ms = .ok () :=
    takeObject_strangers (fun _ _ => rfl) [] ()
  have hall : strangers wholeObject.members ms = ms := List.filter_eq_self.2 fun _ _ => rfl
  rw [OpenRecord.take_object, hnone, hall]
  rfl

theorem wholeObject_agrees : ∀ m ∈ wholeObject.members, m.Agrees := by
  intro m hm
  cases hm

theorem wholeObject_read_iff {s rest : Source} {ms : Members} :
    wholeObject.form.read levels s = .ok (ms, rest) ↔ ∃ levels' s', levels = levels' + 1 ∧
      skipBlank s = some '\x7b' :: s' ∧ Stands levels' true s' ms rest := by
  rw [OpenRecord.read_iff_stands wholeObject_agrees]
  constructor
  · rintro ⟨levels', s', ms', hlevels, hblank, hstands, htake⟩
    rw [wholeObject_take] at htake
    cases htake
    exact ⟨levels', s', hlevels, hblank, hstands⟩
  · rintro ⟨levels', s', hlevels, hblank, hstands⟩
    exact ⟨levels', s', ms, hlevels, hblank, hstands, wholeObject_take ms⟩

/-- An open record is read from a source where it can be taken out of the members that stand
there. -/
theorem OpenRecord.read_iff {r : OpenRecord σ τ} (hagree : ∀ m ∈ r.members, m.Agrees)
    {s rest : Source} {x : τ} :
    r.form.read levels s = .ok (x, rest) ↔
      ∃ ms, wholeObject.form.read levels s = .ok (ms, rest) ∧ r.form.take (.object ms) = .ok x := by
  rw [OpenRecord.read_iff_stands hagree]
  constructor
  · rintro ⟨levels', s', ms, hlevels, hblank, hstands, htake⟩
    exact ⟨ms, wholeObject_read_iff.2 ⟨levels', s', hlevels, hblank, hstands⟩, htake⟩
  · rintro ⟨ms, hwhole, htake⟩
    obtain ⟨levels', s', hlevels, hblank, hstands⟩ := wholeObject_read_iff.1 hwhole
    exact ⟨levels', s', ms, hlevels, hblank, hstands, htake⟩

/-- A record that passes over other members is read where it can be taken out of those that stand
there. What stands under the other names is read here and only passed over there. -/
theorem Record.read_of_wholeObject {r : Record σ} (hagree : ∀ m ∈ r.members, m.Agrees)
    {s rest : Source} {ms : Members} {x : σ}
    (hwhole : wholeObject.form.read levels s = .ok (ms, rest))
    (htake : r.form.take (.object ms) = .ok x) : r.form.read levels s = .ok (x, rest) := by
  obtain ⟨levels, s', rfl, hblank, hstands⟩ := wholeObject_read_iff.1 hwhole
  obtain ⟨seen', hread⟩ := hstands.readObject hagree .pass (Nat.lt_succ_of_le hstands.length_le)
    [] htake
  simp only [Record.form, hblank, hread]
  rfl

/-! ## Whole texts -/

theorem Form.ofString_eq_ok_iff {f : Form α} {text : String} {a : α} :
    f.ofString text = .ok a ↔
      ∃ rest, f.read maxLevels (.ofString text) = .ok (a, rest) ∧ readEnd rest = .ok () := by
  constructor
  · intro h
    obtain ⟨⟨a', rest⟩, hread, h⟩ := exists_of_bind_eq_ok h
    obtain ⟨⟨⟩, hend, heq⟩ := exists_of_bind_eq_ok h
    cases heq
    exact ⟨rest, hread, hend⟩
  · rintro ⟨rest, hread, hend⟩
    simp only [Form.ofString, hread, bind, Except.bind, hend]

/-- **Members decide.** A text is read as an open record where it is an object and the record can
be taken out of its members. -/
theorem OpenRecord.ofString_iff {r : OpenRecord σ τ} (hagree : ∀ m ∈ r.members, m.Agrees)
    {text : String} {x : τ} :
    r.form.ofString text = .ok x ↔
      ∃ ms, wholeObject.form.ofString text = .ok ms ∧ r.form.take (.object ms) = .ok x := by
  simp only [Form.ofString_eq_ok_iff, OpenRecord.read_iff hagree]
  constructor
  · rintro ⟨rest, ⟨ms, hwhole, htake⟩, hend⟩
    exact ⟨ms, ⟨rest, hwhole, hend⟩, htake⟩
  · rintro ⟨ms, ⟨rest, hwhole, hend⟩, htake⟩
    exact ⟨rest, ⟨ms, hwhole, htake⟩, hend⟩

theorem Record.ofString_of_wholeObject {r : Record σ} (hagree : ∀ m ∈ r.members, m.Agrees)
    {text : String} {ms : Members} {x : σ} (hwhole : wholeObject.form.ofString text = .ok ms)
    (htake : r.form.take (.object ms) = .ok x) : r.form.ofString text = .ok x := by
  obtain ⟨rest, hread, hend⟩ := Form.ofString_eq_ok_iff.1 hwhole
  exact Form.ofString_eq_ok_iff.2 ⟨rest, Record.read_of_wholeObject hagree hread htake, hend⟩

/-! ## Objects that were written -/

theorem reads_onto {v : Value} (hv : ReadsBack levels v) {rest : List Char} (hrest : Behind rest) :
    Reads levels (Source.ofChars (v.onto rest)) v (Source.ofChars rest) :=
  ⟨_, hv _ rest hrest (Nat.le_refl _)⟩

theorem behind_membersOnto (ms : Members) (rest : List Char) : Behind (membersOnto ms rest) := by
  cases ms <;> exact behind_cons (by decide) _

theorem stands_membersOnto {ms : Members} (hback : ∀ e ∈ ms, ReadsBack levels e.2)
    (rest : List Char) : Stands levels false (Source.ofChars (membersOnto ms rest)) ms
      (Source.ofChars rest) := by
  induction ms with
  | nil => exact .ends rfl
  | cons e ms ih =>
    obtain ⟨he, hms⟩ := List.forall_mem_cons.1 hback
    exact .goesOn (nextKey_later e.1 _) rfl (reads_onto he (behind_membersOnto ms rest)) (ih hms)

/-- The members of an object are read as they were written. -/
theorem wholeObject_render {ms : Members} (hback : ∀ e ∈ ms, ReadsBack 126 e.2) :
    wholeObject.form.ofString (Value.object ms).render = .ok ms := by
  have hread : wholeObject.form.read maxLevels (.ofString (Value.object ms).render) =
      .ok (ms, []) := by
    refine wholeObject_read_iff.2 ?_
    cases ms with
    | nil => exact ⟨126, _, rfl, rfl, .ends rfl⟩
    | cons e ms =>
      obtain ⟨he, hms⟩ := List.forall_mem_cons.1 hback
      refine ⟨126, Source.ofChars (textOnto e.1 (':' :: e.2.onto (membersOnto ms []))), rfl, ?_, ?_⟩
      · rw [Value.render, Source.ofString, String.toList_ofList]
        rfl
      · exact .goesOn (nextKey_first e.1 _) rfl (reads_onto he (behind_membersOnto ms []))
          (stands_membersOnto hms [])
  exact Form.ofString_eq_ok_iff.2 ⟨[], hread, rfl⟩

end PacketTelemetry.Json
