/-
What is taken out of an object does not depend on the order in which its
members stand (`takeObject_perm`), nor on members of other names
(`takeObject_filter`).

Two members may be taken in either order when each leaves alone what the other
sets (`Member.Apart`). A name that stands twice is refused wherever it stands,
and of the names seen only which they are counts.
-/
import Mathlib.Data.List.Pairwise
import PacketTelemetry.Proofs.Json.Records

namespace PacketTelemetry.Json

variable {α β σ τ : Type}

/-! ## Members that do not touch each other -/

/-- Two members that may be taken in either order. -/
def Member.Apart (m m' : Member σ) : Prop :=
  ∀ x v v' y, (m.take x v).bind (m'.take · v') = .ok y ↔ (m'.take x v').bind (m.take · v) = .ok y

instance : Std.Symm (Member.Apart (σ := σ)) := ⟨fun _ _ h x v v' y => (h x v' v y).symm⟩

theorem Form.apart {f : Form α} {f' : Form β} {get : σ → α} {get' : σ → β} {set : σ → α → σ}
    {set' : σ → β → σ} {name name' : String} {required required' : Bool}
    (h : ∀ x a b, set' (set x a) b = set (set' x b) a) :
    (f.member name required get set).Apart (f'.member name' required' get' set') := by
  intro x v v' y
  simp only [Form.member]
  cases f.take v <;> cases f'.take v' <;> simp [Except.map, Except.bind, h]

/-- Members of which each has a name of its own, and which may be taken in any order. -/
structure Orderless (members : List (Member σ)) : Prop where
  nodup : (members.map (·.name)).Nodup
  apart : members.Pairwise Member.Apart

/-! ## Values that are taken back -/

/-- A form that takes back whatever it writes. -/
def Form.Lawful (f : Form α) : Prop := ∀ a, f.take (f.write a) = .ok a

theorem Form.lawful_text : Form.text.Lawful := fun _ => rfl

theorem Form.take_integer {least most : Int} (name : String) (ofInt : Int → α) (toInt : α → Int)
    {n : Int} (hleast : least ≤ n) (hmost : n ≤ most) :
    (Form.integer least most name ofInt toInt).take (.ofInt n) = .ok (ofInt n) := by
  simp only [integer, Value.ofInt, hleast, hmost, and_self, if_true]

theorem Form.lawful_int32 : Form.int32.Lawful := by
  intro n
  have htake := take_integer "a number of 32 bits" Int32.ofInt (·.toInt) n.minValue_le_toInt
    n.toInt_le
  rwa [Int32.ofInt_toInt] at htake

theorem Form.lawful_int64 : Form.int64.Lawful := by
  intro n
  have htake := take_integer "a number of 64 bits" Int64.ofInt (·.toInt) n.minValue_le_toInt
    n.toInt_le
  rwa [Int64.ofInt_toInt] at htake

/-- A form that may be absent takes back what it writes, as `null` is not written otherwise. -/
theorem Form.Lawful.optional {f : Form α} (h : f.Lawful) (hnull : ∀ a, f.write a ≠ .null) :
    f.optional.Lawful := by
  intro a
  cases a with
  | none => rfl
  | some a =>
    simp only [Form.optional, Value.ofOption]
    split
    · next heq => exact absurd heq (hnull a)
    · rw [h a]
      rfl

variable {members : List (Member σ)}

/-! ## Names -/

theorem name_of_memberNamed {name : String} {m : Member σ}
    (h : memberNamed name members = some m) : m.name = name := by
  simpa using List.find?_some h

theorem missingMember_congr {seen seen' : List String} (h : ∀ n, n ∈ seen ↔ n ∈ seen') :
    missingMember seen members = missingMember seen' members := by
  have hcontains : ∀ n, seen.contains n = seen'.contains n := fun n => by
    rw [Bool.eq_iff_iff, List.contains_iff_mem, List.contains_iff_mem, h]
  simp only [missingMember, hcontains]

/-- It does not matter in which order the names were seen. -/
theorem takeObject_congr {seen seen' : List String} (h : ∀ n, n ∈ seen ↔ n ∈ seen') (x : σ)
    (ms : Members) : takeObject members seen x ms = takeObject members seen' x ms := by
  induction ms generalizing seen seen' x with
  | nil => rw [takeObject, takeObject, missingMember_congr h]
  | cons e ms ih =>
    rw [takeObject, takeObject]
    split
    · exact ih h x
    · have hcontains : seen.contains e.1 = seen'.contains e.1 := by
        rw [Bool.eq_iff_iff, List.contains_iff_mem, List.contains_iff_mem, h]
      rw [hcontains]
      split
      · rfl
      · refine bind_congr fun y => ih (fun n => ?_) y
        rw [List.mem_cons, List.mem_cons, h]

/-! ## Members of other names -/

theorem takeObject_stranger {e : String × Value} (h : memberNamed e.1 members = none)
    (seen : List String) (x : σ) (ms : Members) :
    takeObject members seen x (e :: ms) = takeObject members seen x ms := by
  rw [takeObject, h]

/-- Members of other names count for nothing. -/
theorem takeObject_filter (seen : List String) (x : σ) (ms : Members) :
    takeObject members seen x (ms.filter fun e => (memberNamed e.1 members).isSome) =
      takeObject members seen x ms := by
  induction ms generalizing seen x with
  | nil => rfl
  | cons e ms ih =>
    cases hnamed : memberNamed e.1 members with
    | none =>
      rw [List.filter_cons_of_neg (by simp [hnamed]), takeObject_stranger hnamed]
      exact ih seen x
    | some m =>
      rw [List.filter_cons_of_pos (by simp [hnamed]), takeObject, takeObject, hnamed]
      dsimp only
      split
      · rfl
      · exact bind_congr fun y => ih (e.1 :: seen) y

/-- Members with a name that is none of the record's. -/
def strangers (members : List (Member σ)) (ms : Members) : Members :=
  ms.filter fun m => (memberNamed m.1 members).isNone

theorem strangers_of_named {e : String × Value} {m : Member σ}
    (h : memberNamed e.1 members = some m) (ms : Members) :
    strangers members (e :: ms) = strangers members ms :=
  List.filter_cons_of_neg (by simp [h])

theorem strangers_of_unnamed {e : String × Value} (h : memberNamed e.1 members = none)
    (ms : Members) : strangers members (e :: ms) = e :: strangers members ms :=
  List.filter_cons_of_pos (by simp [h])

/-- Where there are only members of other names, nothing is taken. -/
theorem takeObject_strangers {ms : Members} (h : ∀ e ∈ ms, memberNamed e.1 members = none)
    (seen : List String) (x : σ) : takeObject members seen x ms = takeObject members seen x [] := by
  have hempty : (ms.filter fun e => (memberNamed e.1 members).isSome) = [] :=
    List.filter_eq_nil_iff.2 fun e he => by simp [h e he]
  rw [← takeObject_filter, hempty]

/-! ## Other orders -/

/-- Two members that stand next to each other may change places. -/
theorem takeObject_swap (h : Orderless members) (e e' : String × Value) (seen : List String)
    (x : σ) (ms : Members) {y : σ}
    (hy : takeObject members seen x (e :: e' :: ms) = .ok y) :
    takeObject members seen x (e' :: e :: ms) = .ok y := by
  cases hnamed : memberNamed e.1 members with
  | none =>
    rw [takeObject_stranger hnamed] at hy
    rw [takeObject] at hy ⊢
    simp only [takeObject_stranger hnamed]
    exact hy
  | some m =>
    cases hnamed' : memberNamed e'.1 members with
    | none =>
      rw [takeObject_stranger hnamed']
      rw [takeObject] at hy ⊢
      simp only [takeObject_stranger hnamed'] at hy
      exact hy
    | some m' =>
      have hname := name_of_memberNamed hnamed
      have hname' := name_of_memberNamed hnamed'
      simp only [takeObject, hnamed, hnamed', List.contains_iff_mem, List.mem_cons] at hy ⊢
      by_cases hseen : e.1 ∈ seen
      · simp [hseen] at hy
      by_cases hseen' : e'.1 ∈ seen
      · simp only [hseen, hseen', or_true, if_true, if_false] at hy
        obtain ⟨z, -, hz⟩ := exists_of_bind_eq_ok hy
        cases hz
      by_cases heq : e'.1 = e.1
      · simp only [hseen, heq, true_or, if_true, if_false] at hy
        obtain ⟨z, -, hz⟩ := exists_of_bind_eq_ok hy
        cases hz
      have hne : m ≠ m' := by
        rintro rfl
        exact heq (hname'.symm.trans hname)
      have hapart : m.Apart m' := h.apart.forall (List.mem_of_find?_eq_some hnamed)
        (List.mem_of_find?_eq_some hnamed') hne
      simp only [hseen, hseen', heq, Ne.symm heq, or_self, if_false] at hy ⊢
      obtain ⟨z, hz, hy⟩ := exists_of_bind_eq_ok hy
      obtain ⟨z', hz', hy⟩ := exists_of_bind_eq_ok hy
      obtain ⟨w, hw, hw'⟩ := exists_of_bind_eq_ok ((hapart x e.2 e'.2 z').1 (by
        rw [hz]
        exact hz'))
      rw [hw]
      show (m.take w e.2).bind _ = _
      rw [hw']
      refine (takeObject_congr (fun n => ?_) z' ms).trans hy
      simp only [List.mem_cons]
      exact or_left_comm

/-- **The order of members does not matter.** Whatever is taken out of an object is taken out of
one with the same members in another order. -/
theorem takeObject_perm (h : Orderless members) {ms ms' : Members} (hperm : ms.Perm ms')
    (seen : List String) (x y : σ) :
    takeObject members seen x ms = .ok y ↔ takeObject members seen x ms' = .ok y := by
  induction hperm generalizing seen x with
  | nil => exact Iff.rfl
  | cons e _ ih =>
    rw [takeObject, takeObject]
    split
    · exact ih seen x
    · split
      · exact Iff.rfl
      · next m _ _ =>
        cases m.take x e.2 with
        | error fault => exact Iff.rfl
        | ok z => exact ih (e.1 :: seen) z
  | swap e e' ms => exact ⟨takeObject_swap h e' e seen x ms, takeObject_swap h e e' seen x ms⟩
  | trans _ _ ih ih' => exact (ih seen x).trans (ih' seen x)

/-! ## Open records -/

theorem OpenRecord.take_object (r : OpenRecord σ τ) (ms : Members) :
    r.form.take (.object ms) =
      (takeObject r.members [] r.blank ms).bind (r.finish · (strangers r.members ms)) :=
  congrArg (Except.bind · (r.finish · (strangers r.members ms))) (takeObject_filter [] r.blank ms)

/-- An open record is taken out of the same members in another order, if what it makes of the
members of other names does not depend on their order. -/
theorem OpenRecord.take_perm {r : OpenRecord σ τ} (h : Orderless r.members)
    (hfinish : ∀ {x ms ms' y}, ms.Perm ms' → r.finish x ms = .ok y → r.finish x ms' = .ok y)
    {ms ms' : Members} (hperm : ms.Perm ms') {y : τ} (hy : r.form.take (.object ms) = .ok y) :
    r.form.take (.object ms') = .ok y := by
  rw [take_object] at hy ⊢
  obtain ⟨x, hx, hy⟩ := exists_of_bind_eq_ok hy
  rw [(takeObject_perm h hperm [] r.blank x).1 hx]
  exact hfinish (hperm.filter _) hy

end PacketTelemetry.Json
