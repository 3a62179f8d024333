/-
What the reader of values does in a step (`readValue_iff`, `readItems_iff`,
`readMembers_iff`).

Where it reads something, one of a few things stands there: a pair of brackets
with nothing in it, a bracket and what has been opened by it, or a scalar; and an
item or a member is the last one or has others after it. All that holds of what
is read follows from these cases, by induction on the steps.
-/
import PacketTelemetry.Json.Reader

namespace PacketTelemetry.Json

/-- A source that goes on, and not with the bracket that would close what has been opened. -/
def Further (close : Char) (s : Source) : Prop := s ≠ [] ∧ ∀ rest, s ≠ some close :: rest

/-- How a value is read, `fuel` being left for what stands in its brackets. -/
inductive ValueRead (fuel : Nat) : Nat → Source → Value × Source → Prop
  | emptyArray {levels : Nat} {s inside rest : Source}
      (hopen : skipBlank s = some '[' :: inside) (hclose : skipBlank inside = some ']' :: rest) :
      ValueRead fuel (levels + 1) s (.array [], rest)
  | array {levels : Nat} {s inside : Source} {r : Value × Source}
      (hopen : skipBlank s = some '[' :: inside) (hfilled : Further ']' (skipBlank inside))
      (hitems : readItems fuel levels [] (skipBlank inside) = .ok r) :
      ValueRead fuel (levels + 1) s r
  | emptyObject {levels : Nat} {s inside rest : Source}
      (hopen : skipBlank s = some '\x7b' :: inside)
      (hclose : skipBlank inside = some '\x7d' :: rest) :
      ValueRead fuel (levels + 1) s (.object [], rest)
  | object {levels : Nat} {s inside : Source} {r : Value × Source}
      (hopen : skipBlank s = some '\x7b' :: inside) (hfilled : Further '\x7d' (skipBlank inside))
      (hmembers : readMembers fuel levels [] (skipBlank inside) = .ok r) :
      ValueRead fuel (levels + 1) s r
  | scalar {levels : Nat} {s behind : Source} {c : Char} {r : Value × Source}
      (hblank : skipBlank s = some c :: behind) (hbracket : c ≠ '[') (hbrace : c ≠ '\x7b')
      (hscalar : readScalar c behind = .ok r) : ValueRead fuel levels s r

/-- How items are read, from the first one of them on. -/
inductive ItemsRead (fuel levels : Nat) (done : List Value) (s : Source) : Value × Source → Prop
  | last {v : Value} {behind rest : Source} (hvalue : readValue fuel levels s = .ok (v, behind))
      (hclose : skipBlank behind = some ']' :: rest) :
      ItemsRead fuel levels done s (.array (v :: done).reverse, rest)
  | next {v : Value} {behind next : Source} {r : Value × Source}
      (hvalue : readValue fuel levels s = .ok (v, behind))
      (hcomma : skipBlank behind = some ',' :: next)
      (hitems : readItems fuel levels (v :: done) next = .ok r) : ItemsRead fuel levels done s r

/-- How members are read, from the first one of them on. -/
inductive MembersRead (fuel levels : Nat) (done : Members) (s : Source) : Value × Source → Prop
  | last {name : String} {v : Value} {value behind rest : Source}
      (hname : readName s = .ok (name, value))
      (hvalue : readValue fuel levels value = .ok (v, behind))
      (hclose : skipBlank behind = some '\x7d' :: rest) :
      MembersRead fuel levels done s (.object (Table.put name v done), rest)
  | next {name : String} {v : Value} {value behind next : Source} {r : Value × Source}
      (hname : readName s = .ok (name, value))
      (hvalue : readValue fuel levels value = .ok (v, behind))
      (hcomma : skipBlank behind = some ',' :: next)
      (hmembers : readMembers fuel levels (Table.put name v done) next = .ok r) :
      MembersRead fuel levels done s r

variable {fuel levels : Nat} {s : Source} {r : Value × Source}

theorem readValue_iff : readValue (fuel + 1) levels s = .ok r ↔ ValueRead fuel levels s r := by
  constructor
  · intro h
    rw [readValue] at h
    split at h
    · cases h
    · cases h
    next c inside hblank =>
    split at h
    · next hc =>
      subst hc
      split at h
      · cases h
      split at h
      · cases h
      · next hclose =>
        cases h
        exact .emptyArray hblank hclose
      · next hend hclose => exact .array hblank ⟨hend, hclose⟩ h
    next hbracket =>
    split at h
    · next hc =>
      subst hc
      split at h
      · cases h
      split at h
      · cases h
      · next hclose =>
        cases h
        exact .emptyObject hblank hclose
      · next hend hclose => exact .object hblank ⟨hend, hclose⟩ h
    · next hbrace => exact .scalar hblank hbracket hbrace h
  · intro h
    cases h with
    | emptyArray hopen hclose =>
      rw [readValue, hopen]
      dsimp only
      rw [if_pos rfl, hclose]
      rfl
    | array hopen hfilled hitems =>
      rw [readValue, hopen]
      dsimp only
      rw [if_pos rfl]
      split
      · next hnil => exact absurd hnil hfilled.1
      · next rest hcons => exact absurd hcons (hfilled.2 rest)
      · exact hitems
    | emptyObject hopen hclose =>
      rw [readValue, hopen]
      dsimp only
      rw [if_neg (by decide), if_pos rfl, hclose]
      rfl
    | object hopen hfilled hmembers =>
      rw [readValue, hopen]
      dsimp only
      rw [if_neg (by decide), if_pos rfl]
      split
      · next hnil => exact absurd hnil hfilled.1
      · next rest hcons => exact absurd hcons (hfilled.2 rest)
      · exact hmembers
    | scalar hblank hbracket hbrace hscalar =>
      rw [readValue, hblank]
      dsimp only
      rw [if_neg hbracket, if_neg hbrace]
      exact hscalar

theorem readItems_iff {done : List Value} :
    readItems (fuel + 1) levels done s = .ok r ↔ ItemsRead fuel levels done s r := by
  constructor
  · intro h
    rw [readItems] at h
    split at h
    · cases h
    next v behind hvalue =>
    split at h
    · cases h
    · next hcomma => exact .next hvalue hcomma h
    · next hclose =>
      cases h
      exact .last hvalue hclose
    · cases h
  · intro h
    cases h with
    | last hvalue hclose =>
      rw [readItems, hvalue]
      dsimp only
      rw [hclose]
      rfl
    | next hvalue hcomma hitems =>
      rw [readItems, hvalue]
      dsimp only
      rw [hcomma]
      exact hitems

theorem readMembers_iff {done : Members} :
    readMembers (fuel + 1) levels done s = .ok r ↔ MembersRead fuel levels done s r := by
  constructor
  · intro h
    rw [readMembers] at h
    split at h
    · cases h
    next name value hname =>
    split at h
    · cases h
    next v behind hvalue =>
    split at h
    · cases h
    · next hcomma => exact .next hname hvalue hcomma h
    · next hclose =>
      cases h
      exact .last hname hvalue hclose
    · cases h
  · intro h
    cases h with
    | last hname hvalue hclose =>
      rw [readMembers, hname]
      dsimp only
      rw [hvalue]
      dsimp only
      rw [hclose]
      rfl
    | next hname hvalue hcomma hmembers =>
      rw [readMembers, hname]
      dsimp only
      rw [hvalue]
      dsimp only
      rw [hcomma]
      exact hmembers

end PacketTelemetry.Json
