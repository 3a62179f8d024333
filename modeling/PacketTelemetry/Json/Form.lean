/-
How a type of the domain is written as JSON and read back.

A `Form` writes its values and reads them in two ways: from a source, where the first problem
met decides what is wrong, and out of a value that has been read already, where a `Mismatch`
says what does not fit. A `Record` is the form of a type with named members, which may also
stand as an array of them all in order; members with other names are passed over. An
`OpenRecord` is an object only, and what it holds besides its members is kept for `finish`.
-/
import PacketTelemetry.Json.Printer
import PacketTelemetry.Json.Reader
import PacketTelemetry.Text.Quoted

namespace PacketTelemetry.Json

/-! ## Values of another form -/

/-- Why a value does not fit. -/
inductive Mismatch where
  | wrongType (found : Value) (expected : String)
  | outOfRange (n : Int) (expected : String)
  | missing (name : String)
  | repeated (name : String)
  | tooShort (count : Nat) (expected : String)
  | tooLong (count : Nat)
deriving Repr

/-- What a value is, in a message. -/
def Value.describe : Value → String
  | .null => "null"
  | .boolean b => "boolean `" ++ (if b then "true" else "false") ++ "`"
  | .number (.integer n) => "integer `" ++ String.ofList (intChars n) ++ "`"
  | .number n => "floating point `" ++ String.ofList n.chars ++ "`"
  | .text s => "string " ++ Text.quoted s
  | .array _ => "sequence"
  | .object _ => "map"

/-- The text of a mismatch. -/
def Mismatch.message : Mismatch → String
  | .wrongType found expected => "invalid type: " ++ found.describe ++ ", expected " ++ expected
  | .outOfRange n expected =>
    "invalid value: " ++ (Value.ofInt n).describe ++ ", expected " ++ expected
  | .missing name => "missing field `" ++ name ++ "`"
  | .repeated name => "duplicate field `" ++ name ++ "`"
  | .tooShort count expected => "invalid length " ++ toString count ++ ", expected " ++ expected
  | .tooLong count =>
    "invalid length " ++ toString count ++ ", expected fewer elements in array"

/-- What is wrong with a source that goes on with a value of another form: the value itself,
where its first character or its whole scalar is JSON. -/
def wrongKind (s : Source) : Fault :=
  match s with
  | [] => .truncated
  | none :: _ => .malformed
  | some c :: rest =>
    if c = '[' ∨ c = '\x7b' then .mismatch
    else match readScalar c rest with
      | .ok _ => .mismatch
      | .error fault => fault

/-! ## Forms -/

/-- How values of a type are written and read. `read` gets the levels of arrays and objects
that the source may still hold. -/
structure Form (α : Type) where
  write : α → Value
  read : Nat → Source → Except Fault (α × Source)
  take : Value → Except Mismatch α

namespace Form

variable {α : Type}

/-- The value at the start of a source, whatever comes after it. -/
def ofStart (f : Form α) (s : Source) : Except Fault α :=
  (f.read maxLevels s).map (·.1)

/-- The value a whole text is. -/
def ofString (f : Form α) (text : String) : Except Fault α := do
  let (a, rest) ← f.read maxLevels (.ofString text)
  readEnd rest
  .ok a

/-- The JSON text of a value. -/
def render (f : Form α) (a : α) : String := (f.write a).render

/-- Any value. -/
def any : Form Value where
  write v := v
  read levels s := readValue s.steps levels s
  take v := .ok v

/-- Texts. -/
def text : Form String where
  write := .text
  read _ s :=
    match skipBlank s with
    | some '"' :: rest => readString rest
    | s => .error (wrongKind s)
  take
    | .text s => .ok s
    | v => .error (.wrongType v "a string")

/-- The number a source goes on with. -/
def readAnyNumber (s : Source) : Except Fault (Number × Source) :=
  match skipBlank s with
  | some '-' :: rest => readNumber true rest
  | some c :: rest =>
    if c.isDigit then readNumber false (some c :: rest) else .error (wrongKind (some c :: rest))
  | s => .error (wrongKind s)

/-- Whole numbers from `least` to `most`, in a type of their own. -/
def integer (least most : Int) (name : String) (ofInt : Int → α) (toInt : α → Int) :
    Form α where
  write a := .ofInt (toInt a)
  read _ s := do
    match ← readAnyNumber s with
    | (.integer n, rest) =>
      if least ≤ n ∧ n ≤ most then .ok (ofInt n, rest) else .error .mismatch
    | _ => .error .mismatch
  take
    | .number (.integer n) =>
      if least ≤ n ∧ n ≤ most then .ok (ofInt n) else .error (.outOfRange n name)
    | v => .error (.wrongType v name)

/-- Numbers of 32 bits. -/
def int32 : Form Int32 :=
  integer Int32.minValue.toInt Int32.maxValue.toInt "a number of 32 bits" .ofInt (·.toInt)

/-- Numbers of 64 bits. -/
def int64 : Form Int64 :=
  integer Int64.minValue.toInt Int64.maxValue.toInt "a number of 64 bits" .ofInt (·.toInt)

/-- Counts of 64 bits. -/
def nat64 : Form Nat :=
  integer 0 (Decimal.twoTo 64 - 1) "a count of 64 bits" Int.toNat Int.ofNat

/-- Values that may be absent: `null` stands for none. -/
def optional (f : Form α) : Form (Option α) where
  write := Value.ofOption f.write
  read levels s :=
    match skipBlank s with
    | some 'n' :: rest => (readWord "ull".toList rest).map (none, ·)
    | s => (f.read levels s).map fun (a, rest) => (some a, rest)
  take
    | .null => .ok none
    | v => (f.take v).map some

end Form

/-! ## Lists -/

/-- Where the next item of an array begins, or what follows the array when it ends. -/
inductive NextItem where
  | item (s : Source)
  | done (rest : Source)

/-- Looks for the next item of an array. -/
def nextItem (first : Bool) (s : Source) : Except Fault NextItem :=
  match skipBlank s with
  | [] => .error .truncated
  | some ']' :: rest => .ok (.done rest)
  | s =>
    if first then .ok (.item s)
    else match s with
      | some ',' :: rest =>
        match skipBlank rest with
        | [] => .error .truncated
        | some ']' :: _ => .error .malformed
        | rest => .ok (.item rest)
      | _ => .error .malformed

/-- The end of an array that has no further item. -/
def endArray (s : Source) : Except Fault Source :=
  match skipBlank s with
  | [] => .error .truncated
  | some ']' :: rest => .ok rest
  | _ => .error .malformed

/-- Items of an array, `done` being those read, last first. -/
def readItemsOf {α : Type} (read : Source → Except Fault (α × Source)) :
    Nat → List α → Source → Except Fault (List α × Source)
  | 0, _, _ => .error .malformed
  | fuel + 1, done, s => do
    match ← nextItem done.isEmpty s with
    | .done rest => .ok (done.reverse, rest)
    | .item s =>
      let (a, s) ← read s
      readItemsOf read fuel (a :: done) s

/-- Lists of values, one after another in an array. -/
def Form.list {α : Type} (f : Form α) : Form (List α) where
  write as := .array (as.map f.write)
  read levels s :=
    match skipBlank s with
    | some '[' :: rest =>
      match levels with
      | 0 => .error .malformed
      | levels + 1 => readItemsOf (f.read levels) (rest.length + 1) [] rest
    | s => .error (wrongKind s)
  take
    | .array vs => vs.mapM f.take
    | v => .error (.wrongType v "a sequence")

/-! ## Records -/

/-- A member of a record: how it is written, and how a record is changed by reading it. -/
structure Member (σ : Type) where
  name : String
  required : Bool
  write : σ → Value
  read : Nat → σ → Source → Except Fault (σ × Source)
  take : σ → Value → Except Mismatch σ

/-- A member of a form, with the place in the record where it stands. -/
def Form.member {α σ : Type} (f : Form α) (name : String) (required : Bool) (get : σ → α)
    (set : σ → α → σ) : Member σ where
  name
  required
  write x := f.write (get x)
  read levels x s := (f.read levels s).map fun (a, rest) => (set x a, rest)
  take x v := (f.take v).map (set x)

/-- A member that has to be there. -/
def Form.needed {α σ : Type} (f : Form α) (name : String) (get : σ → α) (set : σ → α → σ) :
    Member σ := f.member name true get set

/-- A member that may be absent or `null`. -/
def Form.maybe {α σ : Type} (f : Form α) (name : String) (get : σ → Option α)
    (set : σ → Option α → σ) : Member σ := f.optional.member name false get set

/-- The member of a name. -/
def memberNamed {σ : Type} (name : String) (members : List (Member σ)) : Option (Member σ) :=
  members.find? (·.name = name)

/-- The first member that has to be there and is not among those seen. -/
def missingMember {σ : Type} (seen : List String) (members : List (Member σ)) : Option String :=
  (members.find? fun m => m.required && !seen.contains m.name).map (·.name)

/-- The next name in an object, or nothing when the object ends, and what follows. -/
def nextKey (first : Bool) (s : Source) : Except Fault (Option String × Source) :=
  match skipBlank s with
  | [] => .error .truncated
  | some '\x7d' :: rest => .ok (none, rest)
  | s =>
    if first then (readKey s).map fun (name, rest) => (some name, rest)
    else match s with
      | some ',' :: rest => (readKey rest).map fun (name, rest) => (some name, rest)
      | _ => .error .malformed

/-- What is done with a member of an object whose name is none of the record's: it is passed
over, or kept. -/
inductive Others where
  | pass
  | keep
deriving DecidableEq

/-- An object being read: the record so far, the names seen, and the other members kept, last
first. -/
structure Progress (σ : Type) where
  record : σ
  seen : List String
  kept : Members

/-- Members of an object, read from behind its brace. A known name that comes again is refused
before its value is read, a needed member that never comes when the object ends. -/
def readObject {σ : Type} (members : List (Member σ)) (others : Others) (levels : Nat) :
    Nat → Bool → Progress σ → Source → Except Fault (Progress σ × Source)
  | 0, _, _, _ => .error .malformed
  | fuel + 1, first, p, s => do
    match ← nextKey first s with
    | (none, rest) =>
      if (missingMember p.seen members).isSome then .error .mismatch else .ok (p, rest)
    | (some name, s) =>
      match memberNamed name members with
      | some m =>
        if p.seen.contains name then .error .mismatch
        else
          let s ← readColon s
          let (record, s) ← m.read levels p.record s
          readObject members others levels fuel false ⟨record, name :: p.seen, p.kept⟩ s
      | none =>
        let s ← readColon s
        match others with
        | .pass =>
          let s ← skipValue s
          readObject members others levels fuel false p s
        | .keep =>
          let (v, s) ← readValue s.steps levels s
          readObject members others levels fuel false { p with kept := (name, v) :: p.kept } s

/-- Members of a record that stand one after another in an array. -/
def readInOrder {σ : Type} (levels : Nat) :
    List (Member σ) → Bool → σ → Source → Except Fault (σ × Source)
  | [], _, x, s => do
    let rest ← endArray s
    .ok (x, rest)
  | m :: ms, first, x, s => do
    match ← nextItem first s with
    | .done _ => .error .mismatch
    | .item s =>
      let (x, s) ← m.read levels x s
      readInOrder levels ms false x s

/-- Takes the members of a record out of those of an object. -/
def takeObject {σ : Type} (members : List (Member σ)) :
    List String → σ → Members → Except Mismatch σ
  | seen, x, [] =>
    match missingMember seen members with
    | some name => .error (.missing name)
    | none => .ok x
  | seen, x, (name, v) :: rest =>
    match memberNamed name members with
    | none => takeObject members seen x rest
    | some m =>
      if seen.contains name then .error (.repeated name)
      else do takeObject members (name :: seen) (← m.take x v) rest

/-- Takes the members of a record out of the items of an array. -/
def takeInOrder {σ : Type} : List (Member σ) → σ → List Value → Except Mismatch (Option σ)
  | [], x, _ => .ok (some x)
  | _ :: _, _, [] => .ok none
  | m :: ms, x, v :: vs => do takeInOrder ms (← m.take x v) vs

/-- A type with named members. -/
structure Record (σ : Type) where
  /-- What a message calls it. -/
  expected : String
  /-- The record before any member is read. -/
  blank : σ
  members : List (Member σ)

namespace Record

variable {σ : Type}

/-- The members of a record with their values, in order. -/
def fields (r : Record σ) (x : σ) : Members := r.members.map fun m => (m.name, m.write x)

/-- The form of a record: an object, or an array of all members in order. -/
def form (r : Record σ) : Form σ where
  write x := .object (r.fields x)
  read levels s :=
    match skipBlank s, levels with
    | some '\x7b' :: _, 0 => .error .malformed
    | some '[' :: _, 0 => .error .malformed
    | some '\x7b' :: rest, levels + 1 =>
      (readObject r.members .pass levels (rest.length + 1) true ⟨r.blank, [], []⟩ rest).map
        fun (p, rest) => (p.record, rest)
    | some '[' :: rest, levels + 1 => readInOrder levels r.members true r.blank rest
    | s, _ => .error (wrongKind s)
  take
    | .object ms => takeObject r.members [] r.blank ms
    | .array vs => do
      match ← takeInOrder r.members r.blank vs with
      | none =>
        .error (.tooShort vs.length
          (r.expected ++ " with " ++ toString r.members.length ++ " elements"))
      | some x =>
        if r.members.length < vs.length then .error (.tooLong vs.length) else .ok x
    | v => .error (.wrongType v r.expected)

end Record

/-- A type written as an object of which some members are read one by one, and the rest once
all are there. -/
structure OpenRecord (σ τ : Type) where
  expected : String
  blank : σ
  members : List (Member σ)
  /-- The value, from its members and the others in the order in which they stand. -/
  finish : σ → Members → Except Mismatch τ
  write : τ → Members

/-- The form of an open record: an object. -/
def OpenRecord.form {σ τ : Type} (r : OpenRecord σ τ) : Form τ where
  write x := .object (r.write x)
  read levels s :=
    match skipBlank s, levels with
    | some '\x7b' :: _, 0 => .error .malformed
    | some '\x7b' :: rest, levels + 1 => do
      let (p, rest) ←
        readObject r.members .keep levels (rest.length + 1) true ⟨r.blank, [], []⟩ rest
      match r.finish p.record p.kept.reverse with
      | .ok x => .ok (x, rest)
      | .error _ => .error .mismatch
    | s, _ => .error (wrongKind s)
  take
    | .object ms => do
      let known := ms.filter fun m => (memberNamed m.1 r.members).isSome
      let others := ms.filter fun m => (memberNamed m.1 r.members).isNone
      r.finish (← takeObject r.members [] r.blank known) others
    | v => .error (.wrongType v r.expected)

end PacketTelemetry.Json
