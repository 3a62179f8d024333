/-
Values read from JSON text.

A value may hold 127 levels of arrays and objects. `readValue` reads one and leaves the rest;
`Value.ofSource` wants the whole source to be one value. What a value of no interest holds is
checked as JSON by `skipValue`, to any depth, and neither its numbers nor its escapes have to
stand for anything.
-/
import PacketTelemetry.Json.Source

namespace PacketTelemetry.Json

/-- The levels of arrays and objects a text may hold. -/
def maxLevels : Nat := 127

/-- The steps that suffice to read a source. -/
def Source.steps (s : Source) : Nat := 2 * s.length + 2

/-- A member's name. -/
def readKey (s : Source) : Except Fault (String × Source) :=
  match skipBlank s with
  | [] => .error .truncated
  | some '"' :: rest => readString rest
  | _ => .error .malformed

/-- The colon after a member's name. -/
def readColon (s : Source) : Except Fault Source :=
  match skipBlank s with
  | [] => .error .truncated
  | some ':' :: rest => .ok rest
  | _ => .error .malformed

/-- A member's name and the colon after it. -/
def readName (s : Source) : Except Fault (String × Source) := do
  let (name, rest) ← readKey s
  let rest ← readColon rest
  .ok (name, rest)

/-- A value that is no array and no object, from its first character. -/
def readScalar (c : Char) (rest : Source) : Except Fault (Value × Source) :=
  if c = 'n' then (readWord "ull".toList rest).map (.null, ·)
  else if c = 't' then (readWord "rue".toList rest).map (.boolean true, ·)
  else if c = 'f' then (readWord "alse".toList rest).map (.boolean false, ·)
  else if c = '"' then (readString rest).map fun (s, rest) => (.text s, rest)
  else if c = '-' then (readNumber true rest).map fun (n, rest) => (.number n, rest)
  else if c.isDigit then
    (readNumber false (some c :: rest)).map fun (n, rest) => (.number n, rest)
  else .error .malformed

mutual

/-- Reads a value that may hold some levels of arrays and objects. -/
def readValue : Nat → Nat → Source → Except Fault (Value × Source)
  | 0, _, _ => .error .malformed
  | fuel + 1, levels, s =>
    match skipBlank s with
    | [] => .error .truncated
    | none :: _ => .error .malformed
    | some c :: rest =>
      if c = '[' then
        match levels with
        | 0 => .error .malformed
        | levels + 1 =>
          match skipBlank rest with
          | [] => .error .truncated
          | some ']' :: rest => .ok (.array [], rest)
          | rest => readItems fuel levels [] rest
      else if c = '\x7b' then
        match levels with
        | 0 => .error .malformed
        | levels + 1 =>
          match skipBlank rest with
          | [] => .error .truncated
          | some '\x7d' :: rest => .ok (.object [], rest)
          | rest => readMembers fuel levels [] rest
      else readScalar c rest

/-- Reads an item of an array and those after it, `done` being the items before, last first. -/
def readItems : Nat → Nat → List Value → Source → Except Fault (Value × Source)
  | 0, _, _, _ => .error .malformed
  | fuel + 1, levels, done, s =>
    match readValue fuel levels s with
    | .error fault => .error fault
    | .ok (v, s) =>
      match skipBlank s with
      | [] => .error .truncated
      | some ',' :: rest => readItems fuel levels (v :: done) rest
      | some ']' :: rest => .ok (.array (v :: done).reverse, rest)
      | _ => .error .malformed

/-- Reads a member of an object and those after it, `done` being the members before. -/
def readMembers : Nat → Nat → Members → Source → Except Fault (Value × Source)
  | 0, _, _, _ => .error .malformed
  | fuel + 1, levels, done, s =>
    match readName s with
    | .error fault => .error fault
    | .ok (name, s) =>
      match readValue fuel levels s with
      | .error fault => .error fault
      | .ok (v, s) =>
        match skipBlank s with
        | [] => .error .truncated
        | some ',' :: rest => readMembers fuel levels (Table.put name v done) rest
        | some '\x7d' :: rest => .ok (.object (Table.put name v done), rest)
        | _ => .error .malformed

end

/-- What follows a value has to be white space. -/
def readEnd (s : Source) : Except Fault Unit :=
  match skipBlank s with
  | [] => .ok ()
  | _ => .error .malformed

/-- The value a whole source is. -/
def Value.ofSource (s : Source) : Except Fault Value := do
  let (v, rest) ← readValue s.steps maxLevels s
  readEnd rest
  .ok v

/-- The value a whole text is. -/
def Value.ofString (s : String) : Except Fault Value := Value.ofSource (.ofString s)

/-! ## Values that are passed over -/

/-- Where the reader of a string stands whose text is not kept. -/
inductive OverString where
  | plain
  | escaped
  | number (owed : Nat)
deriving DecidableEq, Repr

/-- Passes over what is left of a string. Escapes need their digits, no more. -/
def skipStringFrom : OverString → Source → Except Fault Source
  | _, [] => .error .truncated
  | .plain, x :: rest =>
    if x = some '"' then .ok rest
    else if x = some '\\' then skipStringFrom .escaped rest
    else match x with
      | some c => if c.toNat < 0x20 then .error .malformed else skipStringFrom .plain rest
      | none => skipStringFrom .plain rest
  | .escaped, x :: rest =>
    if x = some 'u' then skipStringFrom (.number 4) rest
    else match x.bind unescape? with
      | some _ => skipStringFrom .plain rest
      | none => .error .malformed
  | .number owed, x :: rest =>
    match x.bind hexDigit? with
    | none => if shorterThan owed (x :: rest) then .error .truncated else .error .malformed
    | some _ =>
      if owed ≤ 1 then skipStringFrom .plain rest else skipStringFrom (.number (owed - 1)) rest

/-- Passes over a string after its opening quote. -/
def skipString (s : Source) : Except Fault Source := skipStringFrom .plain s

/-- Digits of which there has to be one at least. A text that ends before it is no number. -/
def skipDigits (s : Source) : Except Fault Source :=
  match takeDigits s with
  | ([], _) => .error .malformed
  | (_, rest) => .ok rest

/-- Passes over the exponent of a number, where there is one. -/
def skipExponent (s : Source) : Except Fault Source :=
  match s with
  | some c :: rest => if c = 'e' ∨ c = 'E' then skipDigits (readExponentSign rest).2 else .ok s
  | s => .ok s

/-- Passes over a number after its sign. -/
def skipNumber (s : Source) : Except Fault Source :=
  match takeDigits s with
  | ([], _) => .error .malformed
  | (0 :: _ :: _, _) => .error .malformed
  | (_, some '.' :: rest) => do skipExponent (← skipDigits rest)
  | (_, rest) => skipExponent rest

/-- What a value passed over stands in. -/
inductive Bracket where
  | array
  | object
deriving DecidableEq, Repr

/-- Passes over a member's name and the colon after it. -/
def skipName (s : Source) : Except Fault Source :=
  match skipBlank s with
  | [] => .error .truncated
  | some '"' :: rest => do readColon (← skipString rest)
  | _ => .error .malformed

/-- Passes over a value that is no array and no object, from its first character. -/
def skipScalar (c : Char) (rest : Source) : Except Fault Source :=
  if c = 'n' then readWord "ull".toList rest
  else if c = 't' then readWord "rue".toList rest
  else if c = 'f' then readWord "alse".toList rest
  else if c = '"' then skipString rest
  else if c = '-' then skipNumber rest
  else if c.isDigit then skipNumber (some c :: rest)
  else .error .malformed

/-- Where one stands when passing over a value: before a value, or behind one. -/
inductive OverValue where
  | before
  | behind
deriving DecidableEq, Repr

/-- Passes over what is left of a value inside the brackets `within`, innermost first. -/
def skipFrom : Nat → OverValue → List Bracket → Source → Except Fault Source
  | 0, _, _, _ => .error .malformed
  | fuel + 1, .before, within, s =>
    match skipBlank s with
    | [] => .error .truncated
    | none :: _ => .error .malformed
    | some c :: rest =>
      if c = '[' then
        match skipBlank rest with
        | [] => .error .truncated
        | some ']' :: rest => skipFrom fuel .behind within rest
        | rest => skipFrom fuel .before (.array :: within) rest
      else if c = '\x7b' then
        match skipBlank rest with
        | [] => .error .truncated
        | some '\x7d' :: rest => skipFrom fuel .behind within rest
        | rest =>
          match skipName rest with
          | .error fault => .error fault
          | .ok rest => skipFrom fuel .before (.object :: within) rest
      else
        match skipScalar c rest with
        | .error fault => .error fault
        | .ok rest => skipFrom fuel .behind within rest
  | _ + 1, .behind, [], s => .ok s
  | fuel + 1, .behind, .array :: within, s =>
    match skipBlank s with
    | [] => .error .truncated
    | some ',' :: rest => skipFrom fuel .before (.array :: within) rest
    | some ']' :: rest => skipFrom fuel .behind within rest
    | _ => .error .malformed
  | fuel + 1, .behind, .object :: within, s =>
    match skipBlank s with
    | [] => .error .truncated
    | some ',' :: rest =>
      match skipName rest with
      | .error fault => .error fault
      | .ok rest => skipFrom fuel .before (.object :: within) rest
    | some '\x7d' :: rest => skipFrom fuel .behind within rest
    | _ => .error .malformed

/-- Passes over a value. -/
def skipValue (s : Source) : Except Fault Source := skipFrom s.steps .before [] s

end PacketTelemetry.Json
