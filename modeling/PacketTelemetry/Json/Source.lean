/-
What JSON is read from, and the words, strings and numerals in it.

A source is a list of characters, with a mark `none` where octets stood that are no character.
Reading stops at the first problem met, and `Fault` says of which kind it is: text that is no
JSON, text that ends too early, or JSON that is not what is wanted there. Every reader gives
back what it leaves of the source.
-/
import PacketTelemetry.Json.Value

namespace PacketTelemetry.Json

open PacketTelemetry.Decimal

/-- Why a text was refused. -/
inductive Fault where
  /-- It is no JSON. -/
  | malformed
  /-- It ends too early. -/
  | truncated
  /-- It is JSON, but not of the shape wanted. -/
  | mismatch
deriving DecidableEq, Repr

/-- Characters to be read, `none` standing for octets that are no character. -/
abbrev Source := List (Option Char)

/-- The source of a text. -/
def Source.ofChars (cs : List Char) : Source := cs.map some

/-- The source of a text. -/
def Source.ofString (s : String) : Source := Source.ofChars s.toList

/-- What JSON takes for white space. -/
def isBlank (c : Char) : Bool := c = ' ' || c = '\n' || c = '\t' || c = '\r'

/-- The source from its first character that is not white space. -/
def skipBlank : Source → Source
  | some c :: rest => if isBlank c then skipBlank rest else some c :: rest
  | s => s

/-- The digit a character stands for. -/
def digit? (c : Char) : Option Nat := if c.isDigit then some (c.toNat - '0'.toNat) else none

/-- The digit of base sixteen a character stands for. -/
def hexDigit? (c : Char) : Option Nat :=
  if c.isDigit then some (c.toNat - '0'.toNat)
  else if 'a' ≤ c ∧ c ≤ 'f' then some (c.toNat - 'a'.toNat + 10)
  else if 'A' ≤ c ∧ c ≤ 'F' then some (c.toNat - 'A'.toNat + 10)
  else none

/-- Reads the characters of a word. -/
def readWord : List Char → Source → Except Fault Source
  | [], s => .ok s
  | _ :: _, [] => .error .truncated
  | c :: word, x :: rest => if x = some c then readWord word rest else .error .malformed

/-- The octets a unit of a source takes. -/
def octetCount : Option Char → Nat
  | none => 1
  | some c => c.utf8Size

/-- Whether a source holds less than `n` octets. -/
def shorterThan : Nat → Source → Bool
  | n, [] => 0 < n
  | n, x :: rest => if n ≤ octetCount x then false else shorterThan (n - octetCount x) rest

/-! ## Strings -/

/-- Where the reader of a string stands. -/
inductive InString where
  /-- Between characters. -/
  | plain
  /-- After a backslash. -/
  | escaped
  /-- Within the number of an escape: the digits owed, the number so far, and the first half of
  a pair that this one has to complete. -/
  | number (owed : Nat) (value : Nat) (high : Option Nat)
  /-- After the first half of a pair, which a backslash has to follow. -/
  | halfway (high : Nat)
  /-- After that backslash. -/
  | halfwayEscaped (high : Nat)
deriving DecidableEq, Repr

/-- What an escape of one letter stands for. -/
def unescape? (c : Char) : Option Char :=
  if c = '"' ∨ c = '\\' ∨ c = '/' then some c
  else if c = 'b' then some (Char.ofNat 8)
  else if c = 'f' then some (Char.ofNat 12)
  else if c = 'n' then some '\n'
  else if c = 'r' then some '\r'
  else if c = 't' then some '\t'
  else none

/-- Where the reader stands once an escape has given its number: at a character, or owing the
second half of a pair. A half that stands alone is refused. -/
def endEscape (value : Nat) : Option Nat → Except Fault (Option Char × InString)
  | none =>
    if 0xDC00 ≤ value ∧ value ≤ 0xDFFF then .error .malformed
    else if 0xD800 ≤ value ∧ value ≤ 0xDBFF then .ok (none, .halfway value)
    else .ok (some (Char.ofNat value), .plain)
  | some high =>
    if 0xDC00 ≤ value ∧ value ≤ 0xDFFF then
      .ok (some (Char.ofNat ((high - 0xD800) * 0x400 + (value - 0xDC00) + 0x10000)), .plain)
    else .error .malformed

/-- Reads what is left of a string, `done` being what has been read of it, last character
first. -/
def readStringFrom : InString → List Char → Source → Except Fault (String × Source)
  | _, _, [] => .error .truncated
  | .plain, done, x :: rest =>
    match x with
    | none => .error .malformed
    | some c =>
      if c = '"' then .ok (String.ofList done.reverse, rest)
      else if c = '\\' then readStringFrom .escaped done rest
      else if c.toNat < 0x20 then .error .malformed
      else readStringFrom .plain (c :: done) rest
  | .escaped, done, x :: rest =>
    match x with
    | none => .error .malformed
    | some c =>
      if c = 'u' then readStringFrom (.number 4 0 none) done rest
      else match unescape? c with
        | some d => readStringFrom .plain (d :: done) rest
        | none => .error .malformed
  | .number owed value high, done, x :: rest =>
    match x.bind hexDigit? with
    | none => if shorterThan owed (x :: rest) then .error .truncated else .error .malformed
    | some d =>
      let value := value * 16 + d
      if owed ≤ 1 then
        match endEscape value high with
        | .error fault => .error fault
        | .ok (none, next) => readStringFrom next done rest
        | .ok (some c, next) => readStringFrom next (c :: done) rest
      else readStringFrom (.number (owed - 1) value high) done rest
  | .halfway high, done, x :: rest =>
    if x = some '\\' then readStringFrom (.halfwayEscaped high) done rest else .error .malformed
  | .halfwayEscaped high, done, x :: rest =>
    if x = some 'u' then readStringFrom (.number 4 0 (some high)) done rest
    else .error .malformed

/-- Reads a string after its opening quote. -/
def readString (s : Source) : Except Fault (String × Source) := readStringFrom .plain [] s

/-! ## Numbers -/

/-- Digits at the start of a source. -/
def takeDigits : Source → List Nat × Source
  | [] => ([], [])
  | x :: rest =>
    match x.bind digit? with
    | some d => let (ds, left) := takeDigits rest; (d :: ds, left)
    | none => ([], x :: rest)

/-- A number as it is written: its digits, those after the point, and its exponent. -/
structure Numeral where
  negative : Bool
  whole : List Nat
  fraction : Option (List Nat)
  /-- The sign, true below zero, and the digits. -/
  exponent : Option (Bool × List Nat)
deriving DecidableEq, Repr

/-- Digits of which there has to be one at least. -/
def readDigits (s : Source) : Except Fault (List Nat × Source) :=
  match takeDigits s with
  | ([], []) => .error .truncated
  | ([], _ :: _) => .error .malformed
  | (ds, rest) => .ok (ds, rest)

/-- The digits of a whole part: one zero, or digits that begin with another. -/
def readWhole (s : Source) : Except Fault (List Nat × Source) := do
  let (ds, rest) ← readDigits s
  match ds with
  | 0 :: _ :: _ => .error .malformed
  | _ => .ok (ds, rest)

/-- The point and the digits after it, where there is a point. -/
def readFraction : Source → Except Fault (Option (List Nat) × Source)
  | some '.' :: rest => do
    let (ds, left) ← readDigits rest
    .ok (some ds, left)
  | s => .ok (none, s)

/-- The sign of an exponent, true below zero. -/
def readExponentSign : Source → Bool × Source
  | some '+' :: rest => (false, rest)
  | some '-' :: rest => (true, rest)
  | s => (false, s)

/-- The exponent, where there is one. -/
def readExponent (s : Source) : Except Fault ((Option (Bool × List Nat)) × Source) :=
  match s with
  | some c :: rest =>
    if c = 'e' ∨ c = 'E' then do
      let (below, rest) := readExponentSign rest
      let (ds, left) ← readDigits rest
      .ok (some (below, ds), left)
    else .ok (none, s)
  | s => .ok (none, s)

/-- Reads a number as it is written, after its sign. -/
def readNumeral (negative : Bool) (s : Source) : Except Fault (Numeral × Source) := do
  let (whole, s) ← readWhole s
  let (fraction, s) ← readFraction s
  let (exponent, s) ← readExponent s
  .ok (⟨negative, whole, fraction, exponent⟩, s)

/-- The number some digits stand for. -/
def ofDigits (ds : List Nat) : Nat := ds.foldl (fun n d => n * 10 + d) 0

/-- The digits of a whole part as far as they fit in 64 bits, and how many come after them. -/
def fitWhole (ds : List Nat) : Nat × Nat :=
  ds.foldl
    (fun (n, dropped) d =>
      if dropped = 0 ∧ n * 10 + d < twoTo 64 then (n * 10 + d, 0) else (n, dropped + 1))
    (0, 0)

/-- Digits after the point added to a significand as far as they fit in 64 bits, and how many
were added. -/
def fitFraction (n : Nat) : List Nat → Nat × Nat
  | [] => (n, 0)
  | d :: ds =>
    if n * 10 + d < twoTo 64 then
      let (m, added) := fitFraction (n * 10 + d) ds
      (m, added + 1)
    else (n, 0)

/-- The value of a number. Whole numbers of 64 bits stay whole; all others become doubles, from
the digits that fit in 64 bits, and nothing stands for a number beyond every double. -/
def Numeral.value (x : Numeral) : Option Number :=
  let (significand, dropped) := fitWhole x.whole
  match x.fraction, x.exponent with
  | none, none =>
    if dropped = 0 ∧ !x.negative then some (.integer significand)
    else if dropped = 0 ∧ 0 < significand ∧ significand ≤ twoTo 63 then
      some (.integer (-(significand : Int)))
    else (Binary64.ofDecimal x.negative significand dropped).map .fractional
  | fraction, exponent =>
    let (significand, added) := fitFraction significand (fraction.getD [])
    let power : Int := match exponent with
      | none => 0
      | some (below, ds) => if below then -(ofDigits ds : Int) else ofDigits ds
    (Binary64.ofDecimal x.negative significand (dropped - added + power)).map .fractional

/-- Reads a number after its sign. -/
def readNumber (negative : Bool) (s : Source) : Except Fault (Number × Source) := do
  let (numeral, rest) ← readNumeral negative s
  match numeral.value with
  | some n => .ok (n, rest)
  | none => .error .malformed

end PacketTelemetry.Json
