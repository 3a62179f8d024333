/-
Numbers and dates of a configuration text.

Whole numbers fit in 64 bits. They may be written in base sixteen, eight or two, without a sign
then, and an underscore may stand between two digits. Of floats it is checked that they are
well-formed and not beyond all doubles, of dates and times that the calendar and the clock have
them.
-/
import PacketTelemetry.Decimal.Power
import PacketTelemetry.Time.Calendar
import PacketTelemetry.Toml.Value

namespace PacketTelemetry.Toml

open Decimal

/-! ## Dates -/

/-- A number of a given count of digits. -/
def readFixed (digits : Nat) (cs : List Char) : Option (Nat × List Char) :=
  let ds := cs.take digits
  if ds.length = digits ∧ ds.all Char.isDigit then
    some (ds.foldl (fun n c => n * 10 + (c.toNat - '0'.toNat)) 0, cs.drop digits)
  else none

/-- A number of two digits in a range. -/
def readPair (least most : Nat) (cs : List Char) : Option (List Char) := do
  let (n, rest) ← readFixed 2 cs
  if least ≤ n ∧ n ≤ most then some rest else none

/-- A mark. -/
def readMark (mark : Char) : List Char → Option (List Char)
  | c :: rest => if c = mark then some rest else none
  | [] => none

/-- The digits after the second, where there are any. -/
def dropFraction (cs : List Char) : List Char :=
  match cs with
  | '.' :: c :: rest => if c.isDigit then rest.dropWhile Char.isDigit else cs
  | cs => cs

/-- A time of day. -/
def readTime (cs : List Char) : Option (List Char) := do
  let cs ← readMark ':' (← readPair 0 23 cs)
  let cs ← readMark ':' (← readPair 0 59 cs)
  let cs ← readPair 0 60 cs
  some (dropFraction cs)

/-- An offset from UTC, where there is one. -/
def readOffset (cs : List Char) : Option (List Char) :=
  match cs with
  | c :: rest =>
    if c = 'Z' ∨ c = 'z' then some rest
    else if c = '+' ∨ c = '-' then do
      let rest ← readMark ':' (← readPair 0 23 rest)
      readPair 0 59 rest
    else some cs
  | [] => some []

/-- A date, with a time of day and an offset where they follow. -/
def readDate (cs : List Char) : Option (List Char) := do
  let (year, cs) ← readFixed 4 cs
  let (month, cs) ← readFixed 2 (← readMark '-' cs)
  let (day, cs) ← readFixed 2 (← readMark '-' cs)
  if Time.Date.isReal ⟨year, month, day⟩ then
    match cs with
    | c :: rest =>
      if c = 'T' ∨ c = 't' ∨ c = ' ' then
        match readTime rest with
        | some rest => readOffset rest
        | none => some cs
      else some cs
    | [] => some []
  else none

/-! ## Numbers -/

/-- Digits, between any two of which one underscore may stand. Gives the digits alone. -/
def readDigits (isDigit : Char → Bool) : List Char → Option (List Char × List Char)
  | [] => none
  | c :: rest =>
    if isDigit c then
      match rest with
      | '_' :: rest => (readDigits isDigit rest).map fun (ds, rest) => (c :: ds, rest)
      | d :: after =>
        if isDigit d then
          (readDigits isDigit (d :: after)).map fun (ds, rest) => (c :: ds, rest)
        else some ([c], d :: after)
      | [] => some ([c], [])
    else none

/-- The digits of a whole part: one zero, or digits that begin with another. -/
def readWhole (cs : List Char) : Option (List Char × List Char) :=
  match cs with
  | '0' :: rest => some (['0'], rest)
  | cs => readDigits Char.isDigit cs

/-- The value of a digit of any base up to sixteen. -/
def digitValue (c : Char) : Nat :=
  if c.isDigit then c.toNat - '0'.toNat
  else if 'a' ≤ c ∧ c ≤ 'f' then c.toNat - 'a'.toNat + 10
  else c.toNat - 'A'.toNat + 10

/-- The number some digits stand for. -/
def ofDigits (base : Nat) (ds : List Char) : Nat :=
  ds.foldl (fun n c => n * base + digitValue c) 0

/-- A whole number of 64 bits. -/
def ofInt? (n : Int) : Option Value :=
  if -(twoTo 63 : Int) ≤ n ∧ n < twoTo 63 then some (.integer n) else none

/-- A number in another base, read behind what says so. -/
def readBase (base : Nat) (isDigit : Char → Bool) (cs : List Char) :
    Option (Value × List Char) := do
  let (ds, rest) ← readDigits isDigit cs
  let v ← ofInt? (ofDigits base ds)
  some (v, rest)

/-- The exponent of a float, where there is one. -/
def readExponent (cs : List Char) : Option (Int × List Char) :=
  match cs with
  | c :: rest =>
    if c = 'e' ∨ c = 'E' then do
      let (below, rest) := match rest with
        | '+' :: rest => (false, rest)
        | '-' :: rest => (true, rest)
        | rest => (false, rest)
      let (ds, rest) ← readDigits Char.isDigit rest
      let n : Int := ofDigits 10 ds
      some (if below then -n else n, rest)
    else some (0, cs)
  | [] => some (0, [])

/-- Whether `digits * 10 ^ exponent` lies beyond all doubles, and would round to infinity. -/
def isBeyond (digits : List Char) (exponent : Int) : Bool :=
  let digits := digits.dropWhile (· = '0')
  let first := digits.length + exponent
  if digits.isEmpty || first < 309 then false
  else if 309 < first then true
  else
    let bound := twoTo 1024 - twoTo 970
    bound * tenTo (-exponent).toNat ≤ ofDigits 10 digits * tenTo exponent.toNat

/-- A float, its whole part having been read. -/
def readFloat (below : Bool) (whole : List Char) (cs : List Char) :
    Option (Value × List Char) := do
  let (fraction, cs) ← match cs with
    | '.' :: rest => readDigits Char.isDigit rest
    | cs => some ([], cs)
  let (exponent, cs) ← readExponent cs
  if !below && isBeyond (whole ++ fraction) (exponent - fraction.length) then none
  else some (.float, cs)

/-- A number in base ten, read behind its sign. -/
def readDecimal (below : Bool) (cs : List Char) : Option (Value × List Char) := do
  let (ds, rest) ← readWhole cs
  match rest with
  | c :: _ =>
    if c = '.' ∨ c = 'e' ∨ c = 'E' then readFloat below ds rest
    else
      let v ← ofInt? (if below then -(ofDigits 10 ds : Int) else ofDigits 10 ds)
      some (v, rest)
  | [] =>
    let v ← ofInt? (if below then -(ofDigits 10 ds : Int) else ofDigits 10 ds)
    some (v, [])

/-- Infinity, or what is no number. -/
def readSpecial : List Char → Option (Value × List Char)
  | 'i' :: 'n' :: 'f' :: rest => some (.float, rest)
  | 'n' :: 'a' :: 'n' :: rest => some (.float, rest)
  | _ => none

/-- A digit of base sixteen. -/
def isHexDigit (c : Char) : Bool := c.isDigit || ('a' ≤ c && c ≤ 'f') || ('A' ≤ c && c ≤ 'F')

/-- A number, a date or a time. -/
def readNumber (cs : List Char) : Option (Value × List Char) :=
  match readDate cs, readTime cs with
  | some rest, _ => some (.date, rest)
  | none, some rest => some (.date, rest)
  | none, none =>
    match cs with
    | '0' :: 'x' :: rest => readBase 16 isHexDigit rest
    | '0' :: 'o' :: rest => readBase 8 (fun c => '0' ≤ c && c ≤ '7') rest
    | '0' :: 'b' :: rest => readBase 2 (fun c => c = '0' || c = '1') rest
    | '+' :: rest => (readSpecial rest).or (readDecimal false rest)
    | '-' :: rest => (readSpecial rest).or (readDecimal true rest)
    | cs => (readSpecial cs).or (readDecimal false cs)

end PacketTelemetry.Toml
