/-
The shortest decimal text that reads back as a given double.

A finite value is nearest to the decimals of an interval around it, and the interval is
`Around`, in exact arithmetic. `shortest` tries one digit, then two, and so on: of each count
it looks at the two neighbours of the value on that decimal grid, and the first grid with a
neighbour inside the interval gives the digits. `Layout` says where the point goes.
-/
import PacketTelemetry.Decimal.Binary64

namespace PacketTelemetry.Decimal

/-- A value and the ends of the interval that rounds to it, over one denominator. -/
structure Around where
  low : Nat
  value : Nat
  high : Nat
  denominator : Nat
  /-- The ends round to the value as well. -/
  closed : Bool
deriving DecidableEq, Repr

/-- The interval of a magnitude that is not zero. -/
def Binary64.around (x : Binary64) : Around :=
  let (m, q) := x.parts
  let up := twoTo (q - 2).toNat
  let down := twoTo (2 - q).toNat
  let below := if m = twoTo 52 ∧ -1074 < q then 1 else 2
  ⟨(4 * m - below) * up, 4 * m * up, (4 * m + 2) * up, down, m % 2 == 0⟩

/-- `digits * 10 ^ exponent`, the digits being a whole number. -/
structure Digits where
  digits : Nat
  exponent : Int
deriving DecidableEq, Repr

/-- Whether a decimal lies in an interval. -/
def Around.holds (a : Around) (d : Digits) : Bool :=
  let n := d.digits * tenTo d.exponent.toNat * a.denominator
  let unit := tenTo (-d.exponent).toNat
  if a.closed then decide (a.low * unit ≤ n ∧ n ≤ a.high * unit)
  else decide (a.low * unit < n ∧ n < a.high * unit)

/-- How far a decimal lies from the value, in units that depend on its exponent alone. -/
def Around.distance (a : Around) (d : Digits) : Nat :=
  let n := d.digits * tenTo d.exponent.toNat * a.denominator
  let v := a.value * tenTo (-d.exponent).toNat
  (n - v) + (v - n)

/-- The decimal just below or at the value on the grid `10 ^ exponent`. -/
def Around.floor (a : Around) (exponent : Int) : Nat :=
  a.value * tenTo (-exponent).toNat / (a.denominator * tenTo exponent.toNat)

/-- The decimal of the grid `10 ^ exponent` that reads back as the value, if there is one: the
nearer of two, the even one of two equally near. -/
def Around.onGrid (a : Around) (exponent : Int) : Option Digits :=
  let below : Digits := ⟨a.floor exponent, exponent⟩
  let above : Digits := ⟨a.floor exponent + 1, exponent⟩
  match a.holds below && below.digits != 0, a.holds above with
  | false, false => none
  | true, false => some below
  | false, true => some above
  | true, true =>
    let d := a.distance below
    let u := a.distance above
    if d < u then some below
    else if u < d then some above
    else if below.digits % 2 = 0 then some below else some above

/-- The number of digits of a whole number. -/
def digitCount (n : Nat) : Nat := (Nat.toDigits 10 n).length

/-- A power of ten at the value's first digit, or the next one above it. -/
def Around.magnitude (a : Around) : Int :=
  let whole := a.value / a.denominator
  if whole = 0 then 1 - (digitCount (a.denominator / a.value) : Int)
  else (digitCount whole : Int) - 1

/-- Grids finer and finer, `tries` of them, until one has a decimal that reads back. -/
def Around.search (a : Around) : Nat → Int → Digits
  | 0, exponent => ⟨a.floor exponent, exponent⟩
  | tries + 1, exponent =>
    match a.onGrid exponent with
    | some d => d
    | none => a.search tries (exponent - 1)

/-- The same decimal without the zeros at its end. -/
def Digits.strip : Nat → Digits → Digits
  | 0, d => d
  | fuel + 1, d =>
    if d.digits ≠ 0 ∧ d.digits % 10 = 0 then strip fuel ⟨d.digits / 10, d.exponent + 1⟩ else d

/-- The fewest digits that read back as a finite value that is not zero. -/
def Binary64.shortest (x : Binary64) : Digits :=
  let a := x.around
  (a.search 19 a.magnitude).strip 20

/-- Where the point goes: numbers whose first digit stands at a power of ten from `least` up
to, not including, `most` are written out, others with an exponent. -/
structure Layout where
  least : Int
  most : Int
deriving DecidableEq, Repr

/-- The text of digits whose first one stands at a power of ten. -/
def Layout.render (l : Layout) (digits : List Char) (first : Int) : List Char :=
  if l.least ≤ first ∧ first < l.most then
    if first < 0 then
      '0' :: '.' :: (List.replicate ((-first).toNat - 1) '0' ++ digits)
    else
      let whole := first.toNat + 1
      if digits.length ≤ whole then
        digits ++ List.replicate (whole - digits.length) '0' ++ ['.', '0']
      else digits.take whole ++ '.' :: digits.drop whole
  else
    let mantissa := match digits with
      | [d] => [d]
      | d :: rest => d :: '.' :: rest
      | [] => []
    let sign := if first < 0 then '-' else '+'
    mantissa ++ 'e' :: sign :: Nat.toDigits 10 first.natAbs

/-- The shortest text of a finite value: always with a point or an exponent. -/
def Binary64.text (x : Binary64) (l : Layout) : List Char :=
  let body :=
    if x.parts.1 = 0 then ['0', '.', '0']
    else
      let d := x.shortest
      let digits := Nat.toDigits 10 d.digits
      l.render digits (d.exponent + digits.length - 1)
  if x.isNegative then '-' :: body else body

end PacketTelemetry.Decimal
