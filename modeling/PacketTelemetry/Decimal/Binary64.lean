/-
Numbers with a fraction or an exponent, kept in 64 bits.

A value is its 64 bits: a sign, eleven bits of exponent and 52 of fraction. `parts` reads a
finite value as `significand * 2 ^ exponent`, and `ofDecimal` gives the bits of a decimal
number the way the reader of a number computes them.
-/
import PacketTelemetry.Decimal.Power

namespace PacketTelemetry.Decimal

/-- A double, by its bits. -/
structure Binary64 where
  bits : UInt64
deriving DecidableEq, Repr

namespace Binary64

/-- Below zero, zero with a minus sign included. -/
def isNegative (x : Binary64) : Bool := x.bits >>> 63 == 1

/-- Neither finite part: the exponent field of infinities and not-a-numbers. -/
def isFinite (x : Binary64) : Bool := (x.bits >>> 52) &&& 0x7FF != 0x7FF

/-- The magnitude of a finite value as `significand * 2 ^ exponent`. -/
def parts (x : Binary64) : Nat × Int :=
  let field := ((x.bits >>> 52) &&& 0x7FF).toNat
  let fraction := (x.bits &&& 0xFFFFFFFFFFFFF).toNat
  if field = 0 then (fraction, -1074) else (fraction + twoTo 52, (field : Int) - 1075)

/-- The value with its sign turned. -/
def negate (x : Binary64) : Binary64 := ⟨x.bits ^^^ 0x8000000000000000⟩

/-- The double nearest a power of ten, for the powers up to the 308th. -/
def powerOfTen (n : Nat) : Float := Float.ofScientific 1 false n

/-- `f` times a power of ten, in as few multiplications or divisions as the powers up to the
308th allow. Nothing when the result leaves the range of doubles. -/
def scale : Nat → Float → Int → Option Float
  | 0, f, _ => some f
  | fuel + 1, f, exponent =>
    if exponent.natAbs ≤ 308 then
      if exponent < 0 then some (f / powerOfTen exponent.natAbs)
      else
        let r := f * powerOfTen exponent.natAbs
        if r.isInf then none else some r
    else if f == 0 then some f
    else if 0 ≤ exponent then none
    else scale fuel (f / powerOfTen 308) (exponent + 308)

/-- The double computed for `significand * 10 ^ exponent`, the significand being below `2 ^ 64`.
Nothing when it would be infinite. -/
def ofDecimal (negative : Bool) (significand : Nat) (exponent : Int) : Option Binary64 :=
  (scale (exponent.natAbs / 308 + 2) significand.toUInt64.toFloat exponent).map fun f =>
    let x : Binary64 := ⟨f.toBits⟩
    if negative then x.negate else x

/-- Zero, with a minus sign when asked for. -/
def zero (negative : Bool) : Binary64 := ⟨if negative then 0x8000000000000000 else 0⟩

end Binary64

end PacketTelemetry.Decimal
