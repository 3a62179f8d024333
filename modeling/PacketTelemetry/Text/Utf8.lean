/-
Octets read as characters.

`decode` reads octets one at a time. Where they are no UTF-8 it leaves a mark, `none`, for
each longest piece that could have begun a character, and goes on with the octet that broke
it. `lossy` puts the replacement character for each mark, and `strict` refuses them.
-/
namespace PacketTelemetry.Text.Utf8

/-- A character begun: the octets still owed, the range of the next one, the number so far. -/
structure Begun where
  owed : Nat
  low : Nat
  high : Nat
  number : Nat
deriving DecidableEq, Repr

/-- What one octet completes, and the character it leaves begun. -/
abbrev Step := List (Option Char) × Option Begun

/-- An octet read between characters. -/
def start (b : Nat) : Step :=
  if b < 0x80 then ([some (Char.ofNat b)], none)
  else if 0xC2 ≤ b ∧ b ≤ 0xDF then ([], some ⟨1, 0x80, 0xBF, b - 0xC0⟩)
  else if 0xE0 ≤ b ∧ b ≤ 0xEF then
    ([], some ⟨2, if b = 0xE0 then 0xA0 else 0x80, if b = 0xED then 0x9F else 0xBF, b - 0xE0⟩)
  else if 0xF0 ≤ b ∧ b ≤ 0xF4 then
    ([], some ⟨3, if b = 0xF0 then 0x90 else 0x80, if b = 0xF4 then 0x8F else 0xBF, b - 0xF0⟩)
  else ([none], none)

/-- An octet read wherever the reader stands. -/
def step : Option Begun → Nat → Step
  | none, b => start b
  | some p, b =>
    if p.low ≤ b ∧ b ≤ p.high then
      let number := p.number * 64 + (b - 0x80)
      if p.owed ≤ 1 then ([some (Char.ofNat number)], none)
      else ([], some ⟨p.owed - 1, 0x80, 0xBF, number⟩)
    else
      let (out, next) := start b
      (none :: out, next)

/-- The characters of some octets, from wherever the reader stands. -/
def decodeFrom : Option Begun → List UInt8 → List (Option Char)
  | none, [] => []
  | some _, [] => [none]
  | at_, b :: rest =>
    let (out, next) := step at_ b.toNat
    out ++ decodeFrom next rest

/-- The characters of some octets, a mark standing for each broken piece. -/
def decode (octets : List UInt8) : List (Option Char) := decodeFrom none octets

/-- The text of some octets, the replacement character standing for each broken piece. -/
def lossy (octets : List UInt8) : String :=
  String.ofList ((decode octets).map fun c => c.getD '\uFFFD')

/-- The text of some octets, if all of them are UTF-8. -/
def strict (octets : List UInt8) : Option String :=
  ((decode octets).mapM id).map String.ofList

end PacketTelemetry.Text.Utf8
