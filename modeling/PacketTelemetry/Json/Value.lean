/-
Free-form JSON values.

A number is an integer of 64 bits or a double. The members of an object that has been read
are kept in ascending order of their names, one to a name, as in a `Table`: the last of a name
counts. `sortMembers` brings members into that order.
-/
import PacketTelemetry.Decimal.Binary64
import PacketTelemetry.Table

namespace PacketTelemetry.Json

open PacketTelemetry.Decimal

/-- A number, with a fraction or an exponent or without. -/
inductive Number where
  | integer (n : Int)
  | fractional (x : Binary64)
deriving DecidableEq, Repr

/-- A JSON value. -/
inductive Value where
  | null
  | boolean (b : Bool)
  | number (n : Number)
  | text (s : String)
  | array (items : List Value)
  | object (members : List (String × Value))
deriving Repr, Inhabited

/-- Members of an object, in the order in which they are written. -/
abbrev Members := Table Value

/-- A whole number as a value. -/
def Value.ofInt (n : Int) : Value := .number (.integer n)

/-- A count as a value. -/
def Value.ofNat (n : Nat) : Value := .number (.integer n)

/-- A value that may be absent, written `null` then. -/
def Value.ofOption {α : Type} (f : α → Value) : Option α → Value
  | none => .null
  | some a => f a

/-- Members in ascending order of their names, the last of a name being kept. -/
def sortMembers (ms : Members) : Members := Table.ofList ms

end PacketTelemetry.Json
