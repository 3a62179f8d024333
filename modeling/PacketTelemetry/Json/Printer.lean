/-
Values written as JSON text.

There are no spaces, and members stand in the order the value gives them. In a text the quote,
the backslash and the characters below the space are escaped, and everything else is written
as it is. `onto` writes a value in front of a text, so a long value is written once through.
-/
import PacketTelemetry.Decimal.Shortest
import PacketTelemetry.Json.Value

namespace PacketTelemetry.Json

open PacketTelemetry.Decimal

/-- Doubles are written out from a hundred-thousandth up to ten to the sixteenth, and with an
exponent outside that range. -/
def numberLayout : Layout := ⟨-5, 16⟩

/-- The digit of a number below sixteen. -/
def hexDigit (n : Nat) : Char := Nat.digitChar (n % 16)

/-- One character of a text, escaped where it has to be. -/
def escape (c : Char) : List Char :=
  if c = '"' then ['\\', '"']
  else if c = '\\' then ['\\', '\\']
  else if c = '\n' then ['\\', 'n']
  else if c = '\r' then ['\\', 'r']
  else if c = '\t' then ['\\', 't']
  else if c.toNat = 8 then ['\\', 'b']
  else if c.toNat = 12 then ['\\', 'f']
  else if c.toNat < 0x20 then ['\\', 'u', '0', '0', hexDigit (c.toNat / 16), hexDigit c.toNat]
  else [c]

/-- The characters of a text and its closing quote, in front of `rest`. -/
def bodyOnto : List Char → List Char → List Char
  | [], rest => '"' :: rest
  | c :: cs, rest => escape c ++ bodyOnto cs rest

/-- A text in quotes, in front of `rest`. -/
def textOnto (s : String) (rest : List Char) : List Char := '"' :: bodyOnto s.toList rest

/-- The digits of a whole number, with its sign. -/
def intChars (n : Int) : List Char :=
  if n < 0 then '-' :: Nat.toDigits 10 n.natAbs else Nat.toDigits 10 n.natAbs

/-- A number, as it is written. -/
def Number.chars : Number → List Char
  | .integer n => intChars n
  | .fractional x => if x.isFinite then x.text numberLayout else ['n', 'u', 'l', 'l']

mutual

/-- A value in front of `rest`. -/
def Value.onto : Value → List Char → List Char
  | .null, rest => 'n' :: 'u' :: 'l' :: 'l' :: rest
  | .boolean true, rest => 't' :: 'r' :: 'u' :: 'e' :: rest
  | .boolean false, rest => 'f' :: 'a' :: 'l' :: 's' :: 'e' :: rest
  | .number n, rest => n.chars ++ rest
  | .text s, rest => textOnto s rest
  | .array [], rest => '[' :: ']' :: rest
  | .array (v :: vs), rest => '[' :: v.onto (itemsOnto vs rest)
  | .object [], rest => '\x7b' :: '\x7d' :: rest
  | .object ((name, v) :: ms), rest =>
    '\x7b' :: textOnto name (':' :: v.onto (membersOnto ms rest))

/-- The items after the first one, and the bracket that ends them. -/
def itemsOnto : List Value → List Char → List Char
  | [], rest => ']' :: rest
  | v :: vs, rest => ',' :: v.onto (itemsOnto vs rest)

/-- The members after the first one, and the brace that ends them. -/
def membersOnto : List (String × Value) → List Char → List Char
  | [], rest => '\x7d' :: rest
  | (name, v) :: ms, rest => ',' :: textOnto name (':' :: v.onto (membersOnto ms rest))

end

/-- The characters of a value. -/
def Value.chars (v : Value) : List Char := v.onto []

/-- The JSON text of a value. -/
def Value.render (v : Value) : String := String.ofList v.chars

end PacketTelemetry.Json
