/-
White space, and the texts that hold nothing else.

`isSpace` is the set of characters with the Unicode property `White_Space`. `trim` takes
them off both ends, and a text is blank when nothing is left.
-/
namespace PacketTelemetry.Text

/-- The characters with the Unicode property `White_Space`. -/
def isSpace (c : Char) : Bool :=
  let n := c.toNat
  (9 ≤ n && n ≤ 13) || n == 0x20 || n == 0x85 || n == 0xA0 || n == 0x1680 ||
    (0x2000 ≤ n && n ≤ 0x200A) || n == 0x2028 || n == 0x2029 || n == 0x202F || n == 0x205F ||
    n == 0x3000

/-- What is left of a text without the white space at its start. -/
def trimStart (cs : List Char) : List Char := cs.dropWhile isSpace

/-- What is left of a text without the white space at its end. -/
def trimEnd (cs : List Char) : List Char := (trimStart cs.reverse).reverse

/-- What is left of a text without the white space at both ends. -/
def trim (cs : List Char) : List Char := trimEnd (trimStart cs)

/-- A text of white space only, the empty one included. -/
def isBlank (s : String) : Bool := s.toList.all isSpace

end PacketTelemetry.Text
