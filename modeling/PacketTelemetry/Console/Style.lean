/-
Coloured text for a terminal.

A style is a weight, a ground and a colour, each a number the terminal knows. A styled text
stands between its numbers and a reset; where the text holds a reset of its own, the style is
taken up again behind it. Without colours the text stands alone.
-/
namespace PacketTelemetry.Console

/-- The numbers of a style. -/
structure Style where
  weight : Option Nat
  ground : Option Nat
  colour : Option Nat
deriving DecidableEq, Repr

namespace Style

/-- Colours of the terminal. -/
inductive Colour where
  | black
  | red
  | green
  | yellow
  | cyan
  | white
deriving DecidableEq, Repr

/-- The place of a colour among the terminal's eight. -/
def Colour.index : Colour → Nat
  | .black => 0
  | .red => 1
  | .green => 2
  | .yellow => 3
  | .cyan => 6
  | .white => 7

/-- A colour. -/
def plain (c : Colour) : Style := ⟨none, none, some (30 + c.index)⟩

/-- A colour, in bold. -/
def bold (c : Colour) : Style := ⟨some 1, none, some (30 + c.index)⟩

/-- A colour in bold on a ground. -/
def badge (ground c : Colour) : Style := ⟨some 1, some (40 + ground.index), some (30 + c.index)⟩

/-- Dimmed. -/
def dim : Style := ⟨some 2, none, none⟩

/-- The numbers of a style, the weight first. -/
def numbers (s : Style) : List Nat := s.weight.toList ++ s.ground.toList ++ s.colour.toList

/-- The sequence that begins a style. -/
def start (s : Style) : List Char :=
  '\x1B' :: '[' :: (String.intercalate ";" (s.numbers.map toString)).toList ++ ['m']

end Style

/-- The sequence that ends every style. -/
def reset : List Char := ['\x1B', '[', '0', 'm']

/-- A text in which each reset is followed by the beginning of a style. -/
def restyle (start : List Char) : List Char → List Char
  | '\x1B' :: '[' :: '0' :: 'm' :: rest => reset ++ start ++ restyle start rest
  | c :: rest => c :: restyle start rest
  | [] => []

/-- A text in a style, if there are colours. -/
def paint (colours : Bool) (s : Style) (text : String) : String :=
  if colours then
    String.ofList (s.start ++ restyle s.start text.toList ++ reset)
  else text

end PacketTelemetry.Console
