/-
The lines of a text.

A line ends at a line feed, and a carriage return just before that line feed belongs to the
line end. What follows the last line feed is a line of its own, unless it is empty.
-/
import PacketTelemetry.Text.Blank

namespace PacketTelemetry.Text

/-- A line without the carriage return that its line feed was preceded by. -/
def dropReturn (line : List Char) : List Char :=
  match line.reverse with
  | '\r' :: rest => rest.reverse
  | _ => line

/-- Lines of a text, `line` being what has been read of the current one, last character first. -/
def linesFrom (line : List Char) : List Char → List (List Char)
  | [] => if line.isEmpty then [] else [line.reverse]
  | c :: rest =>
    if c = '\n' then dropReturn line.reverse :: linesFrom [] rest
    else linesFrom (c :: line) rest

/-- The lines of a text, without their ends. -/
def lines (text : String) : List (List Char) := linesFrom [] text.toList

/-- The lines of a text that hold more than white space, each without the white space around it. -/
def filledLines (text : String) : List (List Char) :=
  ((lines text).map trim).filter fun line => !line.isEmpty

end PacketTelemetry.Text
