/-
Tokens, the words of which headers and request lines are made.
-/
namespace PacketTelemetry.Http

/-- The characters of a token: letters and digits of ASCII, and some marks. -/
def isTokenChar (c : Char) : Bool :=
  c.isAlphanum ||
    ['!', '#', '$', '%', '&', '\'', '*', '+', '-', '.', '^', '_', '\x60', '|', '~'].contains c

/-- A token: one such character or more. -/
def isToken (s : String) : Bool := !s.isEmpty && s.toList.all isTokenChar

end PacketTelemetry.Http
