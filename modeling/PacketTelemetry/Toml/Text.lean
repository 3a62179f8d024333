/-
White space, comments, keys and strings of a configuration text.

Readers take the characters that are left and give what they read with what they leave, or
nothing if the text is not well-formed.
-/
namespace PacketTelemetry.Toml

/-- Blanks within a line. -/
def isBlank (c : Char) : Bool := c = ' ' || c = '\t'

/-- What may stand in comments and strings as it is: no control character but the tab. -/
def isPlain (c : Char) : Bool := c = '\t' || (0x20 ≤ c.toNat && c.toNat ≠ 0x7F)

/-- A text without the blanks at its start. -/
def dropBlanks (cs : List Char) : List Char := cs.dropWhile isBlank

/-- What follows the end of a line, or the end of the text. -/
def dropLineEnd : List Char → Option (List Char)
  | [] => some []
  | '\n' :: rest => some rest
  | '\r' :: '\n' :: rest => some rest
  | _ => none

/-- What follows the line, nothing being left in it but blanks and a comment. -/
def dropLine (cs : List Char) : Option (List Char) :=
  match dropBlanks cs with
  | '#' :: rest => dropLineEnd (rest.dropWhile isPlain)
  | cs => dropLineEnd cs

/-- A text without the blanks, line ends and comments at its start. -/
def dropFiller (inComment : Bool) : List Char → List Char
  | '\n' :: rest => dropFiller false rest
  | '\r' :: '\n' :: rest => dropFiller false rest
  | c :: rest =>
    if inComment then (if isPlain c then dropFiller true rest else c :: rest)
    else if isBlank c then dropFiller false rest
    else if c = '#' then dropFiller true rest
    else c :: rest
  | [] => []

/-! ## Strings -/

/-- The number some digits of base sixteen stand for, or nothing if one of them is none. -/
def ofHexDigits (cs : List Char) : Option Nat :=
  cs.foldlM
    (fun n c =>
      if c.isDigit then some (n * 16 + (c.toNat - '0'.toNat))
      else if 'a' ≤ c ∧ c ≤ 'f' then some (n * 16 + (c.toNat - 'a'.toNat + 10))
      else if 'A' ≤ c ∧ c ≤ 'F' then some (n * 16 + (c.toNat - 'A'.toNat + 10))
      else none)
    0

/-- The character whose number is written in some digits of base sixteen. -/
def readNumbered (digits : Nat) (cs : List Char) : Option (Char × List Char) := do
  let n ← ofHexDigits (cs.take digits)
  if (cs.take digits).length = digits ∧ n.isValidChar then
    some (Char.ofNat n, cs.drop digits)
  else none

/-- What an escape stands for, read behind its backslash. -/
def readEscape : List Char → Option (Char × List Char)
  | 'b' :: rest => some (Char.ofNat 8, rest)
  | 't' :: rest => some ('\t', rest)
  | 'n' :: rest => some ('\n', rest)
  | 'f' :: rest => some (Char.ofNat 12, rest)
  | 'r' :: rest => some ('\r', rest)
  | '"' :: rest => some ('"', rest)
  | '\\' :: rest => some ('\\', rest)
  | 'u' :: rest => readNumbered 4 rest
  | 'U' :: rest => readNumbered 8 rest
  | _ => none

/-- The kinds of strings: the one knows escapes, the other does not. -/
inductive Quotes where
  | double
  | single
deriving DecidableEq, Repr

/-- The mark around a string. -/
def Quotes.mark : Quotes → Char
  | .double => '"'
  | .single => '\''

/-- What is left of a string of one line, `done` being what has been read, last first. -/
def readLineString (q : Quotes) : Nat → List Char → List Char → Option (String × List Char)
  | 0, _, _ => none
  | _, _, [] => none
  | fuel + 1, done, c :: rest =>
    if c = q.mark then some (String.ofList done.reverse, rest)
    else if q = .double ∧ c = '\\' then do
      let (c, rest) ← readEscape rest
      readLineString q fuel (c :: done) rest
    else if isPlain c then readLineString q fuel (c :: done) rest
    else none

/-- What is left of a string of several lines. Up to two marks may stand together in it, also
before the three that end it, and a backslash at the end of a line takes away what is blank up
to the next character. -/
def readTextString (q : Quotes) : Nat → List Char → List Char → Option (String × List Char)
  | 0, _, _ => none
  | _, _, [] => none
  | fuel + 1, done, c :: rest =>
    if c = q.mark then
      let marks := 1 + (rest.takeWhile (· = q.mark)).length
      if marks ≤ 2 then
        readTextString q fuel (List.replicate marks c ++ done) (rest.drop (marks - 1))
      else
        let kept := min (marks - 3) 2
        some (String.ofList (List.replicate kept c ++ done).reverse, rest.drop (kept + 2))
    else if q = .double ∧ c = '\\' then
      match dropBlanks rest with
      | '\n' :: rest => readTextString q fuel done (dropBlankLines rest)
      | '\r' :: '\n' :: rest => readTextString q fuel done (dropBlankLines rest)
      | _ => do
        let (c, rest) ← readEscape rest
        readTextString q fuel (c :: done) rest
    else if c = '\n' then readTextString q fuel ('\n' :: done) rest
    else if isPlain c then readTextString q fuel (c :: done) rest
    else
      match c, rest with
      | '\r', '\n' :: rest => readTextString q fuel ('\n' :: done) rest
      | _, _ => none
where
  /-- A text without the blanks and line ends at its start. -/
  dropBlankLines : List Char → List Char
    | '\n' :: rest => dropBlankLines rest
    | '\r' :: '\n' :: rest => dropBlankLines rest
    | c :: rest => if isBlank c then dropBlankLines rest else c :: rest
    | [] => []

/-- A text without the line end at its start. -/
def dropFirstLineEnd : List Char → List Char
  | '\n' :: rest => rest
  | '\r' :: '\n' :: rest => rest
  | cs => cs

/-- A string of one line, read behind its mark. -/
def readKeyString (q : Quotes) (cs : List Char) : Option (String × List Char) :=
  readLineString q (cs.length + 1) [] cs

/-- A string of one line or of several, read behind its first mark. -/
def readString (q : Quotes) (cs : List Char) : Option (String × List Char) :=
  match cs with
  | a :: b :: rest =>
    if a = q.mark ∧ b = q.mark then
      readTextString q (cs.length + 1) [] (dropFirstLineEnd rest)
    else readKeyString q cs
  | cs => readKeyString q cs

/-! ## Keys -/

/-- What may stand in a key without quotes. -/
def isKeyChar (c : Char) : Bool := c.isAlphanum || c = '-' || c = '_'

/-- One part of a key. -/
def readKeyPart (cs : List Char) : Option (String × List Char) :=
  match cs with
  | '"' :: rest => readKeyString .double rest
  | '\'' :: rest => readKeyString .single rest
  | cs =>
    let key := cs.takeWhile isKeyChar
    if key.isEmpty then none else some (String.ofList key, cs.drop key.length)

/-- The parts of a key, blanks around each allowed, `most` at the most. -/
def readKeyParts : Nat → List Char → Option (List String × List Char)
  | 0, _ => none
  | most + 1, cs => do
    let (part, rest) ← readKeyPart (dropBlanks cs)
    match dropBlanks rest with
    | '.' :: rest =>
      let (parts, rest) ← readKeyParts most rest
      some (part :: parts, rest)
    | rest => some ([part], rest)

/-- The parts a key may have, and the levels of brackets and braces a value may have. -/
def maxDepth : Nat := 79

/-- A key: all parts but the last, and the last. -/
def readKey (cs : List Char) : Option (List String × String × List Char) := do
  let (parts, rest) ← readKeyParts maxDepth cs
  match parts.reverse with
  | [] => none
  | last :: before => some (before.reverse, last, rest)

end PacketTelemetry.Toml
