/-
Whole configuration texts.

A text is read as statements, one to a line: a key with its value, or a header. The statements
then build one table, each key going into the table whose header came last.
-/
import PacketTelemetry.Toml.Number
import PacketTelemetry.Toml.Text

namespace PacketTelemetry.Toml

/-! ## Values -/

mutual

/-- A value that may hold some levels of brackets and braces. -/
def readValue : Nat → Nat → List Char → Option (Value × List Char)
  | 0, _, _ => none
  | _, _, [] => none
  | fuel + 1, levels, c :: rest =>
    if c = '"' then (readString .double rest).map fun (s, rest) => (.text s, rest)
    else if c = '\'' then (readString .single rest).map fun (s, rest) => (.text s, rest)
    else if c = '[' then
      match levels with
      | 0 => none
      | levels + 1 =>
        (readItems fuel levels rest).map fun (vs, rest) => (.array vs, rest)
    else if c = '\x7b' then
      match levels with
      | 0 => none
      | levels + 1 =>
        match dropBlanks rest with
        | '\x7d' :: rest => some (.table .closed [], rest)
        | rest => (readPairs fuel levels [] rest).map fun (es, rest) => (.table .closed es, rest)
    else if c = 't' then
      match rest with
      | 'r' :: 'u' :: 'e' :: rest => some (.boolean true, rest)
      | _ => none
    else if c = 'f' then
      match rest with
      | 'a' :: 'l' :: 's' :: 'e' :: rest => some (.boolean false, rest)
      | _ => none
    else readNumber (c :: rest)

/-- The items of an array up to its end, a comma behind the last one allowed. -/
def readItems : Nat → Nat → List Char → Option (List Value × List Char)
  | 0, _, _ => none
  | fuel + 1, levels, cs =>
    match dropFiller false cs with
    | ']' :: rest => some ([], rest)
    | cs => do
      let (v, rest) ← readValue fuel levels cs
      match dropFiller false rest with
      | ',' :: rest =>
        let (vs, rest) ← readItems fuel levels rest
        some (v :: vs, rest)
      | ']' :: rest => some ([v], rest)
      | _ => none

/-- The pairs of a table in braces up to its end, `done` being those before. -/
def readPairs : Nat → Nat → Entries → List Char → Option (Entries × List Char)
  | 0, _, _, _ => none
  | fuel + 1, levels, done, cs => do
    let (path, key, rest) ← readKey cs
    let rest ← readMark '=' rest
    let (v, rest) ← readValue fuel levels (dropBlanks rest)
    let done ← Entries.addPair path key v done
    match dropBlanks rest with
    | ',' :: rest => readPairs fuel levels done rest
    | '\x7d' :: rest => some (done, rest)
    | _ => none

end

/-! ## Statements -/

/-- One line of a text. -/
inductive Statement where
  | pair (path : List String) (key : String) (v : Value)
  /-- A header in brackets: the table of a key. -/
  | table (path : List String) (key : String)
  /-- A header in double brackets: one more table of a key. -/
  | element (path : List String) (key : String)
deriving Repr

/-- The statement at the start of a text, and what follows its line. -/
def readStatement (cs : List Char) : Option (Statement × List Char) :=
  match cs with
  | '[' :: '[' :: rest => do
    let (path, key, rest) ← readKey rest
    let rest ← readMark ']' (← readMark ']' rest)
    some (.element path key, ← dropLine rest)
  | '[' :: rest => do
    let (path, key, rest) ← readKey rest
    let rest ← readMark ']' rest
    some (.table path key, ← dropLine rest)
  | cs => do
    let (path, key, rest) ← readKey cs
    let rest ← readMark '=' rest
    let (v, rest) ← readValue (2 * rest.length + 2) maxDepth (dropBlanks rest)
    some (.pair path key v, ← dropLine rest)

/-- The statements of a text. -/
def readStatements : Nat → List Char → Option (List Statement)
  | 0, _ => none
  | fuel + 1, cs =>
    match dropBlanks cs with
    | [] => some []
    | c :: rest =>
      if c = '#' ∨ c = '\n' ∨ c = '\r' then do readStatements fuel (← dropLine (c :: rest))
      else do
        let (s, rest) ← readStatement (c :: rest)
        let statements ← readStatements fuel rest
        some (s :: statements)

/-! ## Tables -/

/-- The table built so far, and the path to the table that keys go into. -/
structure Building where
  root : Entries
  current : List String

/-- The table after one more statement. -/
def Building.add (b : Building) : Statement → Option Building
  | .pair path key v => do
    let root ← b.root.within false (fun _ es => es.addPair path key v) b.current .header
    some { b with root }
  | .table path key => do
    let root ← b.root.within false (fun _ es => es.openTable key) path .header
    some ⟨root, path ++ [key]⟩
  | .element path key => do
    let root ← b.root.within false (fun _ es => es.openElement key) path .header
    some ⟨root, path ++ [key]⟩

/-- The table that statements build. -/
def build (statements : List Statement) : Option Entries :=
  (statements.foldlM Building.add ⟨[], []⟩).map (·.root)

/-- The table of a text. A mark of the byte order may stand in front of it. -/
def parse (text : String) : Option Value := do
  let cs := match text.toList with
    | '\uFEFF' :: rest => rest
    | cs => cs
  let entries ← build (← readStatements (cs.length + 1) cs)
  some (.table .header entries)

end PacketTelemetry.Toml
