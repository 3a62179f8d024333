/-
Values of a configuration text, and the tables they stand in.

A table remembers how it came about, because that decides what may still be added to it: one
that has a header of its own, one that was only passed through on the way to another header,
one that a dotted key brought about, and one written in braces, which is closed. Floats and
dates are told apart from all else, but what they say is not kept: no setting is one.
-/
namespace PacketTelemetry.Toml

/-- How a table came about. -/
inductive Origin where
  | header
  | implied
  | dotted
  | closed
deriving DecidableEq, Repr

/-- A value. -/
inductive Value where
  | text (s : String)
  | integer (n : Int)
  | float
  | boolean (b : Bool)
  | date
  | array (items : List Value)
  | table (origin : Origin) (entries : List (String × Value))
  /-- Tables under one header that is written in double brackets. -/
  | tables (elements : List (List (String × Value)))
deriving Repr, Inhabited

/-- Entries of a table, in the order in which they were added. -/
abbrev Entries := List (String × Value)

namespace Entries

/-- The value of a key. -/
def get? (key : String) : Entries → Option Value
  | [] => none
  | (k, v) :: rest => if k = key then some v else get? key rest

/-- The entries with another value for a key that is there. -/
def replace (key : String) (v : Value) (es : Entries) : Entries :=
  es.map fun e => if e.1 = key then (key, v) else e

/-- Changes the table that a path leads to. Tables that are not there yet come about on the way,
and of several under one header the last is meant. Dotted keys do not lead through a table that
has a header, and nothing leads through a value or a closed table. -/
def within (dotted : Bool) (change : Origin → Entries → Option Entries) :
    List String → Origin → Entries → Option Entries
  | [], origin, es => change origin es
  | key :: path, _, es =>
    match get? key es with
    | none => do
      let origin : Origin := if dotted then .dotted else .implied
      let sub ← within dotted change path origin []
      some (es ++ [(key, .table origin sub)])
    | some (.tables elements) =>
      match elements.reverse with
      | [] => none
      | last :: before => do
        let last ← within dotted change path .header last
        some (replace key (.tables (last :: before).reverse) es)
    | some (.table origin sub) =>
      if origin = .closed || (dotted && origin = .header) then none
      else do
        let sub ← within dotted change path origin sub
        some (replace key (.table origin sub) es)
    | some _ => none

/-- A new key is added at the end of a path of dotted keys. It may not be there yet, and dotted
keys add to tables of their own kind only. -/
def addPair (path : List String) (key : String) (v : Value) (es : Entries) : Option Entries :=
  within true
    (fun origin es =>
      if (origin == .dotted) == path.isEmpty then none
      else if (get? key es).isSome then none
      else some (es ++ [(key, v)]))
    path .header es

/-- A header opens the table of a key: a new one, or one that was only passed through. -/
def openTable (key : String) (es : Entries) : Option Entries :=
  match get? key es with
  | none => some (es ++ [(key, .table .header [])])
  | some (.table .implied sub) => some (replace key (.table .header sub) es)
  | some _ => none

/-- A header in double brackets opens one more table of a key. -/
def openElement (key : String) (es : Entries) : Option Entries :=
  match get? key es with
  | none => some (es ++ [(key, .tables [[]])])
  | some (.tables elements) => some (replace key (.tables (elements ++ [[]])) es)
  | some _ => none

end Entries

end PacketTelemetry.Toml
