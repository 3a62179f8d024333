/-
The target of a request, and the path in it.

A target is a path with a query, or a whole address with a scheme, or the name of a host alone,
which has no path, or an asterisk. What the query and the fragment hold is of no interest here,
as long as their characters may stand there.
-/
import PacketTelemetry.Http.Token

namespace PacketTelemetry.Http

/-- What may stand in a path as it is. -/
def isPathChar (c : Char) : Bool :=
  let n := c.toNat
  n = 0x21 || n = 0x22 || (0x24 ≤ n && n ≤ 0x3B) || n = 0x3D || (0x40 ≤ n && n ≤ 0x5F) ||
    (0x61 ≤ n && n ≤ 0x7E) || 0x80 ≤ n

/-- What may stand in a query as it is. -/
def isQueryChar (c : Char) : Bool :=
  let n := c.toNat
  n = 0x21 || (0x24 ≤ n && n ≤ 0x3B) || n = 0x3D || (0x3F ≤ n && n ≠ 0x7F)

/-- The path of a text that begins with one, where its query may follow and a fragment. -/
def pathOf (cs : List Char) : Option (List Char) :=
  let path := cs.takeWhile fun c => c ≠ '?' && c ≠ '#' && isPathChar c
  match cs.drop path.length with
  | [] => some path
  | '#' :: _ => some path
  | '?' :: rest =>
    match rest.dropWhile fun c => c ≠ '#' && isQueryChar c with
    | [] => some path
    | '#' :: _ => some path
    | _ => none
  | _ => none

/-- What may stand in a scheme. -/
def isSchemeChar (c : Char) : Bool :=
  c.isAlphanum || c = '+' || c = '-' || c = '.' || c = '~'

/-- The most characters of a scheme. -/
def maxScheme : Nat := 64

/-- Whether a text begins with a scheme, and what follows it: nothing where the scheme is too
long. -/
def afterScheme (cs : List Char) : Option (Bool × List Char) :=
  let scheme := cs.takeWhile isSchemeChar
  match cs.drop scheme.length with
  | ':' :: '/' :: '/' :: rest =>
    if maxScheme < scheme.length then none else some (true, rest)
  | _ => some (false, cs)

/-- What may stand in the name of a host, or in what tells the user. -/
def isAuthorityChar (c : Char) : Bool :=
  c.isAlphanum ||
    ['!', '$', '&', '\'', '(', ')', '*', '+', ',', '-', '.', ':', ';', '=', '@', '[', ']', '_',
      '~', '%'].contains c

/-- What has been seen of the name of a host. -/
structure Authority where
  colons : Nat
  opened : Bool
  closed : Bool
  percent : Bool
  /-- The last character was an at sign. -/
  atSign : Bool
deriving DecidableEq, Repr

/-- One character of the name of a host. Colons and percent signs count anew after what tells
the user, and after an address in brackets. -/
def Authority.step (a : Authority) (c : Char) : Option Authority :=
  let a' := { a with atSign := false }
  if c = ':' then if 8 ≤ a.colons then none else some { a' with colons := a.colons + 1 }
  else if c = '[' then if a.percent || a.opened then none else some { a' with opened := true }
  else if c = ']' then
    if !a.opened || a.closed then none
    else some { a' with closed := true, colons := 0, percent := false }
  else if c = '@' then some { a' with colons := 0, percent := false, atSign := true }
  else if c = '%' then some { a' with percent := true }
  else if isAuthorityChar c then some a'
  else none

/-- Whether the name of a host may end here. -/
def Authority.isWhole (a : Authority) : Bool :=
  a.opened = a.closed && a.colons ≤ 1 && !a.atSign && !a.percent

/-- The name of a host at the start of a text, and what follows it. -/
def splitAuthority (cs : List Char) : Option (List Char × List Char) :=
  let name := cs.takeWhile fun c => c ≠ '/' && c ≠ '?' && c ≠ '#'
  match name.foldlM Authority.step ⟨0, false, false, false, false⟩ with
  | some a => if a.isWhole then some (name, cs.drop name.length) else none
  | none => none

/-- The most octets of a target. -/
def maxTarget : Nat := 65534

/-- The path of a target, or nothing if the text is no target. -/
def targetPath (target : String) : Option (List Char) :=
  if maxTarget < target.utf8ByteSize then none
  else match target.toList with
    | [] => none
    | ['*'] => some ['*']
    | '/' :: rest => pathOf ('/' :: rest)
    | cs => do
      let (absolute, cs) ← afterScheme cs
      let (host, rest) ← splitAuthority cs
      if absolute then
        if host.isEmpty then none
        else
          let path ← pathOf rest
          some (if path.isEmpty then ['/'] else path)
      else if rest.isEmpty then some [] else none

/-! ## Parts of a path -/

/-- The parts of a path, between its slashes. -/
def segments (path : List Char) : List (List Char) := path.splitOn '/'

/-- The digit of base sixteen a character stands for. -/
def hexValue? (c : Char) : Option Nat :=
  if c.isDigit then some (c.toNat - '0'.toNat)
  else if 'a' ≤ c ∧ c ≤ 'f' then some (c.toNat - 'a'.toNat + 10)
  else if 'A' ≤ c ∧ c ≤ 'F' then some (c.toNat - 'A'.toNat + 10)
  else none

/-- The octets of a part of a path, those escaped by a percent sign and two digits among them. -/
def unescapeOctets : List Char → List UInt8
  | [] => []
  | '%' :: a :: b :: rest =>
    match hexValue? a, hexValue? b with
    | some x, some y => (x * 16 + y).toUInt8 :: unescapeOctets rest
    | _, _ => '%'.toNat.toUInt8 :: unescapeOctets (a :: b :: rest)
  | c :: rest => (String.ofList [c]).toUTF8.toList ++ unescapeOctets rest

end PacketTelemetry.Http
