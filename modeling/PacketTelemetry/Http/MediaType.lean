/-
The media type of a body, as far as one has to know whether it is JSON.

A media type has a type, a subtype that may end in a suffix after its last plus sign, and
parameters, whose values may be quoted. JSON is what has the type `application` and `json` for
its subtype or its suffix, in any case. A text that is no media type at all is not JSON.
-/
import PacketTelemetry.Http.Token

namespace PacketTelemetry.Http

/-- What may stand in the value of a header. -/
def isHeaderChar (c : Char) : Bool := c = '\t' || (0x20 ≤ c.toNat && c.toNat ≠ 0x7F)

/-- A text up to the first character that is not a token character, and the rest. -/
def takeToken (cs : List Char) : List Char × List Char :=
  (cs.takeWhile isTokenChar, cs.dropWhile isTokenChar)

/-- What may stand between quotes. -/
def isQuotable (c : Char) : Bool := 0x20 ≤ c.toNat && c.toNat ≠ 0x7F

/-- What follows a quoted value, which holds one character at least. -/
def afterQuoted : List Char → Option (List Char)
  | [] => none
  | first :: rest =>
    if isQuotable first then
      match rest.dropWhile fun c => isQuotable c && c ≠ '"' with
      | '"' :: rest => some rest
      | _ => none
    else none

/-- Whether a text is a list of parameters, each but the last followed by a semicolon. -/
def areParameters : Nat → List Char → Bool
  | 0, _ => false
  | fuel + 1, cs =>
    match cs.dropWhile (· = ' ') with
    | [] => true
    | cs =>
      match takeToken cs with
      | (_ :: _, '=' :: '"' :: rest) =>
        match afterQuoted rest with
        | none => false
        | some rest =>
          match rest.dropWhile (· = ' ') with
          | [] => true
          | ';' :: rest => areParameters fuel rest
          | _ => false
      | (_ :: _, '=' :: rest) =>
        match takeToken rest with
        | (_, []) => true
        | (_ :: _, ';' :: rest) => areParameters fuel rest
        | _ => false
      | _ => false

/-- The type and the subtype of a media type, in lower case. -/
def mediaType? (text : String) : Option (List Char × List Char) :=
  match takeToken text.toList with
  | (main@(_ :: _), '/' :: rest) =>
    let lower := fun cs : List Char => cs.map Char.toLower
    match takeToken rest with
    | (sub, []) => some (lower main, lower sub)
    | (sub@(_ :: _), ';' :: rest) =>
      if areParameters (rest.length + 1) rest then some (lower main, lower sub) else none
    | _ => none
  | _ => none

/-- A subtype without its suffix, and the suffix. A plus sign in front begins none. -/
def splitSuffix (sub : List Char) : List Char × List Char :=
  let suffix := (sub.reverse.takeWhile (· ≠ '+')).reverse
  let before := sub.take (sub.length - suffix.length - 1)
  if before.isEmpty then (sub, []) else (before, suffix)

/-- Whether a header says that the body is JSON. Only a header in ASCII can say so. -/
def isJson (header : String) : Bool :=
  match mediaType? header with
  | none => false
  | some (main, sub) =>
    let (before, suffix) := splitSuffix sub
    header.toList.all (·.toNat < 0x7F) && main = "application".toList &&
      (before = "json".toList || suffix = "json".toList)

end PacketTelemetry.Http
