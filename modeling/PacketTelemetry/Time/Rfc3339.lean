/-
Instants written as date and time, and read again.

The text is by the clocks of a place, with as few digits after the second as lose nothing:
none, three, six or nine. Behind it stands how far the clocks are ahead of UTC, to the nearest
minute only. The reader is lenient about white space and about the width of numbers, and takes
any offset from UTC below a day.
-/
import PacketTelemetry.Decimal.Power
import PacketTelemetry.Text.Blank
import PacketTelemetry.Time.Instant

namespace PacketTelemetry.Time

/-! ## Writing -/

/-- A number in `width` digits at least. -/
def padded (width : Nat) (n : Nat) : List Char :=
  let ds := Nat.toDigits 10 n
  List.replicate (width - ds.length) '0' ++ ds

/-- A year: four digits, and a sign outside the years of four digits. -/
def yearChars (year : Int) : List Char :=
  if 0 ≤ year ∧ year ≤ 9999 then padded 4 year.toNat
  else (if year < 0 then '-' else '+') :: padded 4 year.natAbs

/-- A date, its parts separated by hyphens. -/
def Date.chars (d : Date) : List Char :=
  yearChars d.year ++ '-' :: (padded 2 d.month ++ '-' :: padded 2 d.day)

/-- The time of day to the second. -/
def Instant.clockChars (t : Instant) : List Char :=
  padded 2 t.hour ++ ':' :: (padded 2 t.minute ++ ':' :: padded 2 t.second)

/-- The digits after the second and the point before them. -/
def fractionChars (nanos : Nat) : List Char :=
  if nanos = 0 then []
  else if nanos % 1000000 = 0 then '.' :: padded 3 (nanos / 1000000)
  else if nanos % 1000 = 0 then '.' :: padded 6 (nanos / 1000)
  else '.' :: padded 9 nanos

/-- The whole minutes nearest to some seconds, half a minute rounded up. -/
def nearestMinutes (seconds : Nat) : Nat := (seconds + 30) / 60

/-- How far clocks are ahead of UTC, as it stands behind a time of day: hours and minutes, and the
name of UTC for no offset at all. -/
def offsetChars (seconds : Int) : List Char :=
  if seconds = 0 then ['Z']
  else
    let minutes := nearestMinutes seconds.natAbs
    (if seconds < 0 then '-' else '+') ::
      (padded 2 (minutes / 60) ++ ':' :: padded 2 (minutes % 60))

/-- The text of an instant by the clocks of a place. -/
def Instant.toRfc3339 (t : Instant) (z : Zone) : String :=
  let r := z.reading t
  String.ofList (r.date.chars ++ 'T' :: (r.clockChars ++ fractionChars r.fraction ++
    offsetChars (z.offset t)))

/-- The text of an instant to the second, date and time apart, by the clocks of a place. -/
def Instant.toClock (t : Instant) (z : Zone) : String :=
  String.ofList ((z.reading t).date.chars ++ ' ' :: (z.reading t).clockChars)

/-! ## Reading -/

open Text (trimStart)

/-- The digits at the start of a text, `most` at the most, as a number, and their count. -/
def takeNumber : Nat → List Char → Nat → Nat → Nat × Nat × List Char
  | 0, cs, n, count => (n, count, cs)
  | _, [], n, count => (n, count, [])
  | most + 1, c :: cs, n, count =>
    if c.isDigit then takeNumber most cs (n * 10 + (c.toNat - '0'.toNat)) (count + 1)
    else (n, count, c :: cs)

/-- A number of one to `most` digits, white space before it passed over. -/
def readNumber (most : Nat) (cs : List Char) : Option (Nat × List Char) :=
  match takeNumber most (trimStart cs) 0 0 with
  | (_, 0, _) => none
  | (n, _, rest) => some (n, rest)

/-- A number without white space before it, of as many digits as there are. -/
def readAllDigits (cs : List Char) : Option (Nat × List Char) :=
  match takeNumber cs.length cs 0 0 with
  | (_, 0, _) => none
  | (n, _, rest) => some (n, rest)

/-- A year: four digits at the most, or a sign and any number of digits. -/
def readYear (cs : List Char) : Option (Int × List Char) :=
  match trimStart cs with
  | '-' :: rest => (readAllDigits rest).map fun (n, rest) => (-(n : Int), rest)
  | '+' :: rest => (readAllDigits rest).map fun (n, rest) => ((n : Int), rest)
  | cs => (readNumber 4 cs).map fun (n, rest) => ((n : Int), rest)

/-- A mark, white space before it passed over. -/
def readMark (mark : Char) (cs : List Char) : Option (List Char) :=
  match trimStart cs with
  | c :: rest => if c = mark then some rest else none
  | [] => none

/-- The digits after the second, where there is a point: the first nine count. -/
def readFraction (cs : List Char) : Option (Nat × List Char) :=
  match cs with
  | '.' :: rest =>
    match takeNumber 9 rest 0 0 with
    | (_, 0, _) => none
    | (n, count, rest) => some (n * Decimal.tenTo (9 - count), rest.dropWhile Char.isDigit)
  | cs => some (0, cs)

/-- The hours and minutes of an offset, white space and colons allowed between them, in
seconds. -/
def readOffsetDigits (cs : List Char) : Option (Nat × List Char) :=
  match takeNumber 2 cs 0 0 with
  | (hours, 2, rest) =>
    match takeNumber 2 (rest.dropWhile fun c => c = ':' || Text.isSpace c) 0 0 with
    | (minutes, 2, rest) => if minutes ≤ 59 then some (hours * 3600 + minutes * 60, rest) else none
    | _ => none
  | _ => none

/-- What an offset from UTC begins with: a name of UTC, or a sign. -/
def readOffset (cs : List Char) : Option (Int × List Char) :=
  match cs with
  | c₁ :: rest =>
    if (cs.take 3).map Char.toUpper = ['U', 'T', 'C'] then some (0, cs.drop 3)
    else if c₁ = 'Z' ∨ c₁ = 'z' then some (0, rest)
    else if c₁ = '+' then (readOffsetDigits rest).map fun (n, rest) => ((n : Int), rest)
    else if c₁ = '-' ∨ c₁ = '\u2212' then
      (readOffsetDigits rest).map fun (n, rest) => (-(n : Int), rest)
    else none
  | [] => none

/-- The instant at which a date and a time of day fall, `offset` seconds ahead of UTC. The
second after the last of a minute is a leap second. -/
def Instant.ofParts (d : Date) (hour minute second nanos : Nat) (offset : Int) : Option Instant :=
  if d.isReal && keepsYear d.year && hour ≤ 23 && minute ≤ 59 && second ≤ 60 &&
      offset.natAbs < 86400 then
    let whole := min second 59
    let nanos := if second = 60 then nanos + nanosPerSecond else nanos
    let reading := d.toDays * secondsPerDay + (hour * 3600 + minute * 60 + whole : Nat)
    let t : Instant := ⟨reading - offset, nanos⟩
    if t.isKept then some t else none
  else none

/-- Reads an instant from the whole of a text. -/
def Instant.ofRfc3339 (text : String) : Option Instant := do
  let (year, cs) ← readYear text.toList
  let cs ← readMark '-' cs
  let (month, cs) ← readNumber 2 cs
  let cs ← readMark '-' cs
  let (day, cs) ← readNumber 2 cs
  let cs ← match cs with
    | c :: rest => if c = 't' ∨ c = 'T' ∨ c = ' ' then some rest else none
    | [] => none
  let (hour, cs) ← readNumber 2 cs
  let cs ← readMark ':' cs
  let (minute, cs) ← readNumber 2 cs
  let cs ← readMark ':' cs
  let (second, cs) ← readNumber 2 cs
  let (nanos, cs) ← readFraction cs
  let (offset, cs) ← readOffset (trimStart cs)
  if (trimStart cs).isEmpty then Instant.ofParts ⟨year, month, day⟩ hour minute second nanos offset
  else none

end PacketTelemetry.Time
