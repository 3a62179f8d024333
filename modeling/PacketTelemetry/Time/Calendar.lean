/-
Days counted from the first of January 1970, and the dates they fall on.

A year begins `daysBeforeYear` days after the first of January of the year 1, leap years being
those divisible by four, but of the centuries only those divisible by four hundred. Years go on
backwards through zero below it.
-/
namespace PacketTelemetry.Time

/-- A year of 366 days. -/
def isLeap (year : Int) : Bool := year % 4 = 0 && (year % 100 ≠ 0 || year % 400 = 0)

/-- The lengths of the months of a year. -/
def monthLengths (year : Int) : List Nat :=
  [31, if isLeap year then 29 else 28, 31, 30, 31, 30, 31, 31, 30, 31, 30, 31]

/-- The days from the first of January of the year 1 to that of a year. -/
def daysBeforeYear (year : Int) : Int :=
  let y := year - 1
  365 * y + y / 4 - y / 100 + y / 400

/-- The days from the first of January of the year 1 to that of 1970. -/
def epochDays : Int := 719162

/-- A date of the calendar. -/
structure Date where
  year : Int
  month : Nat
  day : Nat
deriving DecidableEq, Repr

/-- Whether the calendar has a date. -/
def Date.isReal (d : Date) : Bool :=
  1 ≤ d.month && 1 ≤ d.day &&
    match (monthLengths d.year)[d.month - 1]? with
    | some n => d.day ≤ n
    | none => false

/-- The years of the calendar that is kept. -/
def leastYear : Int := -262143

/-- The last of them. -/
def mostYear : Int := 262142

/-- Whether a year is kept. -/
def keepsYear (year : Int) : Bool := leastYear ≤ year && year ≤ mostYear

/-- The days of a year before a month. -/
def daysBeforeMonth (year : Int) (month : Nat) : Nat :=
  ((monthLengths year).take (month - 1)).foldr (· + ·) 0

/-- The days from the first of January 1970 to a date. -/
def Date.toDays (d : Date) : Int :=
  daysBeforeYear d.year - epochDays + daysBeforeMonth d.year d.month + d.day - 1

/-- The year in which a day falls, counted from the first of January of the year 1. -/
def yearOfDay (n : Int) : Int :=
  let guess := n * 400 / 146097 + 1
  if n < daysBeforeYear guess then guess - 1
  else if daysBeforeYear (guess + 1) ≤ n then guess + 1
  else guess

/-- The month and the day of the month, `n` days after the first of the month. -/
def monthAndDay : List Nat → Nat → Nat → Nat × Nat
  | [], month, n => (month, n + 1)
  | length :: rest, month, n =>
    if n < length then (month, n + 1) else monthAndDay rest (month + 1) (n - length)

/-- The date that falls some days after the first of January 1970. -/
def Date.ofDays (days : Int) : Date :=
  let n := days + epochDays
  let year := yearOfDay n
  let (month, day) := monthAndDay (monthLengths year) 1 (n - daysBeforeYear year).toNat
  ⟨year, month, day⟩

end PacketTelemetry.Time
