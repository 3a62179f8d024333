/-
Points in time, to the nanosecond, and the clocks of a place.

An instant is counted from the start of 1970. Within a leap second the nanoseconds go on past
a thousand million. The clocks of a place are ahead of UTC by an offset that depends on the
instant, for places have summer time, and had clocks of their own before there were time zones.
-/
import PacketTelemetry.Time.Calendar

namespace PacketTelemetry.Time

/-- A point in time. -/
structure Instant where
  /-- Whole seconds since the start of 1970. -/
  seconds : Int
  /-- Nanoseconds after them. -/
  nanos : Nat
deriving DecidableEq, Repr, Inhabited

namespace Instant

/-- The seconds of a day. -/
def secondsPerDay : Int := 86400

/-- The nanoseconds of a second. -/
def nanosPerSecond : Nat := 1000000000

/-- The date of an instant. -/
def date (t : Instant) : Date := .ofDays (t.seconds / secondsPerDay)

/-- The seconds since the day began. -/
def secondOfDay (t : Instant) : Nat := (t.seconds % secondsPerDay).toNat

/-- The hour of the day. -/
def hour (t : Instant) : Nat := t.secondOfDay / 3600

/-- The minute of the hour. -/
def minute (t : Instant) : Nat := t.secondOfDay / 60 % 60

/-- The second of the minute, 60 in a leap second. -/
def second (t : Instant) : Nat := t.secondOfDay % 60 + t.nanos / nanosPerSecond

/-- The nanoseconds after the second. -/
def fraction (t : Instant) : Nat := t.nanos % nanosPerSecond

/-- Whether an instant falls in a year of the calendar. -/
def isKept (t : Instant) : Bool := keepsYear t.date.year

/-- Milliseconds since the start of 1970, rounded down. -/
def toMillis (t : Instant) : Int := t.seconds * 1000 + t.nanos / 1000000

/-- The instant some milliseconds after the start of 1970. -/
def ofMillis (ms : Int) : Instant := ⟨ms / 1000, (ms % 1000).toNat * 1000000⟩

/-- The instant some milliseconds after the start of 1970, if the calendar has its year. -/
def ofMillis? (ms : Int) : Option Instant :=
  if (ofMillis ms).isKept then some (ofMillis ms) else none

/-- What clocks show that are some seconds ahead of UTC, as if it were in UTC. -/
def ahead (t : Instant) (seconds : Int) : Instant := ⟨t.seconds + seconds, t.nanos⟩

end Instant

/-- The clocks of a place. -/
structure Zone where
  /-- The seconds by which they are ahead of UTC at an instant. -/
  offset : Instant → Int
  /-- They are less than a day away from UTC. -/
  within : ∀ t, (offset t).natAbs < 86400

namespace Zone

/-- Clocks that are always as many seconds ahead of UTC. -/
def fixed (seconds : Int) (h : seconds.natAbs < 86400) : Zone := ⟨fun _ => seconds, fun _ => h⟩

/-- The clocks of UTC. -/
def utc : Zone := fixed 0 (by decide)

/-- What the clocks of a place show at an instant, as if it were in UTC. -/
def reading (z : Zone) (t : Instant) : Instant := t.ahead (z.offset t)

end Zone

end PacketTelemetry.Time
