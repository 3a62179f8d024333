/-
Two watches on the packets of each source address: the `Detector`.

The port watch (`check_port_scan`) keeps the distinct ports an address has tried. When there are
enough of them it raises an alert and begins anew; it knows no time. The arrival watch
(`check_traffic_spike`) keeps the arrivals of an address, oldest first. With each one it lets go,
from the front, of those as old as the window or older, and when more are left than the limit it
raises an alert and begins anew. Neither watch sees the other's state, and packets without a
source address are not watched.
-/
import PacketTelemetry.Detector.Alert
import PacketTelemetry.Packet.Stored

namespace PacketTelemetry

open Time

/-- When the watches raise an alert: `DetectionConfig`. -/
structure Limits where
  /-- The distinct ports that raise an alert. -/
  ports : Nat
  /-- The arrivals that do not yet raise one. -/
  arrivals : Nat
  /-- How long an arrival counts, in seconds. -/
  windowSeconds : Nat
deriving DecidableEq, Repr

/-- The limits that hold unless others are set. -/
def Limits.standard : Limits := ⟨30, 500, 10⟩

/-- A moment at which a packet is processed. The time of day is read anew for each thing that is
dated by it, and so it may differ between them. -/
structure Moment where
  /-- The time of day at which the packet is kept. -/
  wall : Instant
  /-- The nanoseconds on a clock that only measures, at which it is watched. -/
  ticks : Int
  /-- The time of day at which the port watch raises its alert, if it does. -/
  scanned : Instant
  /-- The time of day at which the arrival watch raises its alert, if it does. -/
  spiked : Instant
deriving DecidableEq, Repr, Inhabited

/-- A moment with one time of day for all. -/
def Moment.once (wall : Instant) (ticks : Int) : Moment := ⟨wall, ticks, wall, wall⟩

/-- The nanoseconds from an earlier reading of a clock to a later one, none where it went
backwards. -/
def elapsed (earlier later : Int) : Nat := (later - earlier).toNat

/-- The ports of an address with one more, and their number if that raises an alert. -/
def watchPort (limit : Nat) (port : Int32) (seen : List Int32) : List Int32 × Option Nat :=
  let seen := if port ∈ seen then seen else port :: seen
  if limit ≤ seen.length then ([], some seen.length) else (seen, none)

/-- The arrivals of an address with one more, and their number if that raises an alert. -/
def watchArrival (limit window : Nat) (now : Int) (queue : List Int) : List Int × Option Nat :=
  let queue := (queue ++ [now]).dropWhile fun t => window ≤ elapsed t now
  if limit < queue.length then ([], some queue.length) else (queue, none)

/-- Both watches, by source address. -/
structure Detector where
  limits : Limits
  ports : Table (List Int32)
  arrivals : Table (List Int)
deriving Repr

namespace Detector

/-- A detector that has seen nothing. -/
def new (limits : Limits) : Detector := ⟨limits, [], []⟩

/-- The ports an address has tried since its last alert. -/
def portsOf (d : Detector) (ip : String) : List Int32 := (Table.get? ip d.ports).getD []

/-- The arrivals of an address that are still kept. -/
def arrivalsOf (d : Detector) (ip : String) : List Int := (Table.get? ip d.arrivals).getD []

/-- The window, on the measuring clock. -/
def window (d : Detector) : Nat := d.limits.windowSeconds * 1000000000

/-- The port watch sees a port of an address: `Detector::check_port_scan`. -/
def seePort (d : Detector) (ip : String) (port : Int32) : Detector × Option Nat :=
  let (seen, raised) := watchPort d.limits.ports port (d.portsOf ip)
  ({ d with ports := Table.put ip seen d.ports }, raised)

/-- The arrival watch sees a packet of an address: `Detector::check_traffic_spike`. -/
def seeArrival (d : Detector) (ip : String) (now : Int) : Detector × Option Nat :=
  let (queue, raised) := watchArrival d.limits.arrivals d.window now (d.arrivalsOf ip)
  ({ d with arrivals := Table.put ip queue d.arrivals }, raised)

/-- The port watch sees a packet that may have no port. -/
def seePort? (d : Detector) (ip : String) : Option Int32 → Detector × Option Nat
  | none => (d, none)
  | some port => d.seePort ip port

/-- The text of an alert. -/
def message : AlertKind → String
  | .portScan => "Port scan suspected"
  | .trafficSpike => "Traffic spike detected"

/-- The alert that a count raises: `Alert::port_scan` or `Alert::traffic_spike`. -/
def alert (kind : AlertKind) (ip : String) (raisedAt : Instant) (count : Nat) : Alert :=
  ⟨kind, count, message kind, ip, raisedAt⟩

/-- A packet from an address passes both watches, the port watch first. -/
def watch (d : Detector) (ip : String) (port : Option Int32) (now : Moment) :
    Detector × List Alert :=
  let (d, scan) := d.seePort? ip port
  let (d, spike) := d.seeArrival ip now.ticks
  (d, (scan.map (alert .portScan ip now.scanned)).toList ++
    (spike.map (alert .trafficSpike ip now.spiked)).toList)

/-- A stored packet is processed: it is watched if it says where it came from. This is
`Detector::process_at`, and `Detector::process` reads the clock that measures for it. -/
def process (d : Detector) (s : StoredPacket) (now : Moment) : Detector × List Alert :=
  match s.srcIp with
  | none => (d, [])
  | some ip => if ip.isEmpty then (d, []) else d.watch ip s.dstPort now

/-- The number of addresses that have been watched: `Detector::tracked_ips`. -/
def trackedIps (d : Detector) : Nat := d.arrivals.length

end Detector

end PacketTelemetry
