/-
The collector: what takes packets in and hands them on, the `IngestService` with all that it is
given to work with.

A packet that is reported is made fit, kept in the store, and only then spread: to the outbound
queue, to those who listen to packets, and to the detector, whose alerts go the same two ways. A
batch is kept as a whole or not at all, and its packets are then spread one after another. When
packets are not kept, nothing else happens.
-/
import PacketTelemetry.Broker.Message
import PacketTelemetry.Detector.Basic
import PacketTelemetry.Packet.Normal
import PacketTelemetry.Roster.Basic
import PacketTelemetry.Store.Basic

namespace PacketTelemetry

open Time

/-- What a collector is set up with. -/
structure Setup where
  store : Store
  limits : Limits
  topics : Topics
  /-- The backlog of a listener that is warned of. -/
  mark : Nat
  /-- The packets answered to a query that does not say how many. -/
  latestLimit : Nat
  /-- The clocks by which packets are dated in what is told of them. -/
  zone : Zone

/-- The state of a collector. -/
structure Collector where
  store : Store
  detector : Detector
  channels : Channels
  roster : Roster
  outbound : Outbound
  topics : Topics
  latestLimit : Nat
  zone : Zone

/-- Why packets were not taken in. -/
inductive IngestError where
  /-- A batch without a list of packets. -/
  | noPackets
  /-- The store did not keep them, or could not be asked. -/
  | store (e : StoreError)
deriving DecidableEq, Repr

/-- The text of an error. -/
def IngestError.message : IngestError → String
  | .noPackets => "lot invalid: campul `packets` lipseste"
  | .store e => "persistenta esuata: " ++ e.message

namespace Collector

/-- A collector that has taken nothing in. -/
def new (s : Setup) : Collector where
  store := s.store
  detector := .new s.limits
  channels := .new s.mark
  roster := .empty
  outbound := .new
  topics := s.topics
  latestLimit := s.latestLimit
  zone := s.zone

/-- A message goes to the outbound queue. -/
def send (c : Collector) (m : Message) : Collector := { c with outbound := c.outbound.send m }

/-- An item goes to those who listen on a channel. -/
def publish (c : Collector) (ch : Channel) (item : ch.Item) : Collector :=
  { c with channels := c.channels.publish ch item }

/-- An alert goes both ways, as in `IngestService::fan_out`. -/
def raise (c : Collector) (a : Alert) : Collector :=
  (c.send (.alert a)).publish .alerts a

/-- A packet that has been kept is spread: `IngestService::fan_out`. Gives the alerts it raises as
well. -/
def spread (c : Collector) (s : StoredPacket) (now : Moment) : Collector × List Alert :=
  let c := (c.send (.packet s)).publish .packets s
  let (detector, alerts) := c.detector.process s now
  (alerts.foldl raise { c with detector }, alerts)

/-- Packets that have been kept are spread one after another, each at its moment. -/
def spreadAll (c : Collector) (now : Nat → Moment) : List StoredPacket → Collector × List Alert
  | [] => (c, [])
  | s :: rest =>
    let (c, first) := c.spread s (now 0)
    let (c, later) := c.spreadAll (fun n => now (n + 1)) rest
    (c, first ++ later)

/-- Takes in one packet: `IngestService::ingest_one`. Gives it as it was kept, and the alerts it
raises. -/
def ingest (c : Collector) (p : Packet) (now : Moment) :
    Except IngestError (Collector × StoredPacket × List Alert) :=
  match c.store.save now.wall p.normalize with
  | .error e => .error (.store e)
  | .ok (store, kept) =>
    let (c, alerts) := { c with store }.spread kept now
    .ok (c, kept, alerts)

/-- Takes in a batch: `IngestService::ingest_batch`. Gives the number of its packets, and the alerts
they raise. -/
def ingestBatch (c : Collector) (b : Batch) (now : Nat → Moment) :
    Except IngestError (Collector × Nat × List Alert) :=
  match b.normalize with
  | none => .error .noPackets
  | some ps =>
    match c.store.saveAll (fun n => (now n).wall) ps with
    | .error e => .error (.store e)
    | .ok (store, kept) =>
      let (c, alerts) := { c with store }.spreadAll now kept
      .ok (c, kept.length, alerts)

/-- The packets captured last: `IngestService::latest_by_timestamp`. -/
def latestByTimestamp (c : Collector) (limit : Nat) : Except IngestError (List StoredPacket) :=
  (c.store.latestByTimestamp limit).mapError .store

/-- The packets kept last: `IngestService::latest_by_id`. -/
def latestById (c : Collector) (limit : Nat) : Except IngestError (List StoredPacket) :=
  (c.store.latestById limit).mapError .store

/-- Counts that say how a collector is doing. -/
structure Stats where
  trackedIps : Nat
  agents : Nat
  packets : Nat
  listeners : Nat
  warnings : Nat
deriving DecidableEq, Repr

/-- How a collector is doing. -/
def stats (c : Collector) : Stats where
  trackedIps := c.detector.trackedIps
  agents := c.roster.count
  packets := c.store.count
  listeners := c.channels.listenerCount
  warnings := c.channels.warnings

end Collector

end PacketTelemetry
