/-
What comes in from agents and from the broker.

A heartbeat goes into the roster, and the whole roster is published. Envelopes go where their
topics say: heartbeats to the roster, analytics to their channels as they are, and all others
nowhere. An envelope that is refused leaves no trace and holds up none of the others.
-/
import PacketTelemetry.Collector.Basic
import PacketTelemetry.Text.Utf8

namespace PacketTelemetry

open Json

/-- Where an envelope went. -/
inductive Routed where
  | heartbeat (agentId : String)
  | analytics (a : Analytics)
  | ignored
deriving DecidableEq, Repr

/-- Why the payload of an envelope was refused: `BrokerError::Payload`. -/
structure PayloadError where
  topic : String
  mismatch : Mismatch
deriving Repr

/-- The text of a payload error. -/
def PayloadError.message (e : PayloadError) : String :=
  "payload incompatibil cu topic-ul " ++ e.topic ++ ": " ++ e.mismatch.message

namespace Collector

/-- An agent reports in: `AgentRegistry::on_heartbeat`. -/
def heartbeat (c : Collector) (a : Agent) : Collector :=
  let roster := c.roster.report a
  { c with roster }.publish .agents roster.agents

/-- An agent reports in directly, and others are told: `agent_heartbeat`. -/
def directHeartbeat (c : Collector) (a : Agent) : Collector :=
  (c.heartbeat a).send (.heartbeat a)

/-- A payload passes to the channel of its topic, if it has one: `AnalyticsRelay::relay`. -/
def relay (c : Collector) (topic : String) (payload : Value) : Option Collector :=
  (c.topics.analyticsOf? topic).map fun a => c.publish (.analytics a) payload

/-- An envelope goes where its topic says: `InboundRouter::route`. -/
def route (c : Collector) (e : Envelope) : Except PayloadError (Collector × Routed) :=
  if e.topic = c.topics.heartbeats then
    match Agent.form.take e.payload with
    | .error mismatch => .error ⟨e.topic, mismatch⟩
    | .ok a => .ok (c.heartbeat a, .heartbeat a.id)
  else
    match c.topics.analyticsOf? e.topic with
    | some a => .ok (c.publish (.analytics a) e.payload, .analytics a)
    | none => .ok (c, .ignored)

/-- What became of a line of a datagram. -/
inductive LineOutcome where
  | routed (r : Routed)
  | unreadable (fault : Fault)
  | refused (e : PayloadError)

/-- A line of a datagram, read or not, goes where its topic says. -/
def routeLine (c : Collector) (line : Except Fault Envelope) : Collector × LineOutcome :=
  match line with
  | .error fault => (c, .unreadable fault)
  | .ok e =>
    match c.route e with
    | .error e => (c, .refused e)
    | .ok (c, routed) => (c, .routed routed)

/-- The lines of a datagram one after another, and what became of each. -/
def routeLines (c : Collector) : List (Except Fault Envelope) → Collector × List LineOutcome
  | [] => (c, [])
  | line :: rest =>
    let (c, outcome) := c.routeLine line
    let (c, outcomes) := c.routeLines rest
    (c, outcome :: outcomes)

/-- The lines of a datagram one after another, and what became of each. -/
def routeDatagram (c : Collector) (data : String) : Collector × List LineOutcome :=
  c.routeLines (Envelope.ofDatagram data)

/-- Where a line went, if it went anywhere. -/
def LineOutcome.routed? : LineOutcome → Option Routed
  | .routed r => some r
  | _ => none

/-- A datagram comes in: `InboundRouter::handle_datagram`. Gives where its good lines went. -/
def receiveDatagram (c : Collector) (data : String) : Collector × List Routed :=
  let (c, outcomes) := c.routeDatagram data
  (c, outcomes.filterMap (·.routed?))

/-- A datagram comes in as octets, as `listener::run` receives it. Those that are no characters are
replaced. -/
def receiveOctets (c : Collector) (octets : List UInt8) : Collector × List Routed :=
  c.receiveDatagram (Text.Utf8.lossy octets)

end Collector

end PacketTelemetry
