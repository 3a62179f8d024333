/-
What is sent out through the broker, and the queue in which it waits.

Each message (`OutboundMessage`) has a topic of its own and a key by which the broker may divide
the load: the source address, or the agent. The time in a packet is by the clocks of the place
that sends it. Messages put into the queue are taken out in that order; once nobody takes them any
more they are dropped.
-/
import PacketTelemetry.Broker.Envelope
import PacketTelemetry.Broker.Topics

namespace PacketTelemetry

open Json Time

/-- A message to be sent out. -/
inductive Message where
  | packet (s : StoredPacket)
  | alert (a : Alert)
  | heartbeat (a : Agent)
deriving DecidableEq, Repr

namespace Message

/-- The topic of a message. -/
def topic (t : Topics) : Message → String
  | packet _ => t.packets
  | alert _ => t.alerts
  | heartbeat _ => t.heartbeats

/-- The key of a message. -/
def key : Message → Option String
  | packet s => s.srcIp
  | alert a => some a.srcIp
  | heartbeat a => some a.id

/-- The members of a message, as its own form writes them. -/
def members (z : Zone) : Message → Members
  | packet s => (StoredPacket.record z).write s
  | alert a => Alert.record.write a
  | heartbeat a => Agent.record.fields a

/-- The payload of a message: its members in order of their names. -/
def payload (z : Zone) (m : Message) : Value := .object (sortMembers (m.members z))

/-- The envelope of a message: `OutboundMessage::into_envelope`. -/
def envelope (z : Zone) (t : Topics) (m : Message) : Envelope := ⟨m.topic t, m.key, m.payload z⟩

end Message

/-- The most octets a datagram can carry. -/
def maxDatagram : Nat := 65507

/-- The lines in which messages travel, those too long for a datagram left out. -/
def Message.datagrams (z : Zone) (t : Topics) (ms : List Message) : List String :=
  (ms.map fun m => (m.envelope z t).line).filter fun line => line.utf8ByteSize ≤ maxDatagram

/-- The lines that leave for the broker, none if it is not used: `publisher::run`. -/
def Message.published (enabled : Bool) (z : Zone) (t : Topics) (ms : List Message) : List String :=
  if enabled then datagrams z t ms else []

/-- Messages that wait to be sent out. -/
structure Outbound where
  /-- Whether anyone takes them. -/
  isOpen : Bool
  /-- The messages, oldest first. -/
  queue : List Message
deriving Repr

namespace Outbound

/-- An empty queue that is taken from. -/
def new : Outbound := ⟨true, []⟩

/-- A message is put into the queue: `Outbound::publish`. -/
def send (o : Outbound) (m : Message) : Outbound :=
  if o.isOpen then { o with queue := o.queue ++ [m] } else o

/-- Some messages are taken out, the oldest first. -/
def take (o : Outbound) (count : Nat) : Outbound × List Message :=
  ({ o with queue := o.queue.drop count }, o.queue.take count)

/-- All messages are taken out. -/
def drain (o : Outbound) : Outbound × List Message := ({ o with queue := [] }, o.queue)

/-- Nobody takes messages any more, and those in the queue are dropped. -/
def closed : Outbound := ⟨false, []⟩

end Outbound

end PacketTelemetry
