/-
Packets that have been kept.

A stored packet (`PacketRecord`) has a number of its own and the time it was received. In JSON it
is one object: these two members, and after them those of the packet. The time is written by the
clocks of a place, for which the form of a stored packet is given, and can be read anywhere.
-/
import PacketTelemetry.Packet.Wire
import PacketTelemetry.Time.Rfc3339

namespace PacketTelemetry

open Json Time

/-- A packet with its number and the time it was received. -/
structure StoredPacket where
  id : Int64
  receivedAt : Instant
  packet : Packet
deriving DecidableEq, Repr

/-- The address a packet came from. -/
def StoredPacket.srcIp (s : StoredPacket) : Option String := s.packet.srcIp

/-- The port a packet went to. -/
def StoredPacket.dstPort (s : StoredPacket) : Option Int32 := s.packet.dstPort

/-- Instants as texts by the clocks of a place. -/
def instantForm (z : Zone) : Form Instant where
  write t := .text (t.toRfc3339 z)
  read levels s := do
    let (text, rest) ← Form.text.read levels s
    match Instant.ofRfc3339 text with
    | some t => .ok (t, rest)
    | none => .error .mismatch
  take v := do
    match Instant.ofRfc3339 (← Form.text.take v) with
    | some t => .ok t
    | none => .error (.wrongType v "a formatted date and time string")

/-- How a stored packet is written and read where the clocks of a place count. -/
def StoredPacket.record (z : Zone) : OpenRecord StoredPacket StoredPacket where
  expected := "a stored packet"
  blank := ⟨0, ⟨0, 0⟩, .blank⟩
  members := [
    Form.int64.needed "id" (·.id) fun s v => { s with id := v },
    (instantForm z).needed "receivedAt" (·.receivedAt) fun s v => { s with receivedAt := v }]
  finish s others := do
    let packet ← takeObject Packet.members [] .blank others
    .ok { s with packet }
  write s :=
    ("id", Form.int64.write s.id) :: ("receivedAt", (instantForm z).write s.receivedAt) ::
      Packet.record.fields s.packet

/-- The form of a stored packet where the clocks of a place count. -/
def StoredPacket.form (z : Zone) : Form StoredPacket := (StoredPacket.record z).form

end PacketTelemetry
