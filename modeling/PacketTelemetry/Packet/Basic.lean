/-
Packets as agents report them.

A `Packet` is what the program calls `PacketFields`, and `PacketDraft` as long as it has not been
made fit to be kept. Every field may be absent. A batch (`PacketBatch`) holds packets of one
agent, and the name of the agent, its host and its interface once for all packets that do not say
otherwise.
-/
namespace PacketTelemetry

/-- A captured packet. -/
structure Packet where
  /-- When it was captured, in the words of the agent. -/
  timestamp : Option String
  /-- Link layer. -/
  srcMac : Option String
  dstMac : Option String
  /-- Address resolution. -/
  arpOp : Option String
  arpSrcIp : Option String
  arpDstIp : Option String
  /-- Network layer. -/
  srcIp : Option String
  dstIp : Option String
  protocol : Option String
  ttl : Option Int32
  ipFlags : Option String
  /-- Transport layer. -/
  srcPort : Option Int32
  dstPort : Option Int32
  seq : Option Int64
  tcpFlags : Option String
  udpLen : Option Int32
  /-- Control messages. -/
  icmpType : Option Int32
  icmpCode : Option Int32
  /-- Name service. -/
  dnsQueryName : Option String
  dnsQueryType : Option String
  dnsAnswer : Option String
  /-- Application layer. -/
  payload : Option String
  httpInfo : Option String
  tlsInfo : Option String
  length : Option Int32
  packetType : Option String
  /-- The agent that captured it. -/
  agentId : Option String
  hostName : Option String
  interfaceName : Option String
deriving DecidableEq, Repr

/-- A packet of which nothing is known. -/
def Packet.blank : Packet :=
  ⟨none, none, none, none, none, none, none, none, none, none,
    none, none, none, none, none, none, none, none, none, none,
    none, none, none, none, none, none, none, none, none⟩

/-- Packets reported together. -/
structure Batch where
  agentId : Option String
  hostName : Option String
  interfaceName : Option String
  packets : Option (List Packet)
deriving DecidableEq, Repr

/-- A batch without packets or names. -/
def Batch.blank : Batch := ⟨none, none, none, none⟩

/-- The texts of a packet, each replaced by what `f` makes of it. -/
def Packet.mapTexts (f : String → String) (p : Packet) : Packet where
  timestamp := p.timestamp.map f
  srcMac := p.srcMac.map f
  dstMac := p.dstMac.map f
  arpOp := p.arpOp.map f
  arpSrcIp := p.arpSrcIp.map f
  arpDstIp := p.arpDstIp.map f
  srcIp := p.srcIp.map f
  dstIp := p.dstIp.map f
  protocol := p.protocol.map f
  ttl := p.ttl
  ipFlags := p.ipFlags.map f
  srcPort := p.srcPort
  dstPort := p.dstPort
  seq := p.seq
  tcpFlags := p.tcpFlags.map f
  udpLen := p.udpLen
  icmpType := p.icmpType
  icmpCode := p.icmpCode
  dnsQueryName := p.dnsQueryName.map f
  dnsQueryType := p.dnsQueryType.map f
  dnsAnswer := p.dnsAnswer.map f
  payload := p.payload.map f
  httpInfo := p.httpInfo.map f
  tlsInfo := p.tlsInfo.map f
  length := p.length
  packetType := p.packetType.map f
  agentId := p.agentId.map f
  hostName := p.hostName.map f
  interfaceName := p.interfaceName.map f

end PacketTelemetry
