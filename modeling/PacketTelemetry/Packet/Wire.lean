/-
Packets and batches in JSON.

A packet has 29 members, always written in one order, and `null` stands for a field that is
absent.
-/
import PacketTelemetry.Json.Form
import PacketTelemetry.Packet.Basic

namespace PacketTelemetry

open Json

/-- The members of a packet, in the order in which they are written. -/
def Packet.members : List (Member Packet) := [
  Form.text.maybe "timestamp" (·.timestamp) fun p v => { p with timestamp := v },
  Form.text.maybe "srcMAC" (·.srcMac) fun p v => { p with srcMac := v },
  Form.text.maybe "dstMAC" (·.dstMac) fun p v => { p with dstMac := v },
  Form.text.maybe "arpOp" (·.arpOp) fun p v => { p with arpOp := v },
  Form.text.maybe "arpSrcIp" (·.arpSrcIp) fun p v => { p with arpSrcIp := v },
  Form.text.maybe "arpDstIp" (·.arpDstIp) fun p v => { p with arpDstIp := v },
  Form.text.maybe "srcIp" (·.srcIp) fun p v => { p with srcIp := v },
  Form.text.maybe "dstIp" (·.dstIp) fun p v => { p with dstIp := v },
  Form.text.maybe "protocol" (·.protocol) fun p v => { p with protocol := v },
  Form.int32.maybe "ttl" (·.ttl) fun p v => { p with ttl := v },
  Form.text.maybe "ipFlags" (·.ipFlags) fun p v => { p with ipFlags := v },
  Form.int32.maybe "srcPort" (·.srcPort) fun p v => { p with srcPort := v },
  Form.int32.maybe "dstPort" (·.dstPort) fun p v => { p with dstPort := v },
  Form.int64.maybe "seq" (·.seq) fun p v => { p with seq := v },
  Form.text.maybe "tcpFlags" (·.tcpFlags) fun p v => { p with tcpFlags := v },
  Form.int32.maybe "udpLen" (·.udpLen) fun p v => { p with udpLen := v },
  Form.int32.maybe "icmpType" (·.icmpType) fun p v => { p with icmpType := v },
  Form.int32.maybe "icmpCode" (·.icmpCode) fun p v => { p with icmpCode := v },
  Form.text.maybe "dnsQueryName" (·.dnsQueryName) fun p v => { p with dnsQueryName := v },
  Form.text.maybe "dnsQueryType" (·.dnsQueryType) fun p v => { p with dnsQueryType := v },
  Form.text.maybe "dnsAnswer" (·.dnsAnswer) fun p v => { p with dnsAnswer := v },
  Form.text.maybe "payload" (·.payload) fun p v => { p with payload := v },
  Form.text.maybe "httpInfo" (·.httpInfo) fun p v => { p with httpInfo := v },
  Form.text.maybe "tlsInfo" (·.tlsInfo) fun p v => { p with tlsInfo := v },
  Form.int32.maybe "length" (·.length) fun p v => { p with length := v },
  Form.text.maybe "packetType" (·.packetType) fun p v => { p with packetType := v },
  Form.text.maybe "agentId" (·.agentId) fun p v => { p with agentId := v },
  Form.text.maybe "hostName" (·.hostName) fun p v => { p with hostName := v },
  Form.text.maybe "interfaceName" (·.interfaceName) fun p v => { p with interfaceName := v }]

/-- How a packet is written and read. -/
def Packet.record : Record Packet where
  expected := "a packet"
  blank := .blank
  members := Packet.members

/-- The form of a packet. -/
def Packet.form : Form Packet := Packet.record.form

/-- How a batch is written and read. -/
def Batch.record : Record Batch where
  expected := "a batch"
  blank := .blank
  members := [
    Form.text.maybe "agentId" (·.agentId) fun b v => { b with agentId := v },
    Form.text.maybe "hostName" (·.hostName) fun b v => { b with hostName := v },
    Form.text.maybe "interfaceName" (·.interfaceName) fun b v => { b with interfaceName := v },
    Packet.form.list.maybe "packets" (·.packets) fun b v => { b with packets := v }]

/-- The form of a batch. -/
def Batch.form : Form Batch := Batch.record.form

end PacketTelemetry
