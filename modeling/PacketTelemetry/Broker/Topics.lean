/-
The topics of the broker.

Three topics carry what is sent out, and one of these, heartbeats, is also listened to. Four
carry analytics that come in, one for each channel. When two of the four have one name, the
last of them gets what is sent there.
-/
import PacketTelemetry.Live.Channel

namespace PacketTelemetry

/-- The names of the topics: `TopicConfig`. -/
structure Topics where
  packets : String
  alerts : String
  heartbeats : String
  topTalkers : String
  topPorts : String
  protocolStats : String
  rawPackets : String
deriving DecidableEq, Repr

namespace Topics

/-- The names that hold unless others are set. -/
def standard : Topics where
  packets := "packet-events"
  alerts := "netwatch.alerts"
  heartbeats := "netwatch.agent-heartbeat"
  topTalkers := "netwatch.top-talkers"
  topPorts := "netwatch.top-ports"
  protocolStats := "netwatch.protocol-stats"
  rawPackets := "netwatch.raw-packets"

/-- The topic of a kind of analytics. -/
def ofAnalytics (t : Topics) : Analytics → String
  | .topTalkers => t.topTalkers
  | .topPorts => t.topPorts
  | .protocolStats => t.protocolStats
  | .rawPackets => t.rawPackets

/-- The kind of analytics that a topic carries, the last one of that name:
`AnalyticsRelay::route`. -/
def analyticsOf? (t : Topics) (topic : String) : Option Analytics :=
  Analytics.all.reverse.find? fun a => t.ofAnalytics a = topic

end Topics

end PacketTelemetry
