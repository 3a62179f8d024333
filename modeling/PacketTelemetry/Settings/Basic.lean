/-
What a collector is told at its start.

Settings (`AppConfig`) stand in six sections. The server answers over HTTP, the broker is reached
over UDP and may be left out; the other four have values that hold unless others are set.
-/
import PacketTelemetry.Broker.Topics
import PacketTelemetry.Detector.Basic

namespace PacketTelemetry

/-- Where the server listens, and how many packets it answers with unless it is told. -/
structure ServerSettings where
  address : String
  port : Nat
  latestLimit : Nat
deriving DecidableEq, Repr

/-- Where one listens to the broker, and where it is sent to. -/
structure BrokerSettings where
  enabled : Bool
  listenAddress : String
  listenPort : Nat
  host : String
  port : Nat
  topics : Topics
deriving DecidableEq, Repr

/-- All settings. -/
structure Settings where
  server : ServerSettings
  broker : BrokerSettings
  detection : Limits
  /-- The backlog of a listener that is warned of. -/
  highWaterMark : Nat
  /-- The packets that are kept, zero for any number. -/
  maxRecords : Nat
  /-- The seconds between two lines of statistics. -/
  statsInterval : Nat
deriving DecidableEq, Repr

namespace Settings

/-- The packets answered with unless another number is set. -/
def standardLatestLimit : Nat := 30000

/-- The backlog warned of unless another is set. -/
def standardHighWaterMark : Nat := 10000

/-- The seconds between lines of statistics unless others are set. -/
def standardStatsInterval : Nat := 60

end Settings

end PacketTelemetry
