/-
The banner, `print_banner`: the settings a collector starts with, in a frame.
-/
import PacketTelemetry.Console.Report
import PacketTelemetry.Settings.Validity

namespace PacketTelemetry.Console

open Style

/-- A text filled up on the right to a width. -/
def padRight (n : Nat) (s : String) : String := s ++ repeated (n - s.length) ' '

/-- A text in the middle of a width, the odd blank on its right. -/
def centred (n : Nat) (s : String) : String :=
  let room := n - s.length
  repeated (room / 2) ' ' ++ s ++ repeated (room - room / 2) ' '

/-- The width inside the frame. -/
def innerWidth : Nat := width - 2

/-- The name of the program. -/
def title : String := "NETWATCH-RS  ::  PACKET INGESTION & ANOMALY DETECTION  v0.1.0"

/-- Where the server listens. -/
def serverLine (s : ServerSettings) : String :=
  "  HTTP:   " ++ s.address ++ ":" ++ padRight 10 (toString s.port) ++ " Latest: " ++
    toString s.latestLimit ++ " inregistrari"

/-- Where the broker is. -/
def brokerLine (b : BrokerSettings) : String :=
  if b.enabled then
    "  Broker: out " ++ b.host ++ ":" ++ toString b.port ++ "  in " ++ b.listenAddress ++ ":" ++
      toString b.listenPort
  else "  Broker: OFF"

/-- What raises an alert. -/
def limitsLine (l : Limits) : String :=
  "  Port scan: >=" ++ toString l.ports ++ " porturi     Spike: >" ++ toString l.arrivals ++
    " pachete/" ++ toString l.windowSeconds ++ "s"

/-- The banner, blank lines around it. -/
def banner (colours : Bool) (s : Settings) : String :=
  let across := repeated innerWidth '═'
  let framed (left middle right : String) :=
    paint colours (bold .cyan) (left ++ middle ++ right) ++ "\n"
  let inside (text : String) :=
    paint colours (plain .cyan) ("║" ++ padRight innerWidth text ++ "║") ++ "\n"
  "\n" ++ framed "╔" across "╗" ++ framed "║" (centred innerWidth title) "║" ++
    framed "╠" across "╣" ++ inside (serverLine s.server) ++ inside (brokerLine s.broker) ++
    inside (limitsLine s.detection) ++ framed "╚" across "╝" ++ "\n"

end PacketTelemetry.Console
