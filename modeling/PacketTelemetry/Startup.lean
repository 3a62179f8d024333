/-
How a collector starts: `main`, up to the point where it serves.

The settings are read from the file named on the command line and shown in a banner. Then the
program listens to the broker, if that is used, and at last to HTTP. What lies outside it, the
files and the network, is a `Host`; with one that lets it listen the program comes to serve with
the collector that its settings describe, and otherwise it ends with the reason.
-/
import PacketTelemetry.Console.Banner

namespace PacketTelemetry

open Time

/-- What a program finds around it. -/
structure Host where
  /-- The text of a file, if there is such a file and it holds text. -/
  readText : String → Option String
  /-- Whether one can listen on an address and port over UDP. -/
  listensUdp : String → Nat → Bool
  /-- Whether one can listen on an address and port over HTTP. -/
  listensHttp : String → Nat → Bool
  /-- The time of day. -/
  now : Instant
  /-- The clocks of the place where it runs. -/
  zone : Zone
  /-- Whether the console shows colours. -/
  colours : Bool

/-- Why a program did not come to serve. -/
inductive StartupError where
  | settings (e : SettingsError)
  | udp (endpoint : String)
  | http (endpoint : String)
deriving DecidableEq, Repr

/-- The text of an error. -/
def StartupError.message : StartupError → String
  | settings e => e.message
  | udp endpoint => "Nu pot asculta pe UDP " ++ endpoint
  | http endpoint => "Nu pot asculta pe HTTP " ++ endpoint

/-- What a collector is set up with, by its settings and the clocks of the place where it runs. -/
def Settings.setup (s : Settings) (z : Zone) : Setup where
  store := .memory (.new s.maxRecords)
  limits := s.detection
  topics := s.broker.topics
  mark := s.highWaterMark
  latestLimit := s.server.latestLimit
  zone := z

/-- What a start printed, and the collector that serves, or why there is none. -/
structure Startup where
  printed : String
  outcome : Except StartupError Collector

namespace Startup

/-- The file of the settings unless another is named. -/
def standardPath : String := "config.toml"

/-- An address with its port. -/
def endpoint (address : String) (port : Nat) : String := address ++ ":" ++ toString port

/-- What is said of the store. -/
def storeLine (s : Settings) : String :=
  "Store in memorie (retentie: " ++
    (if s.maxRecords = 0 then "nelimitata" else toString s.maxRecords ++ " inregistrari") ++ ")"

/-- A message on the console of a host. -/
def say (h : Host) (level : Console.Level) (text : String) : String :=
  Console.message h.colours h.zone level h.now text

/-- The program listens to the broker, if that is used. Gives what is printed. -/
def listenToBroker (h : Host) (b : BrokerSettings) : Except StartupError String :=
  let listen := endpoint b.listenAddress b.listenPort
  if !b.enabled then
    .ok (say h .warning "Broker dezactivat - mesajele outbound sunt abandonate")
  else if h.listensUdp b.listenAddress b.listenPort then
    .ok (say h .info
      ("Broker: publicare catre " ++ endpoint b.host b.port ++ ", receptie pe UDP " ++ listen))
  else .error (.udp listen)

/-- The program listens to HTTP. Gives what is printed. -/
def listenToHttp (h : Host) (s : ServerSettings) : Except StartupError String :=
  let listen := endpoint s.address s.port
  if h.listensHttp s.address s.port then
    .ok (say h .info ("API HTTP pe http://" ++ listen) ++
      say h .info "Astept pachete de la agenti... (Ctrl+C pentru oprire)" ++
      Console.separator h.colours)
  else .error (.http listen)

/-- The program starts with some settings. -/
def withSettings (h : Host) (s : Settings) : Startup :=
  let begun := Console.banner h.colours s ++ say h .info (storeLine s)
  match listenToBroker h s.broker with
  | .error e => ⟨begun, .error e⟩
  | .ok broker =>
    match listenToHttp h s.server with
    | .error e => ⟨begun ++ broker, .error e⟩
    | .ok http => ⟨begun ++ broker ++ http, .ok (.new (s.setup h.zone))⟩

/-- The program starts with the arguments of its command line. -/
def run (h : Host) (args : List String) : Startup :=
  let path := args.headD standardPath
  match Settings.load path (h.readText path) with
  | .error e => ⟨"", .error (.settings e)⟩
  | .ok s => withSettings h s

/-- The line that tells why a start came to nothing. -/
def errorLine? (s : Startup) : Option String :=
  match s.outcome with
  | .ok _ => none
  | .error e => some ("Error: " ++ e.message)

/-- The status a program ends with. -/
def status (s : Startup) : Nat :=
  match s.outcome with
  | .ok _ => 0
  | .error _ => 1

end Startup

end PacketTelemetry
