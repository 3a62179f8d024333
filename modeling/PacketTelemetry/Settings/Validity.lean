/-
Which settings make sense.

`problems` and `check` are `AppConfig::validate`. `problems` lists everything that is wrong with
settings, in the order of the sections, and settings are taken only if nothing is. Topics have to
have names, and no two of them one name: what comes in is told apart by them alone.
-/
import PacketTelemetry.Settings.Reading
import PacketTelemetry.Text.Quoted

namespace PacketTelemetry

/-- Something that is wrong with settings. -/
inductive SettingsProblem where
  | serverPort
  | serverAddress
  | latestLimit
  | brokerListenPort
  | brokerListenAddress
  | brokerPort
  | brokerHost
  /-- A topic without a name. -/
  | unnamedTopic (key : String)
  /-- A topic with the name of one before it. -/
  | sharedTopic (key topic : String)
  | portThreshold
  | spikeThreshold
  | spikeWindow
  | highWaterMark
  | statsInterval
deriving DecidableEq, Repr

/-- The text of a problem. -/
def SettingsProblem.message : SettingsProblem → String
  | serverPort => "server.listen_port = 0 este invalid"
  | serverAddress => "server.listen_address nu poate fi gol"
  | latestLimit => "server.latest_limit = 0: interogarea implicita nu ar returna nimic"
  | brokerListenPort => "broker.listen_port = 0 este invalid"
  | brokerListenAddress =>
    "broker.listen_address nu poate fi gol cand broker-ul este activat"
  | brokerPort => "broker.port = 0 este invalid"
  | brokerHost => "broker.host nu poate fi gol cand broker-ul este activat"
  | unnamedTopic key => "broker.topics." ++ key ++ " nu poate fi gol"
  | sharedTopic key topic =>
    "broker.topics." ++ key ++ " = " ++ Text.quoted topic ++
      " este folosit de mai multe clase de mesaje"
  | portThreshold => "detection.port_scan_threshold = 0: orice pachet ar declansa PORT_SCAN"
  | spikeThreshold => "detection.spike_threshold = 0: orice pachet ar declansa TRAFFIC_SPIKE"
  | spikeWindow =>
    "detection.spike_window_secs = 0: fereastra de timp zero face detectia imposibila"
  | highWaterMark => "broadcast.high_water_mark = 0: fiecare publicare ar genera un avertisment"
  | statsInterval => "stats.interval_secs = 0 este invalid"

/-- A problem, where a condition holds. -/
def problemIf (condition : Bool) (p : SettingsProblem) : List SettingsProblem :=
  if condition then [p] else []

/-- The topics, each with its key: `TopicConfig::entries`. -/
def Topics.entries (t : Topics) : List (String × String) := [
  ("packets", t.packets),
  ("alerts", t.alerts),
  ("heartbeats", t.heartbeats),
  ("top_talkers", t.topTalkers),
  ("top_ports", t.topPorts),
  ("protocol_stats", t.protocolStats),
  ("raw_packets", t.rawPackets)]

/-- What is wrong with some topics, `seen` being the names of those before. -/
def topicProblems (seen : List String) : List (String × String) → List SettingsProblem
  | [] => []
  | (key, topic) :: rest =>
    if topic.isEmpty then .unnamedTopic key :: topicProblems seen rest
    else if seen.contains topic then .sharedTopic key topic :: topicProblems seen rest
    else topicProblems (topic :: seen) rest

namespace Settings

open SettingsProblem

/-- What is wrong with the server. -/
def serverProblems (s : ServerSettings) : List SettingsProblem :=
  problemIf (s.port = 0) serverPort ++ problemIf s.address.isEmpty serverAddress ++
    problemIf (s.latestLimit = 0) latestLimit

/-- What is wrong with the broker, which has to be right only if it is used. -/
def brokerProblems (b : BrokerSettings) : List SettingsProblem :=
  if b.enabled then
    problemIf (b.listenPort = 0) brokerListenPort ++
      problemIf b.listenAddress.isEmpty brokerListenAddress ++
      problemIf (b.port = 0) brokerPort ++ problemIf b.host.isEmpty brokerHost
  else []

/-- What is wrong with the limits of the detector. -/
def limitProblems (l : Limits) : List SettingsProblem :=
  problemIf (l.ports = 0) portThreshold ++ problemIf (l.arrivals = 0) spikeThreshold ++
    problemIf (l.windowSeconds = 0) spikeWindow

/-- Everything that is wrong with settings. -/
def problems (s : Settings) : List SettingsProblem :=
  serverProblems s.server ++ brokerProblems s.broker ++
    topicProblems [] s.broker.topics.entries ++ limitProblems s.detection ++
    problemIf (s.highWaterMark = 0) SettingsProblem.highWaterMark ++
    problemIf (s.statsInterval = 0) SettingsProblem.statsInterval

end Settings

/-- Why there are no settings. -/
inductive SettingsError where
  /-- There is no such file, or it holds no text. -/
  | unreadable (path : String)
  /-- The text says no settings. -/
  | malformed
  /-- The settings make no sense. -/
  | invalid (problems : List SettingsProblem)
deriving DecidableEq, Repr

/-- Problems in a list, numbered. -/
def numberedLines (start : Nat) : List SettingsProblem → List String
  | [] => []
  | p :: rest =>
    ("  " ++ toString start ++ ". " ++ p.message) :: numberedLines (start + 1) rest

/-- The text of an error. -/
def SettingsError.message : SettingsError → String
  | unreadable path => "Nu pot citi fisierul: " ++ Text.quoted path
  | malformed => "Eroare la parsarea fisierului TOML"
  | invalid problems =>
    "config.toml contine " ++ toString problems.length ++ " erori de configurare:\n" ++
      String.intercalate "\n" (numberedLines 1 problems)

namespace Settings

/-- Settings that make sense, or the list of what is wrong with them. -/
def check (s : Settings) : Except SettingsError Settings :=
  if s.problems.isEmpty then .ok s else .error (.invalid s.problems)

/-- The settings of a text: `AppConfig::from_toml`. -/
def ofText (text : String) : Except SettingsError Settings :=
  match read text with
  | some s => s.check
  | none => .error .malformed

/-- The settings of the file of a path, `content` being its text if it can be read:
`AppConfig::load`. -/
def load (path : String) (content : Option String) : Except SettingsError Settings :=
  match content with
  | some text => ofText text
  | none => .error (.unreadable path)

end Settings

end PacketTelemetry
