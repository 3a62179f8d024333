/-
What the operator reads: messages, alerts and counts.

A message begins with the time, by the clocks of the place, and a badge, and its parts are
separated by single spaces. An alert stands between two lines, in the colour of its kind.
-/
import PacketTelemetry.Collector.Basic
import PacketTelemetry.Console.Style
import PacketTelemetry.Time.Rfc3339

namespace PacketTelemetry.Console

open Style Time

/-- The width of what is printed. -/
def width : Nat := 100

/-- A character as often as it takes. -/
def repeated (n : Nat) (c : Char) : String := String.ofList (List.replicate n c)

/-- The time in brackets, by the clocks of a place: `timestamp`. -/
def clock (z : Zone) (t : Instant) : String := "[" ++ t.toClock z ++ "]"

/-- Parts separated by spaces, and the end of the line. -/
def line (parts : List String) : String := String.intercalate " " parts ++ "\n"

/-- The kinds of messages. -/
inductive Level where
  | info
  | warning
  | error
deriving DecidableEq, Repr

/-- The badge of a kind of message. -/
def Level.badge (colours : Bool) : Level → String
  | .info => paint colours (Style.badge .green .black) " INFO "
  | .warning => paint colours (Style.badge .yellow .black) " WARN "
  | .error => paint colours (Style.badge .red .white) " ERR  "

/-- The colour of a kind of message. -/
def Level.colour : Level → Colour
  | .info => .white
  | .warning => .yellow
  | .error => .red

/-- A message: `log_info`, `log_warning` and `log_error`. -/
def message (colours : Bool) (z : Zone) (level : Level) (now : Instant) (text : String) : String :=
  line [
    paint colours (bold .white) (clock z now),
    level.badge colours,
    paint colours (plain level.colour) text]

/-- A dimmed line across: `print_separator`. -/
def separator (colours : Bool) : String := paint colours dim (repeated width '─') ++ "\n"

/-- The colour of a kind of alert. -/
def alertColour : AlertKind → Colour
  | .portScan => .red
  | .trafficSpike => .yellow

/-- The badge of a kind of alert. -/
def alertBadge : AlertKind → Style
  | .portScan => badge .red .white
  | .trafficSpike => badge .yellow .black

/-- What a kind of alert is called. -/
def alertLabel : AlertKind → String
  | .portScan => "[PORT SCAN]"
  | .trafficSpike => "[TRAFFIC SPIKE]"

/-- What a kind of alert counts. -/
def alertUnit : AlertKind → String
  | .portScan => "porturi distincte"
  | .trafficSpike => "pachete in fereastra"

/-- An alert, between its two lines: `log_alert`. -/
def alert (colours : Bool) (z : Zone) (a : Alert) : String :=
  let colour := alertColour a.kind
  let across := paint colours (plain colour) (repeated width '─') ++ "\n"
  let text := line [
    paint colours (bold .white) (clock z a.detectedAt),
    paint colours (bold colour) "▶▶▶",
    paint colours (alertBadge a.kind) " ALERT ",
    alertLabel a.kind,
    paint colours (bold colour) ("[IP: " ++ a.srcIp ++ "]"),
    "|",
    paint colours (bold colour) (toString a.count ++ " " ++ alertUnit a.kind)]
  across ++ text ++ across

/-- How a collector is doing, in one line: `log_stats`. -/
def stats (colours : Bool) (z : Zone) (now : Instant) (s : Collector.Stats) : String :=
  let number (c : Colour) (n : Nat) := paint colours (bold c) (toString n)
  line [
    paint colours dim (clock z now),
    paint colours (badge .cyan .black) " STAT ",
    number .white s.trackedIps, "IP-uri urmarite |",
    number .white s.agents, "agenti |",
    number .white s.packets, "inregistrari |",
    number .white s.listeners, "abonati live |",
    number .yellow s.warnings, "avertismente abonat lent"]

end PacketTelemetry.Console
