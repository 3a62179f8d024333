/-
Alerts, and how they are written in JSON.

An alert names an address and counts what raised it. The count stands under a name that
depends on the kind of the alert, so an alert is read only once its kind is known: members of
other names are ignored, the count of the other kind among them.
-/
import PacketTelemetry.Json.Form
import PacketTelemetry.Time.Instant

namespace PacketTelemetry

open Json Time

/-- What an alert is about. -/
inductive AlertKind where
  /-- One address has tried many ports. -/
  | portScan
  /-- One address has sent many packets in a short time. -/
  | trafficSpike
deriving DecidableEq, Repr

/-- The name of a kind. -/
def AlertKind.name : AlertKind → String
  | .portScan => "PORT_SCAN"
  | .trafficSpike => "TRAFFIC_SPIKE"

/-- The name under which a kind of alert writes its count. -/
def AlertKind.countName : AlertKind → String
  | .portScan => "uniquePortsCount"
  | .trafficSpike => "packetCountLast10s"

/-- The kind of a name. -/
def AlertKind.ofName? (name : String) : Option AlertKind :=
  [AlertKind.portScan, .trafficSpike].find? (·.name = name)

/-- An alert about one address. -/
structure Alert where
  kind : AlertKind
  /-- The ports or packets that raised it. -/
  count : Nat
  message : String
  srcIp : String
  detectedAt : Instant
deriving DecidableEq, Repr

/-- Instants as milliseconds. -/
def millisForm : Form Instant where
  write t := .ofInt t.toMillis
  read levels s := do
    let (ms, rest) ← Form.int64.read levels s
    match Instant.ofMillis? ms.toInt with
    | some t => .ok (t, rest)
    | none => .error .mismatch
  take v := do
    let ms ← Form.int64.take v
    match Instant.ofMillis? ms.toInt with
    | some t => .ok t
    | none => .error (.outOfRange ms.toInt "a time in milliseconds")

/-- The kind a value stands for: its name, or its number. -/
def AlertKind.take : Value → Except Mismatch AlertKind
  | .text name =>
    match AlertKind.ofName? name with
    | some kind => .ok kind
    | none => .error (.wrongType (.text name) "a kind of alert")
  | .number (.integer 0) => .ok .portScan
  | .number (.integer 1) => .ok .trafficSpike
  | v => .error (.wrongType v "a kind of alert")

/-- The one value of a name. -/
def takeOne (name : String) (ms : Members) : Except Mismatch Value :=
  match ms.filter (·.1 = name) with
  | [] => .error (.missing name)
  | [m] => .ok m.2
  | _ => .error (.repeated name)

/-- How an alert is written and read. -/
def Alert.record : OpenRecord Alert Alert where
  expected := "an alert"
  blank := ⟨.portScan, 0, "", "", ⟨0, 0⟩⟩
  members := [
    Form.text.needed "message" (·.message) fun a v => { a with message := v },
    Form.text.needed "srcIp" (·.srcIp) fun a v => { a with srcIp := v },
    millisForm.needed "detectedAt" (·.detectedAt) fun a v => { a with detectedAt := v }]
  finish a others := do
    let kind ← AlertKind.take (← takeOne "type" others)
    let count ← Form.nat64.take (← takeOne kind.countName others)
    .ok { a with kind, count }
  write a := [
    ("type", .text a.kind.name),
    (a.kind.countName, .ofNat a.count),
    ("message", .text a.message),
    ("srcIp", .text a.srcIp),
    ("detectedAt", millisForm.write a.detectedAt)]

/-- The form of an alert. -/
def Alert.form : Form Alert := Alert.record.form

end PacketTelemetry
