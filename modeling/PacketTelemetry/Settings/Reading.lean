/-
Settings read from a configuration text, the first half of `AppConfig::from_toml`.

A section is a table, or an array of its members in order. Members that may be left out keep the
values they have then, and what no member is called is passed over.
-/
import PacketTelemetry.Settings.Basic
import PacketTelemetry.Toml.Document

namespace PacketTelemetry

open Toml (Value Entries)

/-- A member of a section: how the section is changed by its value. -/
structure Setting (σ : Type) where
  name : String
  required : Bool
  take : σ → Value → Option σ

/-- A member read by `take`, with the place in the section where it stands. -/
def Setting.of {α σ : Type} (take : Value → Option α) (name : String) (required : Bool)
    (set : σ → α → σ) : Setting σ where
  name
  required
  take x v := (take v).map (set x)

/-- Takes the members of a section out of a table. -/
def takeEntries {σ : Type} : List (Setting σ) → σ → Entries → Option σ
  | [], x, _ => some x
  | m :: ms, x, es =>
    match es.get? m.name with
    | some v => do takeEntries ms (← m.take x v) es
    | none => if m.required then none else takeEntries ms x es

/-- Takes the members of a section out of an array, in order. -/
def takeInOrder {σ : Type} : List (Setting σ) → σ → List Value → Option σ
  | [], x, _ => some x
  | m :: ms, x, v :: vs => do takeInOrder ms (← m.take x v) vs
  | m :: ms, x, [] => if m.required then none else takeInOrder ms x []

/-- Takes a section. A date counts as a table that holds no member. -/
def takeSection {σ : Type} (members : List (Setting σ)) (blank : σ) : Value → Option σ
  | .table _ es => takeEntries members blank es
  | .array vs => takeInOrder members blank vs
  | .tables elements => takeInOrder members blank (elements.map (.table .header))
  | .date => takeEntries members blank []
  | _ => none

/-- A text. -/
def takeText : Value → Option String
  | .text s => some s
  | _ => none

/-- Yes or no. -/
def takeBool : Value → Option Bool
  | .boolean b => some b
  | _ => none

/-- A whole number from zero up to a bound. -/
def takeNat (bound : Nat) : Value → Option Nat
  | .integer n => if 0 ≤ n ∧ n < bound then some n.toNat else none
  | _ => none

/-- A count. -/
def takeCount : Value → Option Nat := takeNat (Decimal.twoTo 64)

/-- The number of a port. -/
def takePort : Value → Option Nat := takeNat (Decimal.twoTo 16)

/-! ## Sections -/

/-- The members of the server's section. -/
def ServerSettings.members : List (Setting ServerSettings) := [
  .of takeText "listen_address" true fun s v => { s with address := v },
  .of takePort "listen_port" true fun s v => { s with port := v },
  .of takeCount "latest_limit" false fun s v => { s with latestLimit := v }]

/-- The topics by their names in the section. -/
def Topics.members : List (Setting Topics) := [
  .of takeText "packets" false fun t v => { t with packets := v },
  .of takeText "alerts" false fun t v => { t with alerts := v },
  .of takeText "heartbeats" false fun t v => { t with heartbeats := v },
  .of takeText "top_talkers" false fun t v => { t with topTalkers := v },
  .of takeText "top_ports" false fun t v => { t with topPorts := v },
  .of takeText "protocol_stats" false fun t v => { t with protocolStats := v },
  .of takeText "raw_packets" false fun t v => { t with rawPackets := v }]

/-- The members of the broker's section. -/
def BrokerSettings.members : List (Setting BrokerSettings) := [
  .of takeBool "enabled" true fun b v => { b with enabled := v },
  .of takeText "listen_address" true fun b v => { b with listenAddress := v },
  .of takePort "listen_port" true fun b v => { b with listenPort := v },
  .of takeText "host" true fun b v => { b with host := v },
  .of takePort "port" true fun b v => { b with port := v },
  .of (takeSection Topics.members .standard) "topics" false fun b v => { b with topics := v }]

/-- The members of the section on detection. -/
def Limits.members : List (Setting Limits) := [
  .of takeCount "port_scan_threshold" false fun l v => { l with ports := v },
  .of takeCount "spike_threshold" false fun l v => { l with arrivals := v },
  .of takeCount "spike_window_secs" false fun l v => { l with windowSeconds := v }]

/-- A section of one count. -/
def takeSingle (name : String) (standard : Nat) : Value → Option Nat :=
  takeSection [.of takeCount name false fun _ v => v] standard

/-- A server of which nothing is known yet. -/
def ServerSettings.blank : ServerSettings := ⟨"", 0, Settings.standardLatestLimit⟩

/-- A broker of which nothing is known yet. -/
def BrokerSettings.blank : BrokerSettings := ⟨false, "", 0, "", 0, .standard⟩

namespace Settings

/-- Settings of which nothing is known yet. -/
def blank : Settings where
  server := .blank
  broker := .blank
  detection := .standard
  highWaterMark := standardHighWaterMark
  maxRecords := 0
  statsInterval := standardStatsInterval

/-- The sections. -/
def members : List (Setting Settings) := [
  .of (takeSection ServerSettings.members .blank) "server" true
    fun s v => { s with server := v },
  .of (takeSection BrokerSettings.members .blank) "broker" true
    fun s v => { s with broker := v },
  .of (takeSection Limits.members .standard) "detection" false
    fun s v => { s with detection := v },
  .of (takeSingle "high_water_mark" standardHighWaterMark) "broadcast" false
    fun s v => { s with highWaterMark := v },
  .of (takeSingle "max_records" 0) "store" false
    fun s v => { s with maxRecords := v },
  .of (takeSingle "interval_secs" standardStatsInterval) "stats" false
    fun s v => { s with statsInterval := v }]

/-- The settings a text says, if it says any. -/
def read (text : String) : Option Settings := do
  takeSection members blank (← Toml.parse text)

end Settings

end PacketTelemetry
