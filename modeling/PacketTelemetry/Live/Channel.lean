/-
The channels on which one can listen.

There is one for stored packets, one for the roster of agents, one for alerts, and four for
analytics (`AnalyticsChannel`), whose payloads pass through as they came. `Item c` is what a
channel carries, and `Channels` (`LiveChannels`) has a hub for each.
-/
import PacketTelemetry.Detector.Alert
import PacketTelemetry.Live.Hub
import PacketTelemetry.Packet.Stored
import PacketTelemetry.Roster.Agent

namespace PacketTelemetry

open Json Time

/-- The kinds of analytics that pass through. -/
inductive Analytics where
  | topTalkers
  | topPorts
  | protocolStats
  | rawPackets
deriving DecidableEq, Repr

namespace Analytics

/-- The name of the channel. -/
def name : Analytics → String
  | topTalkers => "topTalkers"
  | topPorts => "topPorts"
  | protocolStats => "protocolStats"
  | rawPackets => "rawPackets"

/-- All kinds. -/
def all : List Analytics := [topTalkers, topPorts, protocolStats, rawPackets]

/-- The kind of a name: `AnalyticsChannel::from_name`. -/
def ofName? (name : String) : Option Analytics := all.find? (·.name = name)

end Analytics

/-- A channel. -/
inductive Channel where
  | packets
  | agents
  | alerts
  | analytics (a : Analytics)
deriving DecidableEq, Repr

namespace Channel

/-- The name of a channel. -/
def name : Channel → String
  | packets => "packets"
  | agents => "agents"
  | alerts => "alerts"
  | analytics a => a.name

/-- All channels. -/
def all : List Channel := [packets, agents, alerts] ++ Analytics.all.map analytics

/-- The channel of a name. -/
def ofName? (name : String) : Option Channel := all.find? (·.name = name)

/-- What a channel carries. -/
def Item : Channel → Type
  | packets => StoredPacket
  | agents => List Agent
  | alerts => Alert
  | analytics _ => Value

/-- How the items of a channel are written where the clocks of a place count. -/
def form (z : Zone) : (c : Channel) → Form c.Item
  | packets => StoredPacket.form z
  | agents => Agent.form.list
  | alerts => Alert.form
  | analytics _ => Form.any

end Channel

/-- A hub for each channel. -/
structure Channels where
  packets : Hub StoredPacket
  agents : Hub (List Agent)
  alerts : Hub Alert
  topTalkers : Hub Value
  topPorts : Hub Value
  protocolStats : Hub Value
  rawPackets : Hub Value

namespace Channels

/-- Channels to which nobody listens yet. -/
def new (mark : Nat) : Channels :=
  ⟨.new mark, .new mark, .new mark, .new mark, .new mark, .new mark, .new mark⟩

/-- The hub of a channel. -/
def hub (cs : Channels) : (c : Channel) → Hub c.Item
  | .packets => cs.packets
  | .agents => cs.agents
  | .alerts => cs.alerts
  | .analytics .topTalkers => cs.topTalkers
  | .analytics .topPorts => cs.topPorts
  | .analytics .protocolStats => cs.protocolStats
  | .analytics .rawPackets => cs.rawPackets

/-- The channels with another hub for one of them. -/
def setHub (cs : Channels) : (c : Channel) → Hub c.Item → Channels
  | .packets, h => { cs with packets := h }
  | .agents, h => { cs with agents := h }
  | .alerts, h => { cs with alerts := h }
  | .analytics .topTalkers, h => { cs with topTalkers := h }
  | .analytics .topPorts, h => { cs with topPorts := h }
  | .analytics .protocolStats, h => { cs with protocolStats := h }
  | .analytics .rawPackets, h => { cs with rawPackets := h }

/-- Publishes an item on a channel. -/
def publish (cs : Channels) (c : Channel) (item : c.Item) : Channels :=
  cs.setHub c ((cs.hub c).publish item).1

/-- The channels with one more subscriber, and its number on its channel. -/
def subscribe (cs : Channels) (c : Channel) : Channels × Nat :=
  let (h, id) := (cs.hub c).subscribe
  (cs.setHub c h, id)

/-- A subscriber of a channel leaves. -/
def leave (cs : Channels) (c : Channel) (id : Nat) : Channels :=
  cs.setHub c ((cs.hub c).leave id)

/-- A subscriber of a channel takes up to `count` items. -/
def receive (cs : Channels) (c : Channel) (id count : Nat) :
    Channels × List c.Item × Option (Receipt c.Item) :=
  let (h, items, last) := Hub.receiveMany count (cs.hub c) id
  (cs.setHub c h, items, last)

/-- All who listen, on any channel: `LiveChannels::subscriber_count`. -/
def listenerCount (cs : Channels) : Nat :=
  Channel.all.foldr (fun c n => (cs.hub c).listenerCount + n) 0

/-- All warnings, on any channel: `LiveChannels::slow_warnings`. -/
def warnings (cs : Channels) : Nat :=
  Channel.all.foldr (fun c n => (cs.hub c).warnings + n) 0

@[simp] theorem hub_setHub (cs : Channels) (c : Channel) (h : Hub c.Item) :
    (cs.setHub c h).hub c = h := by
  rcases c with _ | _ | _ | a
  · rfl
  · rfl
  · rfl
  · cases a <;> rfl

@[simp] theorem setHub_setHub (cs : Channels) (c : Channel) (h h' : Hub c.Item) :
    (cs.setHub c h).setHub c h' = cs.setHub c h' := by
  rcases c with _ | _ | _ | a
  · rfl
  · rfl
  · rfl
  · cases a <;> rfl

theorem hub_setHub_of_ne (cs : Channels) {c c' : Channel} (h : Hub c.Item) (hne : c' ≠ c) :
    (cs.setHub c h).hub c' = cs.hub c' := by
  rcases c with _ | _ | _ | a <;> rcases c' with _ | _ | _ | a' <;>
    first
    | exact absurd rfl hne
    | (try cases a) <;> (try cases a') <;> first | exact absurd rfl hne | rfl

/-- What is true of a new hub, and of all others, is true of them all. -/
theorem forall_hub_setHub {P : ∀ c : Channel, Hub c.Item → Prop} {cs : Channels} {c : Channel}
    {h : Hub c.Item} (hnew : P c h) (hothers : ∀ c' ≠ c, P c' (cs.hub c')) (c' : Channel) :
    P c' ((cs.setHub c h).hub c') := by
  by_cases heq : c' = c
  · subst heq
    rw [cs.hub_setHub]
    exact hnew
  · rw [cs.hub_setHub_of_ne h heq]
    exact hothers c' heq

end Channels

end PacketTelemetry
