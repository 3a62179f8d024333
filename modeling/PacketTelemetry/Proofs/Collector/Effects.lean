/-
What the operations of a collector put out (`Effect`): messages that go into
the outbound queue, and items that go onto the channels.

That is all an operation does to the queue and to the hubs (`Collector.Emits`),
and it can be told apart from what becomes of the store, the detector and the
roster (`Collector.core`). What is put out by one operation after another is
what each puts out, one after another.

Messages and channels go together: whoever listens to packets or to alerts gets
those there are among the messages (`Collector.Tells`). The roster and the
analytics have no part in that.
-/
import PacketTelemetry.Collector.Inbound
import PacketTelemetry.Proofs.Detector.Watches
import PacketTelemetry.Proofs.Live.Queues

namespace PacketTelemetry

open Json Time

/-! ## Messages and items -/

/-- What is put out. -/
inductive Effect where
  | sent (m : Message)
  | published (ch : Channel) (item : ch.Item)

/-- The message that goes into the queue. -/
def Effect.message? : Effect → Option Message
  | .sent m => some m
  | .published _ _ => none

/-- The item that goes onto a channel. -/
def Effect.itemOn? (ch : Channel) : Effect → Option ch.Item
  | .sent _ => none
  | .published c item => if h : c = ch then some (h ▸ item) else none

/-- The messages among what is put out. -/
def sentIn (es : List Effect) : List Message := es.filterMap (·.message?)

/-- What is put out on a channel. -/
def publishedOn (ch : Channel) (es : List Effect) : List ch.Item := es.filterMap (·.itemOn? ch)

@[simp] theorem sentIn_append (es es' : List Effect) : sentIn (es ++ es') = sentIn es ++ sentIn es' :=
  List.filterMap_append

@[simp] theorem publishedOn_append (ch : Channel) (es es' : List Effect) :
    publishedOn ch (es ++ es') = publishedOn ch es ++ publishedOn ch es' :=
  List.filterMap_append

theorem publishedOn_self (ch : Channel) (item : ch.Item) :
    publishedOn ch [.published ch item] = [item] := by
  simp [publishedOn, Effect.itemOn?]

theorem publishedOn_other {ch ch' : Channel} (h : ch' ≠ ch) (item : ch'.Item) :
    publishedOn ch [.published ch' item] = [] := by
  simp [publishedOn, Effect.itemOn?, h]

/-- The packets among messages. -/
def packetsIn (ms : List Message) : List StoredPacket :=
  ms.filterMap fun | .packet s => some s | _ => none

/-- The alerts among messages. -/
def alertsIn (ms : List Message) : List Alert :=
  ms.filterMap fun | .alert a => some a | _ => none

@[simp] theorem packetsIn_append (ms ms' : List Message) :
    packetsIn (ms ++ ms') = packetsIn ms ++ packetsIn ms' :=
  List.filterMap_append

@[simp] theorem alertsIn_append (ms ms' : List Message) :
    alertsIn (ms ++ ms') = alertsIn ms ++ alertsIn ms' :=
  List.filterMap_append

theorem mem_packetsIn {ms : List Message} {s : StoredPacket} :
    s ∈ packetsIn ms ↔ .packet s ∈ ms := by
  unfold packetsIn
  rw [List.mem_filterMap]
  constructor
  · rintro ⟨m, hm, h⟩
    cases m <;> cases h
    exact hm
  · exact fun hm => ⟨_, hm, rfl⟩

theorem mem_alertsIn {ms : List Message} {a : Alert} : a ∈ alertsIn ms ↔ .alert a ∈ ms := by
  unfold alertsIn
  rw [List.mem_filterMap]
  constructor
  · rintro ⟨m, hm, h⟩
    cases m <;> cases h
    exact hm
  · exact fun hm => ⟨_, hm, rfl⟩

@[simp] theorem packetsIn_alerts (as : List Alert) : packetsIn (as.map .alert) = [] := by
  induction as <;> simp_all [packetsIn]

@[simp] theorem alertsIn_alerts (as : List Alert) : alertsIn (as.map .alert) = as := by
  induction as <;> simp_all [alertsIn]

theorem packetsIn_heartbeats (as : List Agent) : packetsIn (as.map .heartbeat) = [] := by
  induction as <;> simp_all [packetsIn]

theorem alertsIn_heartbeats (as : List Agent) : alertsIn (as.map .heartbeat) = [] := by
  induction as <;> simp_all [alertsIn]

/-- A packet that has been kept is told of, and after it the alerts it raised. -/
def messagesOf (w : Sighting × List Alert) : List Message := .packet w.1.packet :: w.2.map .alert

@[simp] theorem packetsIn_messagesOf (w : Sighting × List Alert) :
    packetsIn (messagesOf w) = [w.1.packet] := by
  have halerts := packetsIn_alerts w.2
  simp_all [messagesOf, packetsIn]

@[simp] theorem alertsIn_messagesOf (w : Sighting × List Alert) : alertsIn (messagesOf w) = w.2 := by
  have halerts := alertsIn_alerts w.2
  simp_all [messagesOf, alertsIn]

/-- What is put out with a packet that has been kept, and with the alerts it raised. -/
def effectsOf (w : Sighting × List Alert) : List Effect :=
  .sent (.packet w.1.packet) :: .published .packets w.1.packet ::
    w.2.flatMap fun a => [.sent (.alert a), .published .alerts a]

/-- What is put out goes with messages: they are those sent, and the packets and alerts among them
those published. -/
structure Matches (es : List Effect) (ms : List Message) : Prop where
  sent : sentIn es = ms
  packets : publishedOn .packets es = packetsIn ms
  alerts : publishedOn .alerts es = alertsIn ms

namespace Matches

theorem nil : Matches [] [] := ⟨rfl, rfl, rfl⟩

theorem append {es es' : List Effect} {ms ms' : List Message} (h : Matches es ms)
    (h' : Matches es' ms') : Matches (es ++ es') (ms ++ ms') := by
  refine ⟨?_, ?_, ?_⟩
  · rw [sentIn_append, h.sent, h'.sent]
  · rw [publishedOn_append, h.packets, h'.packets, packetsIn_append]
    rfl
  · rw [publishedOn_append, h.alerts, h'.alerts, alertsIn_append]
    rfl

/-- What is published beside packets and alerts goes with no message. -/
theorem aside {ch : Channel} (item : ch.Item) (hp : ch ≠ .packets) (ha : ch ≠ .alerts) :
    Matches [.published ch item] [] :=
  ⟨rfl, publishedOn_other hp item, publishedOn_other ha item⟩

theorem effectsOf (w : Sighting × List Alert) : Matches (effectsOf w) (messagesOf w) := by
  have halerts : ∀ alerts : List Alert,
      Matches (alerts.flatMap fun a => [.sent (.alert a), .published .alerts a])
        (alerts.map .alert) := by
    intro alerts
    induction alerts with
    | nil => exact nil
    | cons a alerts ih =>
      have hfirst : Matches [.sent (.alert a), .published .alerts a] [.alert a] := ⟨rfl, rfl, rfl⟩
      exact hfirst.append ih
  have hfirst : Matches [.sent (.packet w.1.packet), .published .packets w.1.packet]
      [.packet w.1.packet] := ⟨rfl, rfl, rfl⟩
  exact hfirst.append (halerts w.2)

theorem watched (ws : List (Sighting × List Alert)) :
    Matches (ws.flatMap PacketTelemetry.effectsOf) (ws.flatMap messagesOf) := by
  induction ws with
  | nil => exact nil
  | cons w ws ih => exact (effectsOf w).append ih

end Matches

/-- Packets, each at its moment. -/
def sightings (now : Nat → Moment) (ss : List StoredPacket) : List Sighting :=
  ss.mapIdx fun i s => ⟨s, now i⟩

@[simp] theorem sightings_packet (now : Nat → Moment) (ss : List StoredPacket) :
    (sightings now ss).map (·.packet) = ss :=
  List.ext_getElem (by simp [sightings]) (by simp [sightings])

namespace Outbound

/-- Messages put into the queue one after another. -/
def sendAll (o : Outbound) (ms : List Message) : Outbound := ms.foldl send o

@[simp] theorem sendAll_nil (o : Outbound) : o.sendAll [] = o := rfl

@[simp] theorem sendAll_append (o : Outbound) (ms ms' : List Message) :
    o.sendAll (ms ++ ms') = (o.sendAll ms).sendAll ms' :=
  List.foldl_append

/-- As long as someone takes them, messages are queued up. -/
theorem sendAll_of_open {o : Outbound} (h : o.isOpen = true) (ms : List Message) :
    o.sendAll ms = ⟨true, o.queue ++ ms⟩ := by
  induction ms generalizing o with
  | nil => cases o; simp_all
  | cons m ms ih =>
    have hsend : o.send m = ⟨true, o.queue ++ [m]⟩ := by simp [send, h]
    rw [sendAll, List.foldl_cons, ← sendAll, hsend, ih rfl]
    simp

/-- Once nobody takes them any more, they are dropped. -/
theorem sendAll_of_closed {o : Outbound} (h : o.isOpen = false) (ms : List Message) :
    o.sendAll ms = o := by
  have hsend : ∀ m, o.send m = o := fun m => by simp [send, h]
  induction ms with
  | nil => rfl
  | cons m ms ih => rw [sendAll, List.foldl_cons, ← sendAll, hsend, ih]

theorem mem_sendAll {o : Outbound} {ms : List Message} {m : Message}
    (hm : m ∈ (o.sendAll ms).queue) : m ∈ ms ∨ m ∈ o.queue := by
  cases ho : o.isOpen with
  | true =>
    rw [sendAll_of_open ho] at hm
    exact (List.mem_append.1 hm).symm
  | false =>
    rw [sendAll_of_closed ho] at hm
    exact .inr hm

end Outbound

namespace Collector

/-! ## The core -/

/-- A collector but for the queue and the channels. -/
def core (c : Collector) : Store × Detector × Roster × Topics × Nat × Zone :=
  (c.store, c.detector, c.roster, c.topics, c.latestLimit, c.zone)

@[simp] theorem raiseAll_core (c : Collector) (alerts : List Alert) :
    (alerts.foldl raise c).core = c.core := by
  induction alerts generalizing c with
  | nil => rfl
  | cons a alerts ih => rw [List.foldl_cons, ih]; rfl

section

variable {c c' : Collector} (h : c'.core = c.core)
include h

theorem store_of_core : c'.store = c.store := congrArg (·.1) h

theorem detector_of_core : c'.detector = c.detector := congrArg (·.2.1) h

theorem roster_of_core : c'.roster = c.roster := congrArg (·.2.2.1) h

theorem topics_of_core : c'.topics = c.topics := congrArg (·.2.2.2.1) h

end

/-! ## What is put out -/

/-- A collector comes of another by putting out. -/
structure Emits (c : Collector) (es : List Effect) (c' : Collector) : Prop where
  outbound : c'.outbound = c.outbound.sendAll (sentIn es)
  hub : ∀ ch, c'.channels.hub ch = (c.channels.hub ch).publishAll (publishedOn ch es)

namespace Emits

variable {c c' c'' : Collector} {es es' : List Effect}

theorem nothing (ho : c'.outbound = c.outbound) (hc : c'.channels = c.channels) : Emits c [] c' :=
  ⟨ho, fun ch => by rw [hc]; rfl⟩

theorem send (c : Collector) (m : Message) : Emits c [.sent m] (c.send m) :=
  ⟨rfl, fun _ => rfl⟩

theorem publish (c : Collector) (ch : Channel) (item : ch.Item) :
    Emits c [.published ch item] (c.publish ch item) := by
  refine ⟨rfl, Channels.forall_hub_setHub (P := fun ch' h =>
    h = (c.channels.hub ch').publishAll (publishedOn ch' [.published ch item])) ?_ fun ch' hne => ?_⟩
  · rw [publishedOn_self, Hub.publishAll_singleton]
  · rw [publishedOn_other hne.symm, Hub.publishAll_nil]

theorem trans (h : Emits c es c') (h' : Emits c' es' c'') : Emits c (es ++ es') c'' := by
  refine ⟨?_, fun ch => ?_⟩
  · rw [h'.outbound, h.outbound, sentIn_append, Outbound.sendAll_append]
  · rw [h'.hub, h.hub, publishedOn_append, Hub.publishAll_append]

theorem raise (c : Collector) (a : Alert) :
    Emits c [.sent (.alert a), .published .alerts a] (c.raise a) :=
  (send c _).trans (publish _ .alerts a)

theorem raiseAll (c : Collector) (alerts : List Alert) :
    Emits c (alerts.flatMap fun a => [.sent (.alert a), .published .alerts a])
      (alerts.foldl Collector.raise c) := by
  induction alerts generalizing c with
  | nil => exact nothing rfl rfl
  | cons a alerts ih => exact (raise c a).trans (ih (c.raise a))

theorem spread (c : Collector) (s : StoredPacket) (now : Moment) :
    Emits c (effectsOf (⟨s, now⟩, (c.detector.process s now).2)) (c.spread s now).1 := by
  have htold : Emits c [.sent (.packet s), .published .packets s]
      ((c.send (.packet s)).publish .packets s) := (send c _).trans (publish _ .packets s)
  have hquiet : Emits ((c.send (.packet s)).publish .packets s) []
      { (c.send (.packet s)).publish .packets s with detector := (c.detector.process s now).1 } :=
    nothing rfl rfl
  exact htold.trans (hquiet.trans (raiseAll _ (c.detector.process s now).2))

theorem heartbeat (c : Collector) (a : Agent) :
    Emits c [.published .agents (c.roster.report a).agents] (c.heartbeat a) := by
  have hquiet : Emits c [] { c with roster := c.roster.report a } := nothing rfl rfl
  exact hquiet.trans (publish _ .agents (c.roster.report a).agents)

end Emits

/-- A collector comes of another by telling messages: they go into the queue, and the packets and
alerts among them onto their channels. -/
def Tells (c : Collector) (ms : List Message) (c' : Collector) : Prop :=
  ∃ es, Emits c es c' ∧ Matches es ms

namespace Tells

variable {c c' c'' : Collector} {ms ms' : List Message}

theorem nothing (ho : c'.outbound = c.outbound) (hc : c'.channels = c.channels) : Tells c [] c' :=
  ⟨[], .nothing ho hc, .nil⟩

theorem refl (c : Collector) : Tells c [] c := nothing rfl rfl

theorem trans (h : Tells c ms c') (h' : Tells c' ms' c'') : Tells c (ms ++ ms') c'' := by
  obtain ⟨es, he, hm⟩ := h
  obtain ⟨es', he', hm'⟩ := h'
  exact ⟨es ++ es', he.trans he', hm.append hm'⟩

/-- What is published beside packets and alerts is no message. -/
theorem aside (c : Collector) (ch : Channel) (item : ch.Item) (hp : ch ≠ .packets)
    (ha : ch ≠ .alerts) : Tells c [] (c.publish ch item) :=
  ⟨_, .publish c ch item, .aside item hp ha⟩

theorem heartbeat (c : Collector) (a : Agent) : Tells c [.heartbeat a] (c.send (.heartbeat a)) :=
  ⟨_, .send c _, ⟨rfl, rfl, rfl⟩⟩

end Tells

/-! ## Packets that have been kept -/

theorem spread_alerts (c : Collector) (s : StoredPacket) (now : Moment) :
    (c.spread s now).2 = (c.detector.process s now).2 := rfl

theorem spread_core (c : Collector) (s : StoredPacket) (now : Moment) :
    (c.spread s now).1.core = { c with detector := (c.detector.process s now).1 }.core := by
  simp only [spread, raiseAll_core]
  rfl

theorem spreadAll_singleton (c : Collector) (now : Nat → Moment) (s : StoredPacket) :
    c.spreadAll now [s] = c.spread s (now 0) :=
  Prod.ext rfl (List.append_nil _)

theorem spreadAll_alerts (c : Collector) (now : Nat → Moment) (ss : List StoredPacket) :
    (c.spreadAll now ss).2 = (c.detector.watched (sightings now ss)).flatMap (·.2) := by
  induction ss generalizing c now with
  | nil => rfl
  | cons s ss ih =>
    have hdetector : (c.spread s (now 0)).1.detector = (c.detector.process s (now 0)).1 :=
      congrArg (·.2.1) (c.spread_core s (now 0))
    simp only [spreadAll, ih, hdetector, spread_alerts, sightings, List.mapIdx_cons,
      Detector.watched, List.flatMap_cons]

theorem spreadAll_core (c : Collector) (now : Nat → Moment) (ss : List StoredPacket) :
    (c.spreadAll now ss).1.core =
      { c with detector := c.detector.after (sightings now ss) }.core := by
  induction ss generalizing c now with
  | nil => rfl
  | cons s ss ih =>
    have hcore := c.spread_core s (now 0)
    simp only [spreadAll, ih]
    simp only [core, sightings, List.mapIdx_cons, Detector.after_cons, Prod.mk.injEq] at hcore ⊢
    obtain ⟨hstore, hdetector, hroster, htopics, hrest⟩ := hcore
    exact ⟨hstore, by rw [hdetector], hroster, htopics, hrest⟩

theorem Emits.spreadAll (c : Collector) (now : Nat → Moment) (ss : List StoredPacket) :
    Emits c ((c.detector.watched (sightings now ss)).flatMap effectsOf) (c.spreadAll now ss).1 := by
  induction ss generalizing c now with
  | nil => exact nothing rfl rfl
  | cons s ss ih =>
    have hdetector : (c.spread s (now 0)).1.detector = (c.detector.process s (now 0)).1 :=
      congrArg (·.2.1) (c.spread_core s (now 0))
    have hrest := ih (c.spread s (now 0)).1 fun n => now (n + 1)
    rw [hdetector] at hrest
    simp only [sightings, List.mapIdx_cons, Detector.watched, List.flatMap_cons]
    exact (spread c s (now 0)).trans hrest

theorem Tells.spreadAll (c : Collector) (now : Nat → Moment) (ss : List StoredPacket) :
    Tells c ((c.detector.watched (sightings now ss)).flatMap messagesOf) (c.spreadAll now ss).1 :=
  ⟨_, .spreadAll c now ss, .watched _⟩

/-! ## What comes in from agents and from the broker -/

/-- A roster that is published is no message. -/
theorem Tells.roster (c : Collector) (a : Agent) : Tells c [] (c.heartbeat a) :=
  ⟨_, .heartbeat c a, .aside _ (by decide) (by decide)⟩

theorem Tells.directHeartbeat (c : Collector) (a : Agent) :
    Tells c [.heartbeat a] (c.directHeartbeat a) :=
  (roster c a).trans (heartbeat _ a)

theorem Tells.relay {c c' : Collector} {topic : String} {payload : Value}
    (h : c.relay topic payload = some c') : Tells c [] c' := by
  obtain ⟨a, -, rfl⟩ := Option.map_eq_some_iff.1 h
  exact aside c (.analytics a) payload (by simp) (by simp)

/-- A line of a datagram is a heartbeat, or goes onto a channel of analytics, or does nothing. -/
theorem routeLine_cases (c : Collector) (line : Except Fault Envelope) :
    (∃ a, (c.routeLine line).1 = c.heartbeat a) ∨
      (∃ a payload, (c.routeLine line).1 = c.publish (.analytics a) payload) ∨
      (c.routeLine line).1 = c := by
  unfold routeLine
  split
  · exact .inr (.inr rfl)
  · split
    · exact .inr (.inr rfl)
    · next c' routed h =>
      unfold route at h
      split at h
      · split at h
        · cases h
        · cases h
          exact .inl ⟨_, rfl⟩
      · split at h
        · cases h
          exact .inr (.inl ⟨_, _, rfl⟩)
        · cases h
          exact .inr (.inr rfl)

/-- A datagram tells nothing, and neither the store nor the detector sees it. -/
theorem routeLines_aside (c : Collector) (lines : List (Except Fault Envelope)) :
    Tells c [] (c.routeLines lines).1 ∧ (c.routeLines lines).1.store = c.store ∧
      (c.routeLines lines).1.detector = c.detector := by
  induction lines generalizing c with
  | nil => exact ⟨.refl c, rfl, rfl⟩
  | cons line lines ih =>
    obtain ⟨hrest, hstore, hdetector⟩ := ih (c.routeLine line).1
    show Tells c [] ((c.routeLine line).1.routeLines lines).1 ∧
      ((c.routeLine line).1.routeLines lines).1.store = c.store ∧
      ((c.routeLine line).1.routeLines lines).1.detector = c.detector
    rw [hstore, hdetector]
    rcases c.routeLine_cases line with ⟨a, h⟩ | ⟨a, payload, h⟩ | h <;> rw [h] at hrest ⊢
    · exact ⟨(Tells.roster c a).trans hrest, rfl, rfl⟩
    · exact ⟨(Tells.aside c (.analytics a) payload (by simp) (by simp)).trans hrest, rfl, rfl⟩
    · exact ⟨hrest, rfl, rfl⟩

end Collector

end PacketTelemetry
