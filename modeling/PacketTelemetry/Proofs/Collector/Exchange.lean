/-
One collector sends, another receives: what becomes of the messages
(`Collector.exchange_messages`).

Settings that are valid give every kind of message a topic of its own
(`topicProblems_eq_nil`), so that packets and alerts go nowhere when they come
in and heartbeats go to the roster and nowhere else. No message brings forth
another one, and so none travels in a circle.
-/
import PacketTelemetry.Collector.Inbound
import PacketTelemetry.Proofs.Broker.Messages
import PacketTelemetry.Proofs.Settings.Problems

namespace PacketTelemetry

open Time

/-! ## Topics -/

namespace Topics

/-- Topics by which what comes in can be told apart. -/
def Valid (t : Topics) : Prop := topicProblems [] t.entries = []

instance (t : Topics) : Decidable t.Valid := inferInstanceAs (Decidable (_ = _))

variable {t : Topics}

theorem Valid.nodup (h : t.Valid) : (t.entries.map (·.2)).Nodup := (topicProblems_eq_nil.1 h).2

/-- The three topics that are sent on differ from each other and from those of analytics. -/
theorem Valid.distinct (h : t.Valid) :
    t.packets ≠ t.heartbeats ∧ t.alerts ≠ t.heartbeats ∧
      ∀ a, t.ofAnalytics a ∉ [t.packets, t.alerts, t.heartbeats] := by
  have hnodup := h.nodup
  simp only [entries, List.map_cons, List.map_nil, List.nodup_cons, List.mem_cons, List.not_mem_nil,
    or_false, not_or] at hnodup
  obtain ⟨⟨-, hpackets, hpackets'⟩, ⟨halerts, halerts'⟩, hheartbeats, -⟩ := hnodup
  refine ⟨hpackets, halerts, fun a => ?_⟩
  cases a <;> simp only [ofAnalytics, List.mem_cons, List.not_mem_nil, or_false, not_or] <;> grind

/-- Nothing is sent on a topic of analytics. -/
theorem Valid.analyticsOf?_topic (h : t.Valid) (m : Message) :
    t.analyticsOf? (m.topic t) = none := by
  have hsent : m.topic t ∈ [t.packets, t.alerts, t.heartbeats] := by
    cases m <;> simp [Message.topic]
  rw [analyticsOf?, List.find?_eq_none]
  intro a _ heq
  exact h.distinct.2.2 a (of_decide_eq_true heq ▸ hsent)

end Topics

namespace Collector

/-! ## Messages that come in -/

/-- Where a message goes that comes in. -/
def routeOf : Message → Routed
  | .packet _ => .ignored
  | .alert _ => .ignored
  | .heartbeat a => .heartbeat a.id

/-- What a message changes that comes in. -/
def afterMessage (c : Collector) : Message → Collector
  | .packet _ => c
  | .alert _ => c
  | .heartbeat a => c.heartbeat a

/-- Messages sent under some topics, their packets dated by the clocks of a place, come in one after
another, each as a datagram of its own. Gives what became of their lines. -/
def receiveMessages (c : Collector) (z : Zone) (t : Topics) :
    List Message → Collector × List LineOutcome
  | [] => (c, [])
  | m :: ms =>
    let (c, first) := c.routeDatagram (Text.Utf8.lossy (m.envelope z t).octets)
    let (c, later) := c.receiveMessages z t ms
    (c, first ++ later)

/-- The envelope of a message goes where the message goes. -/
theorem route_envelope {c : Collector} (hv : c.topics.Valid) (z : Zone) (m : Message) :
    c.route (m.envelope z c.topics) = .ok (c.afterMessage m, routeOf m) := by
  obtain ⟨hpackets, halerts, -⟩ := hv.distinct
  have hanalytics : c.topics.analyticsOf? (m.envelope z c.topics).topic = none :=
    hv.analyticsOf?_topic m
  unfold route
  cases m with
  | packet s =>
    have htopic : ((Message.packet s).envelope z c.topics).topic ≠ c.topics.heartbeats := hpackets
    rw [if_neg htopic, hanalytics]
    rfl
  | alert a =>
    have htopic : ((Message.alert a).envelope z c.topics).topic ≠ c.topics.heartbeats := halerts
    rw [if_neg htopic, hanalytics]
    rfl
  | heartbeat a =>
    have htopic : ((Message.heartbeat a).envelope z c.topics).topic = c.topics.heartbeats := rfl
    have htaken : Agent.form.take ((Message.heartbeat a).envelope z c.topics).payload = .ok a :=
      a.take_payload z
    rw [if_pos htopic, htaken]
    rfl

/-- One message comes in. -/
theorem routeDatagram_message {c : Collector} (hv : c.topics.Valid) {m : Message} (hm : m.Whole)
    (z : Zone) :
    c.routeDatagram (Text.Utf8.lossy (m.envelope z c.topics).octets) =
      (c.afterMessage m, [.routed (routeOf m)]) := by
  have hread := Envelope.ofDatagram_octets (List.forall_mem_singleton.2 (m.sendable hm z c.topics))
  rw [List.flatMap_singleton] at hread
  rw [routeDatagram, hread]
  simp only [List.map_singleton, routeLines, routeLine, route_envelope hv]

theorem afterMessage_topics (c : Collector) (m : Message) :
    (c.afterMessage m).topics = c.topics := by
  cases m <;> rfl

theorem receiveMessages_eq {c : Collector} (hv : c.topics.Valid) {ms : List Message}
    (hms : ∀ m ∈ ms, m.Whole) (z : Zone) :
    c.receiveMessages z c.topics ms =
      (ms.foldl afterMessage c, ms.map fun m => .routed (routeOf m)) := by
  induction ms generalizing c with
  | nil => rfl
  | cons m ms ih =>
    obtain ⟨hm, hlater⟩ := List.forall_mem_cons.1 hms
    have htopics := c.afterMessage_topics m
    have hrest := ih (htopics ▸ hv) hlater
    rw [htopics] at hrest
    simp only [receiveMessages, routeDatagram_message hv hm, hrest]
    rfl

/-- What a message that comes in never changes. -/
structure Untouched (c c' : Collector) : Prop where
  outbound : c'.outbound = c.outbound
  hub : ∀ ch, ch ≠ .agents → c'.channels.hub ch = c.channels.hub ch
  store : c'.store = c.store
  detector : c'.detector = c.detector

theorem untouched_afterMessage (c : Collector) (m : Message) : Untouched c (c.afterMessage m) := by
  cases m with
  | packet s => exact ⟨rfl, fun _ _ => rfl, rfl, rfl⟩
  | alert a => exact ⟨rfl, fun _ _ => rfl, rfl, rfl⟩
  | heartbeat a => exact ⟨rfl, fun _ hne => c.channels.hub_setHub_of_ne _ hne, rfl, rfl⟩

theorem untouched_afterMessages (c : Collector) (ms : List Message) :
    Untouched c (ms.foldl afterMessage c) := by
  induction ms generalizing c with
  | nil => exact ⟨rfl, fun _ _ => rfl, rfl, rfl⟩
  | cons m ms ih =>
    have hfirst := c.untouched_afterMessage m
    have hrest := ih (c.afterMessage m)
    exact ⟨hrest.outbound.trans hfirst.outbound,
      fun ch hne => (hrest.hub ch hne).trans (hfirst.hub ch hne), hrest.store.trans hfirst.store,
      hrest.detector.trans hfirst.detector⟩

/-- **From one collector to another.** Under valid topics each message is read again as the envelope
in which it was sent, with its address or its agent for a key. Packets and alerts change nothing
where they come in. Heartbeats come to what the same reports come to, one after another. Nothing
is sent on, and nothing put on a channel other than that of the agents. -/
theorem exchange_messages {c : Collector} (hv : c.topics.Valid) {ms : List Message}
    (hms : ∀ m ∈ ms, m.Whole) (z : Zone) :
    (∀ m ∈ ms, Envelope.ofDatagram (Text.Utf8.lossy (m.envelope z c.topics).octets) =
        [.ok (m.envelope z c.topics)] ∧
      (m.envelope z c.topics).key = match m with
        | .packet s => s.packet.srcIp
        | .alert a => some a.srcIp
        | .heartbeat a => some a.id) ∧
    c.receiveMessages z c.topics ms =
      (ms.foldl afterMessage c, ms.map fun m => .routed (routeOf m)) ∧
    Untouched c (c.receiveMessages z c.topics ms).1 := by
  have hreceived := receiveMessages_eq hv hms z
  refine ⟨fun m hm => ⟨?_, ?_⟩, hreceived, ?_⟩
  · have hread :=
      Envelope.ofDatagram_octets (List.forall_mem_singleton.2 (m.sendable (hms m hm) z c.topics))
    rwa [List.flatMap_singleton] at hread
  · cases m <;> rfl
  · rw [hreceived]
    exact untouched_afterMessages c ms

/-- A packet without an address, an alert and a heartbeat, in that order. -/
theorem exchange_messages_of_three :
    ∃ c p a h, c = new ⟨.memory (.new 0), .standard, .standard, 1000, 100, .utc⟩ ∧
      p = StoredPacket.mk (-1) ⟨0, 0⟩ { Packet.blank with payload := some "\n" } ∧
      a = ⟨.portScan, 18446744073709551615, "", "10.0.0.1", ⟨-1, 0⟩⟩ ∧
      h = ⟨"a\"", none, some "", none, none⟩ ∧
      c.receiveMessages .utc c.topics [.packet p, .alert a, .heartbeat h] =
        (c.heartbeat h, [.routed .ignored, .routed .ignored, .routed (.heartbeat "a\"")]) := by
  refine ⟨_, _, _, _, rfl, rfl, rfl, rfl, (exchange_messages (by decide +kernel) ?_ .utc).2.1⟩
  refine List.forall_mem_cons.2 ⟨trivial, List.forall_mem_cons.2 ⟨?_,
    List.forall_mem_singleton.2 trivial⟩⟩
  exact ⟨by decide, by decide⟩

end Collector

end PacketTelemetry
