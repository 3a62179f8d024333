/-
What a step of a collector can be, if it does not only observe
(`Collector.Moves`): packets are taken in, one or a batch, or an agent reports
in, directly or not, or lines of a datagram go where their topics say, or
analytics are passed on, or nothing happens.

Beside packets, there come in heartbeats and analytics (`Incoming`). Which of
them a step brings can be told from the step alone, once the topics are known
(`Act.incoming`); which packets, and which alerts are printed, from what is seen
of it.
-/
import PacketTelemetry.Proofs.Collector.Ledger
import PacketTelemetry.Proofs.Collector.Observers

namespace PacketTelemetry

open Json Http

/-! ## What comes in -/

/-- What comes in beside packets. -/
inductive Incoming where
  | heartbeat (a : Agent)
  | analytics (a : Analytics) (payload : Value)

/-- The agents that report in. -/
def heartbeatsIn (ins : List Incoming) : List Agent :=
  ins.filterMap fun | .heartbeat a => some a | _ => none

/-- The payloads that come for a channel of analytics. -/
def payloadsIn (a : Analytics) (ins : List Incoming) : List Value :=
  ins.filterMap fun
    | .analytics b payload => if b = a then some payload else none
    | _ => none

@[simp] theorem heartbeatsIn_append (ins ins' : List Incoming) :
    heartbeatsIn (ins ++ ins') = heartbeatsIn ins ++ heartbeatsIn ins' :=
  List.filterMap_append

@[simp] theorem payloadsIn_append (a : Analytics) (ins ins' : List Incoming) :
    payloadsIn a (ins ++ ins') = payloadsIn a ins ++ payloadsIn a ins' :=
  List.filterMap_append

namespace Topics

/-- What an envelope brings. -/
def incoming? (t : Topics) (e : Envelope) : Option Incoming :=
  if e.topic = t.heartbeats then (Agent.form.take e.payload).toOption.map .heartbeat
  else (t.analyticsOf? e.topic).map fun a => .analytics a e.payload

/-- What the lines of a datagram bring. -/
def incoming (t : Topics) (lines : List (Except Fault Envelope)) : List Incoming :=
  lines.filterMap fun line => line.toOption.bind t.incoming?

end Topics

/-- What a request brings. -/
def Http.Request.incoming (r : Request) : List Incoming :=
  match r.tidings? with
  | some (.heartbeat a) => [.heartbeat a]
  | _ => []

/-- What a step brings. -/
def Act.incoming (t : Topics) : Act → List Incoming
  | .request r _ => r.incoming
  | .datagram data => t.incoming (Envelope.ofDatagram data)
  | .relay topic payload => ((t.analyticsOf? topic).map fun a => .analytics a payload).toList
  | .heartbeat a => [.heartbeat a]
  | _ => []

/-- A stream is opened by a request that tells nothing. -/
theorem Http.Request.tidings?_of_stream {r : Request} (h : r.stream?.isSome) : r.tidings? = none := by
  have hm : r.method ≠ "POST" := by
    intro hm
    simp [Request.stream?, hm] at h
  simp [Request.tidings?, hm]

theorem Act.incoming_observer {act : Act} (ha : act.observes = true) (t : Topics) :
    act.incoming t = [] := by
  cases act with
  | request r now => simp [Act.incoming, Request.incoming, Request.tidings?_of_stream ha]
  | subscribe _ | read _ _ _ | leave _ _ | take _ | close | stats => rfl
  | _ => cases ha

namespace Collector

/-! ## One step -/

/-- What a step does, with the packets it brings, what it brings beside them, and the alerts that
are printed. -/
inductive Moves (c : Collector) :
    List (Packet × Moment) → List Incoming → List Alert → Collector → Prop
  | nothing : Moves c [] [] [] c
  | packet {p : Packet} {now : Moment} {s : StoredPacket} {alerts : List Alert} {c' : Collector}
    (h : c.ingest p now = .ok (c', s, alerts)) : Moves c [(p.normalize, now)] [] alerts c'
  | batch {b : Batch} {now : Nat → Moment} {k : Nat} {alerts : List Alert} {c' : Collector}
    (h : c.ingestBatch b now = .ok (c', k, alerts)) :
    Moves c ((b.normalize.getD []).mapIdx fun i p => (p, now i)) [] alerts c'
  | heartbeat (a : Agent) : Moves c [] [.heartbeat a] [] (c.heartbeat a)
  | directHeartbeat (a : Agent) : Moves c [] [.heartbeat a] [] (c.directHeartbeat a)
  | lines (lines : List (Except Fault Envelope)) :
    Moves c [] (c.topics.incoming lines) [] (c.routeLines lines).1
  | analytics (a : Analytics) (payload : Value) :
    Moves c [] [.analytics a payload] [] (c.publish (.analytics a) payload)

/-- A request that opens no stream moves a collector. -/
theorem request_moves {c : Collector} {r : Request} {now : Nat → Moment} {served : Served}
    (hs : Serves c now r served) (hevents : ∀ ch id, served.response.content ≠ .events ch id) :
    Moves c (Entry.mk (.request r now) (.response served.response) served.alerts).brought r.incoming
      served.alerts served.collector := by
  have htidings : ∀ response alerts,
      (Entry.mk (.request r now) (.response response) alerts).tidings? =
        if response.status < 400 then r.tidings? else none := fun _ _ => rfl
  unfold Request.incoming Entry.brought
  cases hs with
  | unchanged ht _ =>
    rw [htidings, ht, ite_self]
    exact .nothing
  | stream ht _ => exact absurd rfl (hevents _ _)
  | headOnly ht _ => exact absurd rfl (hevents _ _)
  | packet ht =>
    rw [htidings, ht]
    unfold tellPacket
    cases h : c.ingest _ (now 0) with
    | ok taken => exact .packet h
    | error e => cases e <;> exact .nothing
  | batch ht =>
    rw [htidings, ht]
    unfold tellBatch
    cases h : c.ingestBatch _ now with
    | ok taken => exact .batch h
    | error e => cases e <;> exact .nothing
  | @heartbeat a ht =>
    rw [htidings, ht]
    exact .directHeartbeat a

/-- Every step that does not observe moves a collector. -/
theorem step_moves (c : Collector) {act : Act} (ha : act.observes = false) :
    Moves c (c.entry act).brought (act.incoming c.topics) (c.entry act).printed
      (c.step act).1 := by
  cases act with
  | ingest p now =>
    cases h : c.ingest p now with
    | error e => simp only [entry, step, h]; exact .nothing
    | ok r => simp only [entry, step, h]; exact .packet h
  | ingestBatch b now =>
    cases h : c.ingestBatch b now with
    | error e => simp only [entry, step, h]; exact .nothing
    | ok r => simp only [entry, step, h]; exact .batch h
  | request r now =>
    have hserved : Served.Alike c c (serve c now r) (serve c now r) :=
      serve_alike (.refl c) (fun _ => rfl) (Act.stream?_eq_none ha)
    exact request_moves (serve_serves c now r) hserved.response.not_events
  | datagram data => exact .lines (Envelope.ofDatagram data)
  | relay topic payload =>
    simp only [entry, step, Collector.relay, Act.incoming]
    cases c.topics.analyticsOf? topic with
    | none => exact .nothing
    | some a => exact .analytics a payload
  | heartbeat a => exact .heartbeat a
  | latestByTimestamp _ | latestById _ | roster => exact .nothing
  | _ => cases ha

/-- A step that observes brings nothing, and prints nothing. -/
theorem observer_brings (c : Collector) {act : Act} (ha : act.observes = true) :
    (c.entry act).brought = [] ∧ (c.entry act).printed = [] := by
  cases act with
  | request r now =>
    have ht := Request.tidings?_of_stream ha
    obtain ⟨ch, hch⟩ := Option.isSome_iff_exists.1 ha
    have hbrought : (c.entry (.request r now)).brought = [] := by
      simp only [entry, step, Entry.brought, Entry.tidings?, ht, ite_self]
    refine ⟨hbrought, ?_⟩
    rcases serve_stream hch c now with ⟨-, hserved⟩ | ⟨-, hserved⟩
    · exact congrArg Served.alerts hserved
    · exact congrArg Served.alerts hserved
  | subscribe _ | read _ _ _ | leave _ _ | take _ | close | stats => exact ⟨rfl, rfl⟩
  | _ => cases ha

/-- A collector from whose queues things have been taken, and in which nothing else has changed. -/
structure Drains (c c' : Collector) : Prop where
  core : c'.core = c.core
  hub : ∀ ch, (c'.channels.hub ch).queued ⊆ (c.channels.hub ch).queued
  outbound : c'.outbound.queue ⊆ c.outbound.queue

theorem Drains.of_hub (c : Collector) {ch : Channel} {h : Hub ch.Item}
    (hh : h.queued ⊆ (c.channels.hub ch).queued) :
    Drains c { c with channels := c.channels.setHub ch h } := by
  refine ⟨rfl, ?_, List.Subset.refl _⟩
  exact Channels.forall_hub_setHub (P := fun ch' h => h.queued ⊆ (c.channels.hub ch').queued) hh
    fun _ _ => List.Subset.refl _

theorem Drains.trans {c c' c'' : Collector} (h : Drains c c') (h' : Drains c' c'') : Drains c c'' :=
  ⟨h'.core.trans h.core, fun ch => List.Subset.trans (h'.hub ch) (h.hub ch),
    List.Subset.trans h'.outbound h.outbound⟩

/-- That is all a step does that observes. -/
theorem observer_drains (c : Collector) {act : Act} (ha : act.observes = true) :
    Drains c (c.step act).1 := by
  have hsubscribe : ∀ ch, Drains c { c with channels := (c.channels.subscribe ch).1 } := by
    intro ch
    refine .of_hub (h := (c.channels.hub ch).subscribe.1) c ?_
    rw [Hub.queued_subscribe]
    exact List.Subset.refl _
  have hleave : ∀ (c : Collector) ch id,
      Drains c { c with channels := c.channels.leave ch id } := fun c ch id =>
    .of_hub c (Hub.queued_leave_subset _ id)
  have hqueue : ∀ o : Outbound, o.queue ⊆ c.outbound.queue → Drains c { c with outbound := o } :=
    fun o ho => ⟨rfl, fun _ => List.Subset.refl _, ho⟩
  cases act with
  | subscribe ch => exact hsubscribe ch
  | read ch id count => exact .of_hub c (Hub.queued_receiveMany_subset count _ id)
  | leave ch id => exact hleave c ch id
  | take count => exact hqueue _ (List.drop_subset _ _)
  | close => exact hqueue _ (List.nil_subset _)
  | stats => exact hqueue c.outbound (List.Subset.refl _)
  | request r now =>
    obtain ⟨ch, hch⟩ := Option.isSome_iff_exists.1 ha
    rcases serve_stream hch c now with ⟨-, hserved⟩ | ⟨-, hserved⟩
    · simp only [step, hserved]
      exact hsubscribe ch
    · simp only [step, hserved]
      exact (hsubscribe ch).trans (hleave _ ch _)
  | _ => cases ha

end Collector

end PacketTelemetry
