/-
What fails leaves no trace (`Collector.failures_leave_no_trace`): the collector is
as it was, nothing is printed, and a run in which something failed goes on like the
run without it.

That goes for whole steps, however they tell that they failed (`Reply.failed`), and
for single lines of a datagram (`unusable`). Each line finds the collector as the
one before has left it. That a line of no use makes no difference to the others
comes of this, that which lines those are depends on the topics alone
(`Collector.routeLine_topics`).
-/
import PacketTelemetry.Proofs.Collector.Run

namespace PacketTelemetry

open Json Http

/-! ## Failures -/

/-- Whether it is told that something failed. A datagram failed if none of its lines went anywhere. -/
def Reply.failed : Reply → Bool
  | .kept (.error _) => true
  | .counted (.error _) => true
  | .found (.error _) => true
  | .response answer => 400 ≤ answer.status
  | .relayed passed => !passed
  | .routed rs => rs.isEmpty
  | _ => false

/-- Whether a line of a datagram is of no use: it is no envelope, or a heartbeat that is not an
agent's. -/
def unusable (t : Topics) : Except Fault Envelope → Bool
  | .error _ => true
  | .ok e => e.topic = t.heartbeats && !(Agent.form.take e.payload).isOk

/-- The lines of a datagram that are of use. -/
def usableLines (t : Topics) (data : String) : List (Except Fault Envelope) :=
  (Envelope.ofDatagram data).filter fun line => !unusable t line

/-- A memory refuses what is more than its limit. -/
theorem Memory.isOk_saveAll {m : Memory} {received : Nat → Time.Instant} {ps : List Packet} :
    (m.saveAll received ps).isOk = false ↔ 0 < m.limit ∧ m.limit < ps.length := by
  unfold saveAll
  split
  · next hempty =>
    obtain rfl : ps = [] := by simpa using hempty
    simp [Except.isOk, Except.toBool]
  · split
    · next hover => simpa [Except.isOk, Except.toBool] using hover
    · next hover => simpa [Except.isOk, Except.toBool] using hover

namespace Collector

variable {c : Collector}

/-! ## Lines of a datagram -/

@[simp] theorem routeLine_topics (c : Collector) (line : Except Fault Envelope) :
    (c.routeLine line).1.topics = c.topics := by
  rcases c.routeLine_cases line with ⟨a, h⟩ | ⟨a, payload, h⟩ | h <;> rw [h] <;> rfl

/-- A line that is of no use goes nowhere and changes nothing. -/
theorem routeLine_of_unusable {line : Except Fault Envelope}
    (h : unusable c.topics line = true) :
    (c.routeLine line).1 = c ∧ (c.routeLine line).2.routed? = none := by
  cases line with
  | error fault => exact ⟨rfl, rfl⟩
  | ok e =>
    simp only [unusable, Bool.and_eq_true, decide_eq_true_eq] at h
    obtain ⟨htopic, hpayload⟩ := h
    cases htake : Agent.form.take e.payload with
    | ok a => simp [htake, Except.isOk, Except.toBool] at hpayload
    | error mismatch => simp [routeLine, route, htopic, htake, LineOutcome.routed?]

/-- Any other line goes somewhere. -/
theorem routeLine_of_usable {line : Except Fault Envelope}
    (h : unusable c.topics line = false) : (c.routeLine line).2.routed?.isSome = true := by
  cases line with
  | error fault => cases h
  | ok e =>
    by_cases htopic : e.topic = c.topics.heartbeats
    · cases htake : Agent.form.take e.payload with
      | error mismatch => simp [unusable, htopic, htake, Except.isOk, Except.toBool] at h
      | ok a => simp [routeLine, route, htopic, htake, LineOutcome.routed?]
    · cases ha : c.topics.analyticsOf? e.topic <;>
        simp [routeLine, route, htopic, ha, LineOutcome.routed?]

/-- Lines that are of no use might as well not be there. -/
theorem routeLines_usable (c : Collector) (lines : List (Except Fault Envelope)) :
    (c.routeLines (lines.filter fun line => !unusable c.topics line)).1 = (c.routeLines lines).1 ∧
      (c.routeLines (lines.filter fun line => !unusable c.topics line)).2.filterMap (·.routed?) =
        (c.routeLines lines).2.filterMap (·.routed?) := by
  induction lines generalizing c with
  | nil => exact ⟨rfl, rfl⟩
  | cons line lines ih =>
    cases h : unusable c.topics line with
    | true =>
      obtain ⟨hstate, hrouted⟩ := routeLine_of_unusable h
      simp only [List.filter_cons, h, routeLines, hstate, List.filterMap_cons, hrouted]
      exact ih c
    | false =>
      -- the rest is judged by the topics the line has left, which are the same
      have hrest := ih (c.routeLine line).1
      rw [routeLine_topics] at hrest
      simp only [List.filter_cons, h, Bool.not_false, if_true, routeLines, List.filterMap_cons,
        hrest.1, hrest.2, true_and]

theorem receiveDatagram_usable {data data' : String}
    (h : usableLines c.topics data = usableLines c.topics data') :
    c.receiveDatagram data = c.receiveDatagram data' := by
  obtain ⟨hstate, hrouted⟩ := c.routeLines_usable (Envelope.ofDatagram data)
  obtain ⟨hstate', hrouted'⟩ := c.routeLines_usable (Envelope.ofDatagram data')
  unfold usableLines at h
  refine Prod.ext ?_ ?_
  · exact hstate.symm.trans ((congrArg (fun lines => (c.routeLines lines).1) h).trans hstate')
  · exact hrouted.symm.trans ((congrArg (fun lines =>
      (c.routeLines lines).2.filterMap (·.routed?)) h).trans hrouted')

/-- A datagram none of whose lines goes anywhere changes nothing. -/
theorem routeLines_of_none {lines : List (Except Fault Envelope)}
    (h : (c.routeLines lines).2.filterMap (·.routed?) = []) : (c.routeLines lines).1 = c := by
  induction lines with
  | nil => rfl
  | cons line lines ih =>
    cases hline : unusable c.topics line with
    | true =>
      obtain ⟨hstate, hrouted⟩ := routeLine_of_unusable hline
      simp only [routeLines, hstate, List.filterMap_cons, hrouted] at h ⊢
      exact ih h
    | false =>
      obtain ⟨r, hr⟩ := Option.isSome_iff_exists.1 (routeLine_of_usable hline)
      simp [routeLines, hr] at h

/-! ## Steps -/

/-- A request that is refused changes nothing. -/
theorem Serves.refused {now : Nat → Moment} {r : Request} {served : Served}
    (hs : Serves c now r served) (hf : 400 ≤ served.response.status) :
    served.collector = c ∧ served.alerts = [] := by
  cases hs with
  | unchanged _ _ => exact ⟨rfl, rfl⟩
  | stream _ _ => simp [Served.stream] at hf
  | headOnly _ _ => simp [Served.stream, Served.headOnly] at hf
  | packet _ =>
    unfold tellPacket at hf ⊢
    split at hf
    · simp [Response.ofValue] at hf
    · exact ⟨rfl, rfl⟩
  | batch _ =>
    unfold tellBatch at hf ⊢
    split at hf
    · simp [Response.bare] at hf
    · exact ⟨rfl, rfl⟩
  | heartbeat _ => simp [tellHeartbeat, Response.bare] at hf

/-- A step that fails changes nothing. -/
theorem step_of_failed {act : Act} (hf : (c.entry act).reply.failed = true) :
    (c.step act).1 = c ∧ (c.step act).2.2 = [] := by
  unfold entry at hf
  cases act with
  | ingest p now =>
    simp only [step] at hf ⊢
    split
    · next h => simp [h, Reply.failed] at hf
    · exact ⟨rfl, rfl⟩
  | ingestBatch b now =>
    simp only [step] at hf ⊢
    split
    · next h => simp [h, Reply.failed] at hf
    · exact ⟨rfl, rfl⟩
  | request r now => exact Serves.refused (serve_serves c now r) (of_decide_eq_true hf)
  | datagram data =>
    exact ⟨routeLines_of_none (List.isEmpty_iff.1 hf), rfl⟩
  | relay topic payload =>
    simp only [step] at hf ⊢
    split
    · next h => simp [h, Reply.failed] at hf
    · exact ⟨rfl, rfl⟩
  | latestByTimestamp _ | latestById _ => exact ⟨rfl, rfl⟩
  | heartbeat _ | roster | stats | subscribe _ | read _ _ _ | leave _ _ | take _ | close => cases hf

/-! ## What fails -/

/-- A packet fails where the store is out of reach. -/
theorem failed_ingest {p : Packet} {now : Moment} :
    (c.entry (.ingest p now)).reply.failed = true ↔
      ∃ onWrite onRead, c.store = .outOfReach onWrite onRead := by
  unfold entry step ingest
  cases hs : c.store <;> simp [Store.save, Reply.failed]

/-- A batch fails if it has no list of packets, if the store is out of reach, or if it is longer than
the limit. -/
theorem failed_ingestBatch {b : Batch} {now : Nat → Moment} :
    (c.entry (.ingestBatch b now)).reply.failed = true ↔
      b.packets = none ∨ (∃ onWrite onRead, c.store = .outOfReach onWrite onRead) ∨
        ∃ m ps, c.store = .memory m ∧ b.packets = some ps ∧ 0 < m.limit ∧ m.limit < ps.length := by
  cases hb : b.packets with
  | none => simp [entry, step, ingestBatch, Batch.normalize, hb, Reply.failed]
  | some ps =>
    cases hs : c.store with
    | outOfReach onWrite onRead =>
      simp [entry, step, ingestBatch, Batch.normalize, hb, hs, Store.saveAll, Reply.failed]
    | memory m =>
      have hsave : (c.entry (.ingestBatch b now)).reply.failed =
          !(m.saveAll (fun i => (now i).wall) (ps.map fun p => (p.inheritFrom b).normalize)).isOk := by
        cases h : m.saveAll (fun i => (now i).wall) (ps.map fun p => (p.inheritFrom b).normalize) <;>
          simp [entry, step, ingestBatch, Batch.normalize, hb, hs, Store.saveAll, h, Except.map,
            Reply.failed, Except.isOk, Except.toBool]
      rw [hsave, Bool.not_eq_true', Memory.isOk_saveAll]
      simp

/-- Analytics fail under a topic that is not theirs. -/
theorem failed_relay {topic : String} {payload : Value} :
    (c.entry (.relay topic payload)).reply.failed = true ↔ c.topics.analyticsOf? topic = none := by
  cases h : c.topics.analyticsOf? topic <;> simp [entry, step, relay, h, Reply.failed]

/-! ## Without a trace -/

/-- **No trace.** A step that fails leaves the collector as it was, and prints nothing; and so does a
line of a datagram that is of no use. With such a step or without it, what comes after goes the same
way, and the collector is the same in the end. Neither does it matter which lines of no use there are
in a datagram. -/
theorem failures_leave_no_trace (c : Collector) :
    (∀ act, (c.entry act).reply.failed = true →
      (c.step act).1 = c ∧ (c.entry act).printed = []) ∧
    (∀ line, unusable c.topics line = true →
      (c.routeLine line).1 = c ∧ (c.routeLine line).2.routed? = none) ∧
    (∀ before act later, ((c.run before).1.entry act).reply.failed = true →
      ∃ rest, (c.run (before ++ later)).2 = (c.run before).2 ++ rest ∧
        (c.run (before ++ act :: later)).2 =
          (c.run before).2 ++ (c.run before).1.entry act :: rest ∧
        (c.run (before ++ act :: later)).1 = (c.run (before ++ later)).1) ∧
    ∀ before data data' later, usableLines (c.run before).1.topics data =
        usableLines (c.run before).1.topics data' →
      (c.run (before ++ .datagram data :: later)).2.map (fun e => (e.reply, e.printed)) =
          (c.run (before ++ .datagram data' :: later)).2.map (fun e => (e.reply, e.printed)) ∧
        (c.run (before ++ .datagram data :: later)).1 =
          (c.run (before ++ .datagram data' :: later)).1 := by
  refine ⟨fun _ => step_of_failed, fun _ => routeLine_of_unusable, ?_, ?_⟩
  · intro before act later hf
    obtain ⟨hsame, -⟩ := step_of_failed hf
    refine ⟨((c.run before).1.run later).2, ?_, ?_, ?_⟩
    · rw [run_append]
    · rw [run_append, run, hsame]
    · rw [run_append, run_append, run, hsame]
  · intro before data data' later hlines
    have hstep : (c.run before).1.step (.datagram data) = (c.run before).1.step (.datagram data') :=
      congrArg (fun r => (r.1, Reply.routed r.2, [])) (receiveDatagram_usable hlines)
    simp only [run_append, run, entry, hstep, List.map_append, List.map_cons, and_self]

/-- One packet may be kept, and one is. A batch of two is refused, and so are a request by a method
that is not known, a datagram that is no envelope, and analytics of no topic. A store out of reach
refuses everything. -/
theorem failures_leave_no_trace_of_five :
    ∃ c c', c = ((new ⟨.memory (.new 1), .standard, .standard, 1000, 100, .utc⟩).run
        [.subscribe .alerts, .ingest .blank (.once ⟨0, 0⟩ 0)]).1 ∧
      c' = new ⟨.outOfReach "full" "full", .standard, .standard, 1000, 100, .utc⟩ ∧
      (c.step (.ingestBatch ⟨none, none, none, some [.blank, .blank]⟩ fun _ => .once ⟨0, 0⟩ 0)).1 = c ∧
      (c.step (.request ⟨"DELETE", "/api/v1/agents".toList, none, .ofString ""⟩
        fun _ => .once ⟨0, 0⟩ 0)).1 = c ∧
      (c.step (.datagram "nothing")).1 = c ∧
      (c.step (.relay "nothing" .null)).1 = c ∧
      (c'.step (.ingest .blank (.once ⟨0, 0⟩ 0))).1 = c' := by
  refine ⟨_, _, rfl, rfl, ?_, ?_, ?_, ?_, ?_⟩
  · exact ((failures_leave_no_trace _).1 _ (failed_ingestBatch.2
      (.inr (.inr ⟨_, _, rfl, rfl, by decide, by decide⟩)))).1
  · exact ((failures_leave_no_trace _).1 _ (by decide +kernel)).1
  · exact ((failures_leave_no_trace _).1 _ (by decide +kernel)).1
  · exact ((failures_leave_no_trace _).1 _ (failed_relay.2 (by decide))).1
  · exact ((failures_leave_no_trace _).1 _ (failed_ingest.2 ⟨_, _, rfl⟩)).1

end Collector

end PacketTelemetry
