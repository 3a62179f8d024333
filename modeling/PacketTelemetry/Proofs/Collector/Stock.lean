/-
What is in the store after a run of a collector: the memory that the packets
lead to which were taken in (`Collector.run_store`), one after another, whichever
way they came.

All a step can do to the store is to keep a packet or a batch that is taken in
(`Collector.Intake`). Whoever listens, takes messages, asks, or reports in by a
heartbeat leaves it alone.
-/
import PacketTelemetry.Proofs.Collector.Moves
import PacketTelemetry.Proofs.Store.Retention

namespace PacketTelemetry

open Json Http Time

/-- Packets, each with the time of its moment. -/
def timed (ps : List (Packet × Moment)) : List (Packet × Instant) := ps.map fun p => (p.1, p.2.wall)

@[simp] theorem timed_append (ps ps' : List (Packet × Moment)) :
    timed (ps ++ ps') = timed ps ++ timed ps' :=
  List.map_append

@[simp] theorem length_timed (ps : List (Packet × Moment)) : (timed ps).length = ps.length :=
  List.length_map _

theorem timed_mapIdx (ps : List Packet) (now : Nat → Moment) :
    timed (ps.mapIdx fun i p => (p, now i)) = ps.mapIdx fun i p => (p, (now i).wall) :=
  List.ext_getElem (by simp) (by simp [timed])

namespace Collector

/-- What a step does to the store. -/
inductive Intake (c : Collector) : List (Packet × Moment) → Collector → Prop
  | nothing {c' : Collector} (hs : c'.store = c.store) : Intake c [] c'
  | one {c' : Collector} {p : Packet} {now : Moment} {s : StoredPacket} {alerts : List Alert}
      (h : c.ingest p now = .ok (c', s, alerts)) : Intake c [(p.normalize, now)] c'
  | batch {c' : Collector} {b : Batch} {now : Nat → Moment} {k : Nat} {alerts : List Alert}
      (h : c.ingestBatch b now = .ok (c', k, alerts)) :
      Intake c ((b.normalize.getD []).mapIdx fun i p => (p, now i)) c'

theorem Moves.intake {c c' : Collector} {brought : List (Packet × Moment)} {ins : List Incoming}
    {printed : List Alert} (h : Moves c brought ins printed c') : Intake c brought c' := by
  cases h with
  | packet h => exact .one h
  | batch h => exact .batch h
  | lines lines => exact .nothing (c.routeLines_aside lines).2.1
  | nothing | heartbeat _ | directHeartbeat _ | analytics _ _ => exact .nothing rfl

/-- Every step keeps what it brings, and nothing else. -/
theorem step_intake (c : Collector) (act : Act) : Intake c (c.entry act).brought (c.step act).1 := by
  cases ha : act.observes with
  | false => exact (c.step_moves ha).intake
  | true =>
    rw [(c.observer_brings ha).1]
    exact .nothing (store_of_core (c.observer_drains ha).core)

theorem spreadAll_store (c : Collector) (now : Nat → Moment) (ss : List StoredPacket) :
    (c.spreadAll now ss).1.store = c.store :=
  (store_of_core (spreadAll_core c now ss) :)

/-- What is taken in is kept. -/
theorem Intake.store {c c' : Collector} {brought : List (Packet × Moment)}
    (h : Intake c brought c') {limit : Nat} {given : List (Packet × Instant)}
    (hs : c.store = .memory (.holding limit given))
    (hroom : Memory.Room limit (given.length + brought.length)) :
    c'.store = .memory (.holding limit (given ++ timed brought)) := by
  cases h with
  | nothing hsame => rw [hsame, hs]; simp [timed]
  | @one _ p now s alerts h =>
    rw [ingest_memory hs, Memory.save_holding hroom] at h
    simp only [Except.ok.injEq, Prod.mk.injEq] at h
    rw [← h.1]
    exact (store_of_core (spread_core _ _ now) :)
  | @batch _ b now k alerts h =>
    obtain ⟨ps, m, kept, hb, hsave, rfl, -, -⟩ := ingestBatch_memory hs h
    rw [hb, Option.getD_some, List.length_mapIdx] at hroom
    have hfit : limit = 0 ∨ ps.length ≤ limit := by
      by_contra hover
      rw [Memory.saveAll_over (m := .holding limit given) (show 0 < limit by omega)
        (show limit < ps.length by omega)] at hsave
      cases hsave
    rw [Memory.saveAll_holding hroom hfit, Except.ok.injEq, Prod.mk.injEq] at hsave
    rw [spreadAll_store, ← hsave.1, hb, Option.getD_some, timed_mapIdx]

/-- The store after a run is the memory that the packets brought lead to. -/
theorem run_store {c : Collector} {limit : Nat} {given : List (Packet × Instant)}
    (hs : c.store = .memory (.holding limit given)) {acts : List Act}
    (hroom : Memory.Room limit (given.length + ((c.run acts).2.flatMap (·.brought)).length)) :
    (c.run acts).1.store =
      .memory (.holding limit (given ++ timed ((c.run acts).2.flatMap (·.brought)))) := by
  induction acts generalizing c given with
  | nil => simpa [run, timed] using hs
  | cons act acts ih =>
    simp only [run, List.flatMap_cons, List.length_append, timed_append] at hroom ⊢
    have hfirst := (c.step_intake act).store hs (hroom.mono (by omega))
    rw [← List.append_assoc]
    refine ih hfirst ?_
    rwa [List.length_append, length_timed, Nat.add_assoc]

end Collector

end PacketTelemetry
