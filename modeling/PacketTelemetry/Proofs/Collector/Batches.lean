/-
A batch and its packets one by one: that comes to the same
(`Collector.ingestBatch_one_by_one`).

A batch is kept as a whole, what is over the limit is let go, and then its packets
are spread. One by one, they are kept and spread in turn, and something may be let
go each time. The memory is the same in the end, since it depends on the packets
alone that it has accepted; and packets are spread without a look at the store
(`Collector.spread_swap`), so that it does not matter how many more of them it has
kept by then.

The clock that measures has to show the same in both cases. The time of day need
not: what it was is forgotten (`Collector.undated`).
-/
import PacketTelemetry.Proofs.Collector.Stock
import PacketTelemetry.Proofs.Collector.Undated

namespace PacketTelemetry

open Time

/-- Packets told of one by one, each at its moment. -/
def singles (ps : List Packet) (now : Nat → Moment) : List Act :=
  ps.mapIdx fun i p => .ingest p (now i)

/-- Packets made fit, each with the time of its moment. -/
def fitted (ps : List Packet) (now : Nat → Moment) : List (Packet × Instant) :=
  ps.mapIdx fun i p => (p.normalize, (now i).wall)

theorem singles_cons (p : Packet) (ps : List Packet) (now : Nat → Moment) :
    singles (p :: ps) now = .ingest p (now 0) :: singles ps fun i => now (i + 1) :=
  List.mapIdx_cons

theorem fitted_cons (p : Packet) (ps : List Packet) (now : Nat → Moment) :
    fitted (p :: ps) now = (p.normalize, (now 0).wall) :: fitted ps fun i => now (i + 1) :=
  List.mapIdx_cons

@[simp] theorem length_fitted (ps : List Packet) (now : Nat → Moment) :
    (fitted ps now).length = ps.length :=
  List.length_mapIdx

namespace Collector

/-! ## Spreading and the store -/

theorem raiseAll_swap (c : Collector) (store : Store) (alerts : List Alert) :
    alerts.foldl raise { c with store } = { alerts.foldl raise c with store } := by
  induction alerts generalizing c with
  | nil => rfl
  | cons a alerts ih => exact ih (c.raise a)

/-- A packet is spread without a look at the store. -/
theorem spread_swap (c : Collector) (store : Store) (s : StoredPacket) (now : Moment) :
    { c with store }.spread s now = ({ (c.spread s now).1 with store }, (c.spread s now).2) :=
  congrArg (·, (c.spread s now).2) (raiseAll_swap
    { (c.send (.packet s)).publish .packets s with detector := (c.detector.process s now).1 } store
    (c.detector.process s now).2)

theorem spreadAll_swap (c : Collector) (store : Store) (now : Nat → Moment)
    (ss : List StoredPacket) :
    { c with store }.spreadAll now ss =
      ({ (c.spreadAll now ss).1 with store }, (c.spreadAll now ss).2) := by
  induction ss generalizing c now with
  | nil => rfl
  | cons s ss ih => simp only [spreadAll, spread_swap, ih]

/-! ## One by one, and at once -/

section

variable {c : Collector} {limit : Nat} {given : List (Packet × Instant)}
  (hs : c.store = .memory (.holding limit given))

include hs

theorem step_ingest_holding (hroom : Memory.Room limit (given.length + 1)) (p : Packet)
    (now : Moment) {kept : StoredPacket}
    (hkept : kept = ⟨Int64.ofNat (given.length + 1), now.wall, p.normalize⟩) :
    c.step (.ingest p now) =
      ({ (c.spread kept now).1 with
          store := .memory (.holding limit (given ++ [(p.normalize, now.wall)])) },
        .kept (.ok kept), (c.spread kept now).2) := by
  simp only [step, ingest_memory hs, Memory.save_holding hroom, spread_swap, hkept]

/-- Packets told of one by one are kept, and spread as if they had all been kept before. -/
theorem run_singles {ps : List Packet} (hroom : Memory.Room limit (given.length + ps.length))
    (now : Nat → Moment) {kept : List StoredPacket}
    (hkept : kept = Memory.storedAfter given.length (fitted ps now)) :
    (c.run (singles ps now)).1 =
        { (c.spreadAll now kept).1 with
          store := .memory (.holding limit (given ++ fitted ps now)) } ∧
      (c.run (singles ps now)).2.map (·.reply) = kept.map (fun s => .kept (.ok s)) ∧
      (c.run (singles ps now)).2.flatMap (·.printed) = (c.spreadAll now kept).2 := by
  induction ps generalizing c given kept now with
  | nil =>
    subst hkept
    refine ⟨?_, rfl, rfl⟩
    rw [show fitted [] now = [] from rfl, List.append_nil, ← hs]
    rfl
  | cons p ps ih =>
    have hstep := step_ingest_holding hs (hroom.mono (by simp)) p (now 0) rfl
    have hmore : Memory.Room limit ((given ++ [(p.normalize, (now 0).wall)]).length + ps.length) := by
      rwa [List.length_append, Nat.add_assoc, Nat.add_comm _ ps.length]
    have hfirst : kept = ⟨Int64.ofNat (given.length + 1), (now 0).wall, p.normalize⟩ ::
        Memory.storedAfter (given ++ [(p.normalize, (now 0).wall)]).length
          (fitted ps fun i => now (i + 1)) := by
      rw [hkept, fitted_cons, List.length_append]
      exact Memory.storedAfter_append given.length [(p.normalize, (now 0).wall)] _
    have hstore : (c.step (.ingest p (now 0))).1.store =
        .memory (.holding limit (given ++ [(p.normalize, (now 0).wall)])) :=
      congrArg (·.1.store) hstep
    obtain ⟨hstate, hreplies, hprinted⟩ := ih hstore hmore (fun i => now (i + 1)) rfl
    rw [singles_cons, run, hfirst]
    -- one by one, the first packet is spread before the others are kept, and in a batch after that:
    -- the store is another one then, but spreading does not look at it
    refine ⟨?_, ?_, ?_⟩
    · rw [hstate, hstep, spreadAll_swap, fitted_cons, List.append_cons given _ (fitted ps _)]
      rfl
    · rw [List.map_cons, List.map_cons, hreplies, entry, hstep]
    · rw [List.flatMap_cons, hprinted, entry, hstep, spreadAll_swap]
      rfl

/-- A batch that fits is kept as a whole, and then spread. -/
theorem step_ingestBatch_holding {b : Batch} {ps : List Packet} (hb : b.packets = some ps)
    (hroom : Memory.Room limit (given.length + ps.length)) (hfit : limit = 0 ∨ ps.length ≤ limit)
    (now : Nat → Moment) {kept : List StoredPacket}
    (hkept : kept = Memory.storedAfter given.length (fitted (ps.map (·.inheritFrom b)) now)) :
    c.step (.ingestBatch b now) =
      ({ (c.spreadAll now kept).1 with
          store := .memory (.holding limit (given ++ fitted (ps.map (·.inheritFrom b)) now)) },
        .counted (.ok ps.length), (c.spreadAll now kept).2) := by
  have hnormal : b.normalize = some (ps.map fun p => (p.inheritFrom b).normalize) := by
    rw [Batch.normalize, hb]
    rfl
  have hfitted : fitted (ps.map (·.inheritFrom b)) now =
      (ps.map fun p => (p.inheritFrom b).normalize).mapIdx fun i p => (p, (now i).wall) :=
    List.ext_getElem (by simp) (by simp [fitted])
  have hlength : (ps.map fun p => (p.inheritFrom b).normalize).length = ps.length := List.length_map _
  have hroom' : Memory.Room limit
      (given.length + (ps.map fun p => (p.inheritFrom b).normalize).length) := hlength ▸ hroom
  have hsaved := Memory.saveAll_holding hroom' (hlength ▸ hfit) fun i => (now i).wall
  rw [← hfitted, ← hkept] at hsaved
  have hmany : kept.length = ps.length := by simp [hkept]
  simp only [step, ingestBatch, hnormal, hs, Store.saveAll, hsaved, Except.map, spreadAll_swap, hmany]

end

/-! ## Dates -/

theorem undated_step_ingest (c : Collector) (p : Packet) (now : Moment) :
    (c.undated.step (.ingest p now.undated)).1 = (c.step (.ingest p now)).1.undated ∧
      (c.undated.step (.ingest p now.undated)).2.2 =
        (c.step (.ingest p now)).2.2.map (·.undated) := by
  simp only [step, undated_ingest]
  cases c.ingest p now with
  | error e => exact ⟨rfl, rfl⟩
  | ok r => exact ⟨rfl, rfl⟩

theorem undated_run_singles (c : Collector) (ps : List Packet) (now : Nat → Moment) :
    (c.undated.run (singles ps fun i => (now i).undated)).1 =
        (c.run (singles ps now)).1.undated ∧
      (c.undated.run (singles ps fun i => (now i).undated)).2.flatMap (·.printed) =
        ((c.run (singles ps now)).2.flatMap (·.printed)).map (·.undated) := by
  induction ps generalizing c now with
  | nil => exact ⟨rfl, rfl⟩
  | cons p ps ih =>
    obtain ⟨hstate, hprinted⟩ := c.undated_step_ingest p (now 0)
    obtain ⟨hstates, hrest⟩ := ih (c.step (.ingest p (now 0))).1 fun i => now (i + 1)
    simp only [singles_cons, run, hstate, hstates, List.flatMap_cons, hrest, List.map_append, entry,
      hprinted, and_self]

/-- The time of day leaves no mark but dates. -/
theorem undated_run_singles_congr (c : Collector) (ps : List Packet) {now now' : Nat → Moment}
    (hticks : ∀ i, (now' i).ticks = (now i).ticks) :
    (c.run (singles ps now')).1.undated = (c.run (singles ps now)).1.undated ∧
      ((c.run (singles ps now')).2.flatMap (·.printed)).map (·.undated) =
        ((c.run (singles ps now)).2.flatMap (·.printed)).map (·.undated) := by
  have hnow : (fun i => (now' i).undated) = fun i => (now i).undated := by
    funext i
    simp only [Moment.undated, hticks]
  obtain ⟨hstate, hprinted⟩ := c.undated_run_singles ps now
  obtain ⟨hstate', hprinted'⟩ := c.undated_run_singles ps now'
  rw [← hstate, ← hstate', ← hprinted, ← hprinted', hnow]
  exact ⟨rfl, rfl⟩

/-! ## A batch and its packets -/

/-- **One by one.** A collector with a memory has come through a run, and a batch is told of that has
a list of packets and fits. As long as there are numbers for them, their number is answered. Had its
packets been told of one by one, with the names they take from the batch, each would have been kept,
and the collector would be the same but for dates, and so would the alerts; they are the same
altogether if all was at the same moments. -/
theorem ingestBatch_one_by_one {s : Setup} {limit : Nat} (hs : s.store = .memory (.new limit))
    {acts : List Act} {c : Collector} {trace : List Entry}
    (hrun : (Collector.new s).run acts = (c, trace)) {b : Batch} {ps : List Packet}
    (hb : b.packets = some ps) (hfit : limit = 0 ∨ ps.length ≤ limit)
    (hroom : Memory.Room limit ((trace.flatMap (·.brought)).length + ps.length))
    {now now' : Nat → Moment} (hticks : ∀ i, (now' i).ticks = (now i).ticks)
    {c₁ c₂ : Collector} {reply : Reply} {printed : List Alert} {trace' : List Entry}
    (hbatch : c.step (.ingestBatch b now) = (c₁, reply, printed))
    (hsingles : c.run (singles (ps.map (·.inheritFrom b)) now') = (c₂, trace')) :
    reply = .counted (.ok ps.length) ∧
    (∀ e ∈ trace', ∃ s, e.reply = .kept (.ok s)) ∧
    c₂.undated = c₁.undated ∧
    (trace'.flatMap (·.printed)).map (·.undated) = printed.map (·.undated) ∧
    (now' = now → c₂ = c₁ ∧ trace'.flatMap (·.printed) = printed) := by
  have hstore : c.store = .memory (.holding limit (timed (trace.flatMap (·.brought)))) := by
    have hnew : (Collector.new s).store = .memory (.holding limit []) :=
      hs.trans (congrArg Store.memory (Memory.new_eq limit))
    have hrest := @run_store (.new s) limit [] hnew acts
    rw [hrun] at hrest
    exact hrest (hroom.mono (by simp))
  rw [← length_timed] at hroom
  have hmany : (ps.map (·.inheritFrom b)).length = ps.length := List.length_map _
  have hall := step_ingestBatch_holding hstore hb hroom hfit now rfl
  rw [hbatch, Prod.mk.injEq, Prod.mk.injEq] at hall
  obtain ⟨hstate₁, rfl, hprinted₁⟩ := hall
  obtain ⟨hstate, -, hprinted⟩ := run_singles hstore (hmany ▸ hroom) now rfl
  obtain ⟨-, hreplies, -⟩ := run_singles hstore (hmany ▸ hroom) now' rfl
  obtain ⟨hundated, hundatedPrinted⟩ :=
    c.undated_run_singles_congr (ps.map (·.inheritFrom b)) hticks
  rw [← hstate₁] at hstate
  rw [← hprinted₁] at hprinted
  rw [hsingles] at hreplies hundated hundatedPrinted
  rw [hstate] at hundated
  rw [hprinted] at hundatedPrinted
  refine ⟨rfl, ?_, hundated, hundatedPrinted, ?_⟩
  · intro e he
    have hreply := List.mem_map_of_mem (f := (·.reply)) he
    rw [hreplies] at hreply
    obtain ⟨s, -, hs⟩ := List.mem_map.1 hreply
    exact ⟨s, hs.symm⟩
  · rintro rfl
    rw [hsingles] at hstate hprinted
    exact ⟨hstate, hprinted⟩

/-- Two packets may be kept, and one is. Two more come as a batch, or one by one at other times of
day. -/
theorem ingestBatch_one_by_one_of_two :
    ∃ c trace c₁ reply printed c₂ trace',
      (new ⟨.memory (.new 2), ⟨1, 500, 10⟩, .standard, 1000, 100, .utc⟩).run
        [.subscribe .alerts, .ingest .blank (.once ⟨0, 0⟩ 0)] = (c, trace) ∧
      c.step (.ingestBatch ⟨some "b", none, none,
        some [(Sighting.of "a" (some 80) 0).packet.packet, .blank]⟩ fun i => .once ⟨i, 0⟩ i) =
          (c₁, reply, printed) ∧
      c.run (singles [{ (Sighting.of "a" (some 80) 0).packet.packet with agentId := some "b" },
        { Packet.blank with agentId := some "b" }] fun i => .once ⟨9, 0⟩ i) = (c₂, trace') ∧
      reply = .counted (.ok 2) ∧ c₂.undated = c₁.undated := by
  refine ⟨_, _, _, _, _, _, _, rfl, rfl, rfl, ?_⟩
  have htwo := @ingestBatch_one_by_one ⟨.memory (.new 2), ⟨1, 500, 10⟩, .standard, 1000, 100, .utc⟩ 2 rfl
    [.subscribe .alerts, .ingest .blank (.once ⟨0, 0⟩ 0)] _ _ rfl
    ⟨some "b", none, none, some [(Sighting.of "a" (some 80) 0).packet.packet, .blank]⟩ _ rfl
    (.inr (by decide)) (.inr ⟨by decide, by decide⟩) (fun i => .once ⟨i, 0⟩ i) (fun i => .once ⟨9, 0⟩ i)
    (fun _ => rfl) _ _ _ _ _ rfl rfl
  exact ⟨htwo.1, htwo.2.2.1⟩

end Collector

end PacketTelemetry
