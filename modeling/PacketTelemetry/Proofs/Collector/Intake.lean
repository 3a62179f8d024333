/-
Packets taken in: under which numbers a memory keeps them, and what is told of
them (`Collector.Takes`).

A single packet and a batch are alike in this. What is told, what becomes of
the detector, and which alerts are given back depend on the packets, their
moments and the number of packets before them, and on nothing else in the store.
-/
import Mathlib.Data.List.Basic
import PacketTelemetry.Proofs.Collector.Effects
import PacketTelemetry.Proofs.Store.Retention

namespace PacketTelemetry

open Time

/-! ## Numbers -/

/-- Packets as they are kept after `n` others. -/
def keptAfter (n : Nat) (ps : List (Packet × Moment)) : List Sighting :=
  ps.mapIdx fun i p => ⟨⟨Int64.ofNat (n + i + 1), p.2.wall, p.1⟩, p.2⟩

theorem keptAfter_append (n : Nat) (ps ps' : List (Packet × Moment)) :
    keptAfter n (ps ++ ps') = keptAfter n ps ++ keptAfter (n + ps.length) ps' := by
  simp only [keptAfter, List.mapIdx_append]
  congr 2
  funext i p
  rw [show n + ps.length + i = n + (i + ps.length) by omega]

theorem length_keptAfter (n : Nat) (ps : List (Packet × Moment)) :
    (keptAfter n ps).length = ps.length := by simp [keptAfter]

/-- The numbers under which packets are kept, from the first. -/
theorem keptAfter_ids (ps : List (Packet × Moment)) :
    (keptAfter 0 ps).map (·.packet.id) = (List.range ps.length).map fun i => Int64.ofNat (i + 1) :=
  List.ext_getElem (by simp [keptAfter]) (by simp [keptAfter])

/-- The packets under those numbers. -/
theorem keptAfter_packets (n : Nat) (ps : List (Packet × Moment)) :
    (keptAfter n ps).map (·.packet.packet) = ps.map (·.1) :=
  List.ext_getElem (by simp [keptAfter]) (by simp [keptAfter])

/-- A batch is kept under the next numbers. -/
theorem sightings_saveAll {m m' : Memory} {n : Nat} (hnext : m.next = Int64.ofNat (n + 1))
    {now : Nat → Moment} {ps : List Packet} {kept : List StoredPacket}
    (h : m.saveAll (fun i => (now i).wall) ps = .ok (m', kept)) :
    sightings now kept = keptAfter n (ps.mapIdx fun i p => (p, now i)) := by
  rw [(Memory.saveAll_ok h).1, hnext]
  simp only [sightings, keptAfter, Memory.numbered, List.mapIdx_mapIdx]
  congr 1
  funext i p
  rw [← Int64.ofNat_add, Nat.add_right_comm]
  rfl

namespace Collector

theorem ingest_memory {c : Collector} {m : Memory} (hm : c.store = .memory m) (p : Packet)
    (now : Moment) :
    c.ingest p now =
      .ok (({ c with store := .memory (m.save now.wall p.normalize).1 }.spread
          (m.save now.wall p.normalize).2 now).1, (m.save now.wall p.normalize).2,
        ({ c with store := .memory (m.save now.wall p.normalize).1 }.spread
          (m.save now.wall p.normalize).2 now).2) := by
  simp only [ingest, Store.save, hm]

theorem ingestBatch_memory {c c' : Collector} {m : Memory} (hm : c.store = .memory m) {b : Batch}
    {now : Nat → Moment} {k : Nat} {alerts : List Alert}
    (h : c.ingestBatch b now = .ok (c', k, alerts)) :
    ∃ ps m' kept, b.normalize = some ps ∧ m.saveAll (fun i => (now i).wall) ps = .ok (m', kept) ∧
      c' = ({ c with store := .memory m' }.spreadAll now kept).1 ∧ k = kept.length ∧
      alerts = ({ c with store := .memory m' }.spreadAll now kept).2 := by
  unfold ingestBatch at h
  split at h
  · cases h
  next ps hb =>
  cases hsave : m.saveAll (fun i => (now i).wall) ps with
  | error e => simp [Store.saveAll, hm, hsave, Except.map] at h
  | ok saved =>
    simp only [Store.saveAll, hm, hsave, Except.map, Except.ok.injEq, Prod.mk.injEq] at h
    obtain ⟨rfl, rfl, rfl⟩ := h
    exact ⟨ps, saved.1, saved.2, hb, hsave, rfl, rfl, rfl⟩

/-- A collector with a memory that has kept `n` packets, and a detector. -/
structure Kept (c : Collector) (n : Nat) (d : Detector) : Prop where
  memory : ∃ m, c.store = .memory m ∧ m.next = Int64.ofNat (n + 1)
  detector : c.detector = d

theorem Kept.of_core {c c' : Collector} {n : Nat} {d : Detector} (hk : Kept c n d)
    (hs : c'.store = c.store) (hd : c'.detector = c.detector) : Kept c' n d :=
  ⟨hs ▸ hk.memory, hd.trans hk.detector⟩

theorem Kept.new {s : Setup} {limit : Nat} (hs : s.store = .memory (.new limit)) :
    Kept (.new s) 0 (.new s.limits) :=
  ⟨⟨.new limit, hs, rfl⟩, rfl⟩

/-- A collector takes packets in, each at its moment. -/
structure Takes (c : Collector) (n : Nat) (d : Detector) (ps : List (Packet × Moment))
    (c' : Collector) (kept : List StoredPacket) (alerts : List Alert) : Prop where
  tells : Tells c ((d.watched (keptAfter n ps)).flatMap messagesOf) c'
  books : Kept c' (n + ps.length) (d.after (keptAfter n ps))
  kept : (keptAfter n ps).map (·.packet) = kept
  alerts : (d.watched (keptAfter n ps)).flatMap (·.2) = alerts

/-- What has been kept under the next numbers is spread. -/
theorem Takes.spreadAll {c : Collector} {n : Nat} {d : Detector} (hd : c.detector = d) {m : Memory}
    (ps : List Packet) (now : Nat → Moment) (hm : m.next = Int64.ofNat (n + ps.length + 1))
    {kept : List StoredPacket}
    (hkept : sightings now kept = keptAfter n (ps.mapIdx fun i p => (p, now i))) :
    Takes c n d (ps.mapIdx fun i p => (p, now i)) ({ c with store := .memory m }.spreadAll now kept).1
      kept ({ c with store := .memory m }.spreadAll now kept).2 := by
  subst hd
  have hcore := spreadAll_core { c with store := .memory m } now kept
  refine ⟨?_, ⟨⟨m, store_of_core hcore, ?_⟩, ?_⟩, ?_, ?_⟩
  · have hquiet : Tells c [] { c with store := .memory m } := .nothing rfl rfl
    rw [← hkept]
    exact hquiet.trans (.spreadAll { c with store := .memory m } now kept)
  · rw [hm, List.length_mapIdx]
  · rw [← hkept]
    exact detector_of_core hcore
  · rw [← hkept]
    exact sightings_packet now kept
  · rw [← hkept, spreadAll_alerts]

theorem Takes.ingest {c c' : Collector} {n : Nat} {d : Detector} (hk : Kept c n d) {p : Packet}
    {now : Moment} {s : StoredPacket} {alerts : List Alert}
    (h : c.ingest p now = .ok (c', s, alerts)) :
    Takes c n d [(p.normalize, now)] c' [s] alerts := by
  obtain ⟨m, hm, hnext⟩ := hk.memory
  rw [ingest_memory hm] at h
  simp only [Except.ok.injEq, Prod.mk.injEq] at h
  obtain ⟨rfl, rfl, rfl⟩ := h
  rw [← spreadAll_singleton _ (fun _ => now)]
  refine .spreadAll hk.detector [p.normalize] (fun _ => now) ?_ ?_
  · rw [Memory.save_next, hnext]
    exact (Int64.ofNat_add (n + 1) 1).symm
  · simp only [sightings, keptAfter, Memory.save, hnext]
    rfl

theorem Takes.ingestBatch {c c' : Collector} {n k : Nat} {d : Detector} (hk : Kept c n d) {b : Batch}
    {now : Nat → Moment} {alerts : List Alert} (h : c.ingestBatch b now = .ok (c', k, alerts)) :
    ∃ kept, kept.length = k ∧
      Takes c n d ((b.normalize.getD []).mapIdx fun i p => (p, now i)) c' kept alerts := by
  obtain ⟨m, hm, hnext⟩ := hk.memory
  obtain ⟨ps, m', kept, hb, hsave, rfl, rfl, rfl⟩ := ingestBatch_memory hm h
  refine ⟨kept, rfl, ?_⟩
  rw [hb]
  refine .spreadAll hk.detector ps now ?_ (sightings_saveAll hnext hsave)
  rw [(Memory.saveAll_ok hsave).2, hnext, ← Int64.ofNat_add, Nat.add_right_comm]

end Collector

end PacketTelemetry
