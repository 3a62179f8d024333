/-
Where that comes from which a collector keeps and puts out
(`Collector.run_scrubbed`): every packet in the store, in a queue and on its way
to the broker is one that was reported, but for its NUL characters, and every
address in an alert or in the detector is that of such a packet. So there are no
NUL characters to be found in any of them.

That is carried through a run for packets of any kind (`Collector.Holds`): if
all that come in are of that kind, there are no others.
-/
import PacketTelemetry.Proofs.Collector.Stock
import PacketTelemetry.Proofs.Detector.Isolation
import PacketTelemetry.Proofs.Packet.Scrubbing

namespace PacketTelemetry

open Json Http

/-! ## Packets as they were reported -/

/-- The packets that were taken in as they were reported, with the names they take from their
batch. -/
def Entry.drafts (e : Entry) : List Packet :=
  match e.tidings? with
  | some (.packet p) => [p]
  | some (.batch b) => (b.packets.getD []).map (·.inheritFrom b)
  | _ => []

theorem Entry.brought_drafts (e : Entry) : e.brought.map (·.1) = e.drafts.map (·.normalize) := by
  unfold Entry.brought Entry.drafts
  cases e.tidings? with
  | none => rfl
  | some tidings =>
    cases tidings with
    | packet p => rfl
    | batch b =>
      have hfirst : ∀ ps : List Packet,
          (ps.mapIdx fun i p => (p, e.act.moment i)).map (·.1) = ps := fun ps =>
        List.ext_getElem (by simp) (by simp)
      dsimp only
      rw [hfirst, Batch.normalize]
      cases b.packets with
      | none => rfl
      | some ps => exact (List.map_map ..).symm
    | heartbeat a => rfl

/-- What is kept are the packets that were reported, made fit. -/
theorem keptAfter_drafts (n : Nat) (trace : List Entry) :
    ((keptAfter n (trace.flatMap (·.brought))).map (·.packet)).map (·.packet) =
      (trace.flatMap (·.drafts)).map (·.normalize) := by
  rw [List.map_map, List.map_flatMap]
  refine (keptAfter_packets _ _).trans ?_
  rw [List.map_flatMap]
  exact List.flatMap_congr fun e _ => e.brought_drafts

section

variable {ps : List Packet} {records : List StoredPacket}
  (h : records.map (·.packet) = ps.map (·.normalize))
include h

theorem scrubbed_of_normalized : List.Forall₂ (fun p r => p.Scrubbed r.packet) ps records := by
  rw [← List.forall₂_map_right_iff (R := Packet.Scrubbed), h, List.forall₂_map_right_iff,
    List.forall₂_same]
  exact fun p _ => p.scrubbed_normalize

theorem nulFree_of_normalized {r : StoredPacket} (hr : r ∈ records) : r.packet.NulFree := by
  have hpacket : r.packet ∈ ps.map (·.normalize) := h ▸ List.mem_map_of_mem hr
  obtain ⟨p, -, hp⟩ := List.mem_map.1 hpacket
  rw [← hp]
  exact p.nulFree_normalize

end

/-! ## Packets of one kind -/

variable {P : StoredPacket → Prop}

/-- An address that a packet of this kind came from. -/
def AddressIn (P : StoredPacket → Prop) (ip : String) : Prop := ∃ s, P s ∧ s.srcIp = some ip

/-- A message about packets of this kind. -/
def Message.About (P : StoredPacket → Prop) : Message → Prop
  | .packet s => P s
  | .alert a => AddressIn P a.srcIp
  | .heartbeat _ => True

/-- Alerts are about the packets that raise them. -/
theorem addressIn_of_watched {d : Detector} {records : List Sighting}
    (hP : ∀ w ∈ records, P w.packet) {w : Sighting × List Alert} (hw : w ∈ d.watched records) :
    P w.1.packet ∧ ∀ a ∈ w.2, AddressIn P a.srcIp := by
  have hrecord : w.1 ∈ records := by
    rw [← d.watched_fst records]
    exact List.mem_map_of_mem hw
  have hip := Detector.forall_watched (d := d)
    (P := fun s alerts => ∀ a ∈ alerts, s.packet.srcIp = some a.srcIp)
    (fun _ _ _ a ha => (Detector.srcIp_of_mem_process ha).1) records w hw
  exact ⟨hP _ hrecord, fun a ha => ⟨_, hP _ hrecord, hip a ha⟩⟩

theorem about_of_watched {d : Detector} {records : List Sighting}
    (hP : ∀ w ∈ records, P w.packet) {m : Message}
    (hm : m ∈ (d.watched records).flatMap messagesOf) : m.About P := by
  obtain ⟨w, hw, hm⟩ := List.mem_flatMap.1 hm
  obtain ⟨hpacket, halerts⟩ := addressIn_of_watched hP hw
  rcases List.mem_cons.1 hm with rfl | hm
  · exact hpacket
  · obtain ⟨a, ha, rfl⟩ := List.mem_map.1 hm
    exact halerts a ha

namespace Memory

theorem mem_save {m : Memory} {received : Time.Instant} {p : Packet} {s : StoredPacket}
    (hs : s ∈ (m.save received p).1.packets) : s = (m.save received p).2 ∨ s ∈ m.packets :=
  List.mem_cons.1 ((enforceLimit_sublist _ _ _).subset hs)

theorem mem_saveAll {m m' : Memory} {received : Nat → Time.Instant} {ps : List Packet}
    {kept : List StoredPacket} (h : m.saveAll received ps = .ok (m', kept)) {s : StoredPacket}
    (hs : s ∈ m'.packets) : s ∈ kept ∨ s ∈ m.packets := by
  unfold saveAll at h
  split at h
  · cases h
    exact .inr hs
  · split at h
    · cases h
    · cases h
      have hmem := (enforceLimit_sublist _ _ _).subset hs
      exact (List.mem_append.1 hmem).imp_left List.mem_reverse.1

end Memory

namespace Collector

/-! ## What a collector holds -/

/-- All packets a collector holds are of one kind, and all its alerts about the addresses of such. -/
structure Holds (P : StoredPacket → Prop) (c : Collector) : Prop where
  stored : ∀ m, c.store = .memory m → ∀ s ∈ m.packets, P s
  packets : ∀ s ∈ c.channels.packets.queued, P s
  alerts : ∀ a ∈ c.channels.alerts.queued, AddressIn P a.srcIp
  outbound : ∀ m ∈ c.outbound.queue, m.About P

theorem Holds.new {s : Setup} {limit : Nat} (hs : s.store = .memory (.new limit)) :
    Holds P (new s) := by
  refine ⟨?_, ?_, ?_, ?_⟩
  · intro m hm
    cases hs.symm.trans hm
    exact fun _ h => nomatch h
  · exact fun _ h => nomatch h
  · exact fun _ h => nomatch h
  · exact fun _ h => nomatch h

theorem Holds.drains {c c' : Collector} (h : Holds P c) (hd : Drains c c') : Holds P c' := by
  have hstore : c'.store = c.store := store_of_core hd.core
  refine ⟨?_, ?_, ?_, ?_⟩
  · intro m hm
    exact h.stored m (hstore ▸ hm)
  · exact fun s hs => h.packets s (hd.hub .packets hs)
  · exact fun a ha => h.alerts a (hd.hub .alerts ha)
  · exact fun m hm => h.outbound m (hd.outbound hm)

theorem Holds.tells {c c' : Collector} {ms : List Message} (h : Holds P c) (ht : Tells c ms c')
    (hms : ∀ m ∈ ms, m.About P) (hs : ∀ m, c'.store = .memory m → ∀ s ∈ m.packets, P s) :
    Holds P c' := by
  obtain ⟨es, he, hm⟩ := ht
  refine ⟨hs, ?_, ?_, ?_⟩
  · intro s hmem
    have hhub : c'.channels.packets = c.channels.packets.publishAll (packetsIn ms) := by
      rw [← hm.packets]
      exact he.hub .packets
    rw [hhub] at hmem
    rcases Hub.mem_queued_publishAll hmem with hmem | hmem
    · exact hms _ (mem_packetsIn.1 hmem)
    · exact h.packets s hmem
  · intro a hmem
    have hhub : c'.channels.alerts = c.channels.alerts.publishAll (alertsIn ms) := by
      rw [← hm.alerts]
      exact he.hub .alerts
    rw [hhub] at hmem
    rcases Hub.mem_queued_publishAll hmem with hmem | hmem
    · exact hms _ (mem_alertsIn.1 hmem)
    · exact h.alerts a hmem
  · intro m hmem
    rw [he.outbound, hm.sent] at hmem
    exact (Outbound.mem_sendAll hmem).elim (hms m) (h.outbound m)

namespace Moves

variable {c c' : Collector} {brought : List (Packet × Moment)} {ins : List Incoming}
  {printed : List Alert} {n : Nat} {d : Detector}

/-- What is told are the packets that come in, their alerts, and agents. -/
theorem tells (hm : Moves c brought ins printed c') (hk : Kept c n d) :
    (∃ as : List Agent, Tells c
      ((d.watched (keptAfter n brought)).flatMap messagesOf ++ as.map .heartbeat) c') ∧
      (d.watched (keptAfter n brought)).flatMap (·.2) = printed := by
  cases hm with
  | nothing => exact ⟨⟨[], .refl c⟩, rfl⟩
  | packet h =>
    have ht := Takes.ingest hk h
    exact ⟨⟨[], (List.append_nil _).symm ▸ ht.tells⟩, ht.alerts⟩
  | batch h =>
    obtain ⟨kept, -, ht⟩ := Takes.ingestBatch hk h
    exact ⟨⟨[], (List.append_nil _).symm ▸ ht.tells⟩, ht.alerts⟩
  | heartbeat a => exact ⟨⟨[], .roster c a⟩, rfl⟩
  | directHeartbeat a => exact ⟨⟨[a], .directHeartbeat c a⟩, rfl⟩
  | lines lines => exact ⟨⟨[], (c.routeLines_aside lines).1⟩, rfl⟩
  | analytics a payload => exact ⟨⟨[], .aside c (.analytics a) payload (by simp) (by simp)⟩, rfl⟩

/-- What is in the store was there before, or comes in. -/
theorem stored (hm : Moves c brought ins printed c') (hk : Kept c n d) {m' : Memory}
    (hs : c'.store = .memory m') {s : StoredPacket} (hmem : s ∈ m'.packets) :
    (∃ w ∈ keptAfter n brought, w.packet = s) ∨ ∃ m, c.store = .memory m ∧ s ∈ m.packets := by
  obtain ⟨m, hstore, hnext⟩ := hk.memory
  cases hm with
  | @packet p now kept alerts _ h =>
    rw [ingest_memory hstore] at h
    simp only [Except.ok.injEq, Prod.mk.injEq] at h
    obtain ⟨rfl, -, -⟩ := h
    have hsaved : Store.memory (m.save now.wall p.normalize).1 = .memory m' :=
      (store_of_core (spread_core _ _ now) :).symm.trans hs
    cases hsaved
    rcases Memory.mem_save hmem with rfl | hmem
    · refine .inl ⟨_, List.mem_singleton.2 rfl, ?_⟩
      simp only [Memory.save, hnext]
      rfl
    · exact .inr ⟨m, hstore, hmem⟩
  | @batch b now k alerts _ h =>
    obtain ⟨ps, m'', kept, hb, hsave, rfl, -, -⟩ := ingestBatch_memory hstore h
    rw [spreadAll_store] at hs
    cases hs
    rcases Memory.mem_saveAll hsave hmem with hmem | hmem
    · rw [← sightings_packet now kept, sightings_saveAll hnext hsave] at hmem
      rw [hb, Option.getD_some]
      exact .inl (List.mem_map.1 hmem)
    · exact .inr ⟨m, hstore, hmem⟩
  | lines lines => exact .inr ⟨m', (c.routeLines_aside lines).2.1 ▸ hs, hmem⟩
  | nothing | heartbeat _ | directHeartbeat _ | analytics _ _ => exact .inr ⟨m', hs, hmem⟩

/-- If what comes in is of one kind, so is what a collector holds then. -/
theorem holds (hm : Moves c brought ins printed c') (hk : Kept c n d) (h : Holds P c)
    (hP : ∀ w ∈ keptAfter n brought, P w.packet) :
    Holds P c' ∧ ∀ a ∈ printed, AddressIn P a.srcIp := by
  obtain ⟨⟨as, htells⟩, hprinted⟩ := hm.tells hk
  refine ⟨h.tells htells ?_ ?_, ?_⟩
  · intro m hmem
    rcases List.mem_append.1 hmem with hmem | hmem
    · exact about_of_watched hP hmem
    · obtain ⟨a, -, rfl⟩ := List.mem_map.1 hmem
      trivial
  · intro m' hs s hmem
    rcases hm.stored hk hs hmem with ⟨w, hw, rfl⟩ | ⟨m, hstore, hmem⟩
    · exact hP w hw
    · exact h.stored m hstore s hmem
  · intro a ha
    rw [← hprinted] at ha
    obtain ⟨w, hw, ha⟩ := List.mem_flatMap.1 ha
    exact (addressIn_of_watched hP hw).2 a ha

end Moves

/-! ## Runs -/

section

variable {c : Collector} {n : Nat} {d : Detector}

theorem run_holds (hk : Kept c n d) (hn : c.Numbered) (h : Holds P c) {acts : List Act}
    (hP : ∀ w ∈ keptAfter n ((c.run acts).2.flatMap (·.brought)), P w.packet) :
    Holds P (c.run acts).1 ∧ ∀ e ∈ (c.run acts).2, ∀ a ∈ e.printed, AddressIn P a.srcIp := by
  induction acts generalizing c n d with
  | nil => exact ⟨h, by simp [run]⟩
  | cons act acts ih =>
    rw [run, List.flatMap_cons, keptAfter_append, List.forall_mem_append] at hP
    obtain ⟨hfirst, hrest⟩ := hP
    have hstep : Holds P (c.step act).1 ∧ ∀ a ∈ (c.entry act).printed, AddressIn P a.srcIp := by
      cases ha : act.observes with
      | false => exact (c.step_moves ha).holds hk h hfirst
      | true =>
        rw [(c.observer_brings ha).2]
        exact ⟨h.drains (c.observer_drains ha), by simp⟩
    have acc := account_step hk hn act
    obtain ⟨hlast, hprinted⟩ := ih acc.books acc.follows.numbered hstep.1 hrest
    exact ⟨hlast, List.forall_mem_cons.2 ⟨hstep.2, hprinted⟩⟩

end

/-- An address kept by the detector is that of a packet it has seen. -/
theorem address_of_detector {limits : Limits} {records : List Sighting} {x : String}
    (hx : x ∈ Table.names ((Detector.new limits).after records).ports ∨
      x ∈ Table.names ((Detector.new limits).after records).arrivals) :
    ∃ w ∈ records, w.packet.srcIp = some x := by
  have harrivals : x ∈ Table.names ((Detector.new limits).after records).arrivals := by
    rcases hx with hx | hx
    · exact Table.isSome_get?_iff.1 (Detector.tracked_of_ports (Table.isSome_get?_iff.2 hx))
    · exact hx
  obtain ⟨w, hw, haddress⟩ := List.mem_filterMap.1 (Detector.mem_names_arrivals.1 harrivals)
  exact ⟨w, hw, (Sighting.address?_eq_some haddress).1⟩

/-- **No NUL characters.** In every run of a collector with a memory the packets that are kept are
those that were reported, with the names of their batch, one for one, and each has all its texts as
they were but for the NUL characters, and all its numbers. In the store, in the queues of those who
listen, and on the way to the broker there are no other packets; and all alerts, and all the
detector keeps, are about addresses of these. So there is a NUL character in none of them. A text of
nothing else becomes empty, and to make a packet fit a second time changes nothing. -/
theorem run_scrubbed (s : Setup) {acts : List Act} {limit : Nat} {c : Collector}
    {trace : List Entry} (hs : s.store = .memory (.new limit))
    (hrun : (new s).run acts = (c, trace)) :
    ∃ records : List StoredPacket,
      List.Forall₂ (fun p r => p.Scrubbed r.packet) (trace.flatMap (·.drafts)) records ∧
      records.map (·.id) = (List.range records.length).map (fun i => Int64.ofNat (i + 1)) ∧
      (∃ m, c.store = .memory m ∧ ∀ r ∈ m.packets, r ∈ records) ∧
      (∀ r ∈ c.channels.packets.queued, r ∈ records) ∧
      (∀ r, .packet r ∈ c.outbound.queue → r ∈ records) ∧
      (∀ r ∈ records, r.packet.NulFree) ∧
      (∀ a, a ∈ c.channels.alerts.queued ∨ .alert a ∈ c.outbound.queue ∨
        (∃ e ∈ trace, a ∈ e.printed) → '\x00' ∉ a.srcIp.toList) ∧
      (∀ x, x ∈ Table.names c.detector.ports ∨ x ∈ Table.names c.detector.arrivals →
        '\x00' ∉ x.toList) ∧
      (∀ t u, Scrubbed t u → (∀ ch ∈ t.toList, ch = '\x00') → u = "") ∧
      ∀ p : Packet, p.normalize.normalize = p.normalize := by
  have hk := Kept.new hs
  have hn := Numbered.new s
  obtain ⟨rfl, rfl⟩ := Prod.ext_iff.1 hrun
  obtain ⟨-, hbooks⟩ := run_books hk hn acts
  let kept := keptAfter 0 (((new s).run acts).2.flatMap (·.brought))
  let records := kept.map (·.packet)
  have hpackets : records.map (·.packet) =
      (((new s).run acts).2.flatMap (·.drafts)).map (·.normalize) := keptAfter_drafts 0 _
  have hfree : ∀ r ∈ records, r.packet.NulFree := fun _ => nulFree_of_normalized hpackets
  have haddress : ∀ {ip}, AddressIn (· ∈ records) ip → '\x00' ∉ ip.toList := by
    rintro ip ⟨r, hr, hip⟩
    have htext : some ip ∈ r.packet.texts := by simp [Packet.texts, ← hip, StoredPacket.srcIp]
    exact hfree r hr ip htext
  have hkept : ∀ w ∈ kept, w.packet ∈ records := fun w hw => List.mem_map_of_mem hw
  obtain ⟨hholds, hprinted⟩ := run_holds hk hn (.new hs) hkept
  refine ⟨records, scrubbed_of_normalized hpackets, ?_, ?_, hholds.packets,
    fun r => hholds.outbound (.packet r), hfree, ?_, ?_, fun _ _ h => h.eq_empty,
    Packet.normalize_normalize⟩
  · rw [List.map_map, List.length_map, length_keptAfter]
    exact keptAfter_ids _
  · obtain ⟨m, hm, -⟩ := hbooks.memory
    exact ⟨m, hm, hholds.stored m hm⟩
  · rintro a (ha | ha | ⟨e, he, ha⟩)
    · exact haddress (hholds.alerts a ha)
    · exact haddress (hholds.outbound _ ha)
    · exact haddress (hprinted e he a ha)
  · intro x hx
    rw [hbooks.detector] at hx
    obtain ⟨w, hw, hip⟩ := address_of_detector hx
    exact haddress ⟨w.packet, hkept w hw, hip⟩

/-- One packet says where it came from, and another takes its agent from its batch. Both have NUL
characters in them, and one listens. -/
theorem run_scrubbed_of_two :
    ∃ one many c trace records,
      one = { Packet.blank with srcIp := some "10\x00.0.0.1", seq := some 0 } ∧
      many = Batch.mk (some "\x00a") none none (some [{ Packet.blank with payload := some "\x00" }]) ∧
      (new ⟨.memory (.new 1), ⟨1, 500, 10⟩, .standard, 1000, 100, .utc⟩).run
        [.subscribe .packets, .ingest one (.once ⟨0, 0⟩ 0), .ingestBatch many fun _ => .once ⟨0, 0⟩ 0] =
          (c, trace) ∧
      List.Forall₂ (fun p r => p.Scrubbed r.packet)
        [one, { Packet.blank with agentId := some "\x00a", payload := some "\x00" }] records ∧
      (∀ r ∈ c.channels.packets.queued, r ∈ records) ∧ ∀ r ∈ records, r.packet.NulFree := by
  let s : Setup := ⟨.memory (.new 1), ⟨1, 500, 10⟩, .standard, 1000, 100, .utc⟩
  let one : Packet := { Packet.blank with srcIp := some "10\x00.0.0.1", seq := some 0 }
  let many : Batch :=
    ⟨some "\x00a", none, none, some [{ Packet.blank with payload := some "\x00" }]⟩
  let acts : List Act :=
    [.subscribe .packets, .ingest one (.once ⟨0, 0⟩ 0), .ingestBatch many fun _ => .once ⟨0, 0⟩ 0]
  have hdrafts : ((new s).run acts).2.flatMap (·.drafts) =
      [one, { Packet.blank with agentId := some "\x00a", payload := some "\x00" }] := by
    decide +kernel
  obtain ⟨c, trace, hrun⟩ : ∃ c trace, (new s).run acts = (c, trace) := ⟨_, _, rfl⟩
  obtain ⟨records, hrecords, -, -, hqueued, -, hfree, -⟩ := run_scrubbed s rfl hrun
  rw [hrun] at hdrafts
  rw [hdrafts] at hrecords
  exact ⟨one, many, c, trace, records, rfl, rfl, hrun, hrecords, hqueued, hfree⟩

end Collector

end PacketTelemetry
