/-
What the watches have to do with one another: nothing. What is raised about an
address, and what is kept under it, is the doing of its own packets; the alerts
about ports are the doing of the ports tried, and those about traffic of the
arrivals. Each of these is told of two runs that agree on what counts and on
nothing else.

For an address that is an induction over the two runs side by side
(`Detector.watched_own`). Runs that show a watch the same things need not be of
one length, so there both are held against what the watch makes of those things
alone (`Watch.replay`).
-/
import Mathlib.Data.Finset.Card
import PacketTelemetry.Proofs.Detector.Watches

namespace PacketTelemetry

open Time

/-! ## What is seen of a packet -/

namespace Sighting

/-- The address under which a packet is watched, if it says where it came from. -/
def address? (s : Sighting) : Option String := s.packet.srcIp.filter fun ip => ip ≠ ""

/-- What the port watch sees of a packet: the address, and the port that is tried. -/
def probe? (s : Sighting) : Option (String × Int32) :=
  s.address?.bind fun ip => s.packet.dstPort.map fun port => (ip, port)

/-- What the arrival watch sees of a packet: the address, and when it came. -/
def arrival? (s : Sighting) : Option (String × Int) := s.address?.map fun ip => (ip, s.now.ticks)

theorem address?_eq_some {s : Sighting} {ip : String} (h : s.address? = some ip) :
    s.packet.srcIp = some ip ∧ ip ≠ "" := by
  obtain ⟨hip, hne⟩ := Option.filter_eq_some_iff.1 h
  exact ⟨hip, by simpa using hne⟩

end Sighting

/-! ## A watch over many addresses -/

/-- One of the two watches: the alerts it raises, what it sees of a packet and under which address,
what it keeps, and what comes of seeing one thing more of an address. -/
structure Watch (α β : Type) where
  kind : AlertKind
  sees : Sighting → Option (String × α)
  table : Detector → Table (List β)
  next : α → List β → List β × Option Nat

/-- The watch on ports. -/
def portWatch (limits : Limits) : Watch Int32 Int32 where
  kind := .portScan
  sees := Sighting.probe?
  table := Detector.ports
  next := watchPort limits.ports

/-- The watch on arrivals. -/
def arrivalWatch (limits : Limits) : Watch Int Int where
  kind := .trafficSpike
  sees := Sighting.arrival?
  table := Detector.arrivals
  next := watchArrival limits.arrivals (limits.windowSeconds * 1000000000)

namespace Watch

variable {α β : Type} (w : Watch α β)

/-- What comes of seeing one thing more of an address, out of all that is kept. -/
def step (t : Table (List β)) (e : String × α) : List β × Option Nat :=
  w.next e.2 ((Table.get? e.1 t).getD [])

/-- The alert that may be raised, but for its time. -/
def told (ip : String) (raised : Option Nat) : List Alert :=
  (raised.map (Detector.alert w.kind ip ⟨0, 0⟩)).toList

/-- What a watch keeps and tells when all it knows is what it sees. -/
def replay (t : Table (List β)) : List (String × α) → Table (List β) × List (List Alert)
  | [] => (t, [])
  | e :: rest =>
    let later := replay (Table.put e.1 (w.step t e).1 t) rest
    (later.1, w.told e.1 (w.step t e).2 :: later.2)

/-- What is told by a run, at each packet of which the watch sees something. -/
def toldIn (run : List (Sighting × List Alert)) : List (List Alert) :=
  (run.filter fun v => (w.sees v.1).isSome).map fun v => (alertsOf w.kind v.2).map (·.undated)

/-- A watch keeps to itself: what it keeps and raises depends on nothing but what it sees, and on
what it has kept. -/
structure Alone (limits : Limits) : Prop where
  blind : ∀ (d : Detector) (s : Sighting), w.sees s = none →
    w.table (d.process s.packet s.now).1 = w.table d ∧
      alertsOf w.kind (d.process s.packet s.now).2 = []
  seen : ∀ (d : Detector) (s : Sighting) (e : String × α), d.limits = limits → w.sees s = some e →
    w.table (d.process s.packet s.now).1 = Table.put e.1 (w.step (w.table d) e).1 (w.table d) ∧
      (alertsOf w.kind (d.process s.packet s.now).2).map (·.undated) =
        w.told e.1 (w.step (w.table d) e).2

namespace Alone

variable {w} {limits : Limits} (h : w.Alone limits)

include h

/-- A run comes to what the watch makes of the things it sees. -/
theorem run_eq {d : Detector} (hd : d.limits = limits) (records : List Sighting) :
    w.replay (w.table d) (records.filterMap w.sees) =
      (w.table (d.after records), w.toldIn (d.watched records)) := by
  induction records generalizing d with
  | nil => rfl
  | cons s records ih =>
    have hlimits : (d.process s.packet s.now).1.limits = limits := by
      rw [Detector.process_limits, hd]
    cases he : w.sees s with
    | none =>
      obtain ⟨htable, -⟩ := h.blind d s he
      rw [List.filterMap_cons_none he, ← htable, ih hlimits]
      simp [toldIn, Detector.watched, he]
    | some e =>
      obtain ⟨htable, htold⟩ := h.seen d s e hd he
      rw [List.filterMap_cons_some he, replay, ← htable, ih hlimits, ← htold]
      simp [toldIn, Detector.watched, he]

/-- Runs that show the watch the same things come to the same. -/
theorem congr {records records' : List Sighting}
    (hsame : records'.filterMap w.sees = records.filterMap w.sees) :
    w.toldIn ((Detector.new limits).watched records') =
        w.toldIn ((Detector.new limits).watched records) ∧
      w.table ((Detector.new limits).after records') =
        w.table ((Detector.new limits).after records) := by
  have hrun := h.run_eq (Detector.new_limits limits) records
  have hrun' := h.run_eq (Detector.new_limits limits) records'
  rw [hsame, hrun, Prod.mk.injEq] at hrun'
  exact ⟨hrun'.2.symm, hrun'.1.symm⟩

/-- What is seen is kept under its address. -/
theorem mem_names {d : Detector} (hd : d.limits = limits) (records : List Sighting) {x : String} :
    x ∈ Table.names (w.table (d.after records)) ↔
      x ∈ Table.names (w.table d) ∨ x ∈ (records.filterMap w.sees).map (·.1) := by
  induction records generalizing d with
  | nil => simp
  | cons s records ih =>
    have hlimits : (d.process s.packet s.now).1.limits = limits := by
      rw [Detector.process_limits, hd]
    rw [Detector.after_cons, ih hlimits]
    cases he : w.sees s with
    | none =>
      obtain ⟨htable, -⟩ := h.blind d s he
      rw [htable, List.filterMap_cons_none he]
    | some e =>
      obtain ⟨htable, -⟩ := h.seen d s e hd he
      rw [htable, Table.mem_names_put, List.filterMap_cons_some he, List.map_cons, List.mem_cons,
        or_assoc, or_left_comm]

theorem ordered {d : Detector} (hd : d.limits = limits) (ho : Table.Ordered (w.table d))
    (records : List Sighting) : Table.Ordered (w.table (d.after records)) := by
  induction records generalizing d with
  | nil => exact ho
  | cons s records ih =>
    have hlimits : (d.process s.packet s.now).1.limits = limits := by
      rw [Detector.process_limits, hd]
    refine ih hlimits ?_
    cases he : w.sees s with
    | none => exact (h.blind d s he).1 ▸ ho
    | some e => exact (h.seen d s e hd he).1 ▸ ho.put _ _

end Alone

end Watch

namespace Detector

/-! ## The two watches -/

theorem process_of_no_address {s : Sighting} (h : s.address? = none) (d : Detector) :
    d.process s.packet s.now = (d, []) := by
  have hip : s.packet.srcIp = none ∨ s.packet.srcIp = some "" := by
    cases hs : s.packet.srcIp with
    | none => exact .inl rfl
    | some ip => simpa [Sighting.address?, hs, Option.filter] using h
  rcases hip with hip | hip <;> simp [process, hip]

/-- Of a packet that says where it came from, the watches see the address, and each what is its. -/
theorem process_of_address {s : Sighting} {ip : String} (h : s.address? = some ip) (d : Detector) :
    d.process s.packet s.now = d.watch ip s.packet.dstPort s.now := by
  obtain ⟨hip, hne⟩ := Sighting.address?_eq_some h
  exact process_of hne hip s.now

@[simp] theorem watch_ports (d : Detector) (ip : String) (port : Option Int32) (now : Moment) :
    (d.watch ip port now).1.ports = (d.seePort? ip port).1.ports := rfl

@[simp] theorem watch_arrivals (d : Detector) (ip : String) (port : Option Int32) (now : Moment) :
    (d.watch ip port now).1.arrivals = (d.seeArrival ip now.ticks).1.arrivals := by
  simp [watch, seeArrival, arrivalsOf, window]

theorem portWatch_alone (limits : Limits) : (portWatch limits).Alone limits where
  blind d s hs := by
    cases ha : s.address? with
    | none => rw [process_of_no_address ha]; exact ⟨rfl, rfl⟩
    | some ip =>
      obtain ⟨hip, hne⟩ := Sighting.address?_eq_some ha
      have hport : s.packet.dstPort = none := by simpa [portWatch, Sighting.probe?, ha] using hs
      refine ⟨?_, ?_⟩
      · simp only [portWatch, process_of_address ha, watch_ports, hport]
        rfl
      · simp only [portWatch, portScans_process hne hip, hport]
        rfl
  seen d s e hd hs := by
    obtain ⟨ip, ha, port, hport, rfl⟩ : ∃ ip, s.address? = some ip ∧
        ∃ port, s.packet.dstPort = some port ∧ (ip, port) = e := by
      simpa [portWatch, Sighting.probe?, Option.bind_eq_some_iff] using hs
    obtain ⟨hip, hne⟩ := Sighting.address?_eq_some ha
    refine ⟨?_, ?_⟩
    · simp only [portWatch, process_of_address ha, watch_ports, hport]
      rw [← hd]
      rfl
    · simp only [portWatch, portScans_process hne hip, hport, undated_alert]
      rw [← hd]
      rfl

theorem arrivalWatch_alone (limits : Limits) : (arrivalWatch limits).Alone limits where
  blind d s hs := by
    have ha : s.address? = none := by simpa [arrivalWatch, Sighting.arrival?] using hs
    rw [process_of_no_address ha]
    exact ⟨rfl, rfl⟩
  seen d s e hd hs := by
    obtain ⟨ip, ha, rfl⟩ : ∃ ip, s.address? = some ip ∧ (ip, s.now.ticks) = e := by
      simpa [arrivalWatch, Sighting.arrival?] using hs
    obtain ⟨hip, hne⟩ := Sighting.address?_eq_some ha
    refine ⟨?_, ?_⟩
    · simp only [arrivalWatch, process_of_address ha, watch_arrivals]
      rw [← hd]
      rfl
    · simp only [arrivalWatch, trafficSpikes_process hne hip, undated_alert]
      rw [← hd]
      rfl

/-! ## One address -/

/-- What is kept under an address: its ports, and its arrivals. -/
def held (d : Detector) (x : String) : Option (List Int32) × Option (List Int) :=
  (Table.get? x d.ports, Table.get? x d.arrivals)

/-- A packet from elsewhere changes nothing that is kept under an address. -/
theorem held_process_other {x : String} {s : Sighting} (hip : s.packet.srcIp ≠ some x)
    (d : Detector) : (d.process s.packet s.now).1.held x = d.held x := by
  cases ha : s.address? with
  | none => rw [process_of_no_address ha]
  | some ip =>
    have hne : x ≠ ip := fun h => hip (h ▸ (Sighting.address?_eq_some ha).1)
    rw [process_of_address ha]
    cases s.packet.dstPort <;>
      simp [held, seePort?, seePort, seeArrival, Table.get?_put_other hne]

/-- A packet of an address finds nothing but what is kept under it. -/
theorem process_held {x : String} {s : Sighting} (hip : s.packet.srcIp = some x) {d e : Detector}
    (hl : d.limits = e.limits) (hh : d.held x = e.held x) :
    (d.process s.packet s.now).2 = (e.process s.packet s.now).2 ∧
      (d.process s.packet s.now).1.held x = (e.process s.packet s.now).1.held x := by
  cases ha : s.address? with
  | none =>
    rw [process_of_no_address ha, process_of_no_address ha]
    exact ⟨rfl, hh⟩
  | some ip =>
    obtain rfl : ip = x := Option.some.inj ((Sighting.address?_eq_some ha).1.symm.trans hip)
    obtain ⟨hports, harrivals⟩ := Prod.mk.inj hh
    have hp : d.portsOf ip = e.portsOf ip := congrArg (·.getD []) hports
    have hq : d.arrivalsOf ip = e.arrivalsOf ip := congrArg (·.getD []) harrivals
    rw [process_of_address ha, process_of_address ha]
    cases s.packet.dstPort <;>
      simp [held, watch, seePort?, seePort, seeArrival, portsOf, arrivalsOf, window,
        Table.get?_put_self, hl, hports, harrivals]

/-- The packets of an address in a run are told of what they are told of alone. -/
theorem watched_own (x : String) {d e : Detector} (hl : d.limits = e.limits)
    (hh : d.held x = e.held x) (records : List Sighting) :
    (d.watched records).filter (fun w => w.1.packet.srcIp = some x) =
        e.watched (records.filter fun s => s.packet.srcIp = some x) ∧
      (d.after records).held x =
        (e.after (records.filter fun s => s.packet.srcIp = some x)).held x := by
  induction records generalizing d e with
  | nil => exact ⟨rfl, hh⟩
  | cons s records ih =>
    have hl' : (d.process s.packet s.now).1.limits = (e.process s.packet s.now).1.limits := by
      rw [process_limits, process_limits, hl]
    by_cases hip : s.packet.srcIp = some x
    · obtain ⟨halerts, hheld⟩ := process_held hip hl hh
      obtain ⟨hrest, hlast⟩ := ih hl' hheld
      refine ⟨?_, ?_⟩
      · simp [watched, hip, hrest, halerts]
      · simp [hip, hlast]
    · have hlimits : (d.process s.packet s.now).1.limits = e.limits := by rw [process_limits, hl]
      obtain ⟨hrest, hlast⟩ := ih hlimits ((held_process_other hip d).trans hh)
      refine ⟨?_, ?_⟩
      · simp [watched, hip, hrest]
      · simp [hip, hlast]

/-- The alerts of a run about an address. -/
def alertsAbout (x : String) (run : List (Sighting × List Alert)) : List Alert :=
  (run.flatMap (·.2)).filter fun a => a.srcIp = x

/-- The alerts about an address are those its own packets raise. -/
theorem alertsAbout_eq {x : String} {run : List (Sighting × List Alert)}
    (hrun : ∀ w ∈ run, ∀ a ∈ w.2, w.1.packet.srcIp = some a.srcIp) :
    alertsAbout x run = (run.filter fun w => w.1.packet.srcIp = some x).flatMap (·.2) := by
  induction run with
  | nil => rfl
  | cons w run ih =>
    obtain ⟨hw, hrun⟩ := List.forall_mem_cons.1 hrun
    have hcons : alertsAbout x (w :: run) = (w.2.filter fun a => a.srcIp = x) ++ alertsAbout x run := by
      simp [alertsAbout]
    rw [hcons, ih hrun]
    by_cases hip : w.1.packet.srcIp = some x
    · have hall : w.2.filter (fun a => a.srcIp = x) = w.2 := by
        refine List.filter_eq_self.2 fun a ha => ?_
        simpa using Option.some.inj ((hw a ha).symm.trans hip)
      rw [hall, List.filter_cons_of_pos (by simpa using hip), List.flatMap_cons]
    · have hnone : w.2.filter (fun a => a.srcIp = x) = [] := by
        refine List.filter_eq_nil_iff.2 fun a ha heq => hip ?_
        rw [hw a ha, of_decide_eq_true heq]
      rw [hnone, List.filter_cons_of_neg (by simpa using hip), List.nil_append]

theorem alertsAbout_own (x : String) (limits : Limits) (records : List Sighting) :
    alertsAbout x ((new limits).watched records) =
      alertsAbout x ((new limits).watched (records.filter fun s => s.packet.srcIp = some x)) := by
  have hraised : ∀ records, ∀ w ∈ (new limits).watched records, ∀ a ∈ w.2,
      w.1.packet.srcIp = some a.srcIp :=
    forall_watched (P := fun s alerts => ∀ a ∈ alerts, s.packet.srcIp = some a.srcIp)
      fun _ _ _ _ ha => (srcIp_of_mem_process ha).1
  rw [alertsAbout_eq (hraised _), alertsAbout_eq (hraised _), ← (watched_own x rfl rfl records).1,
    List.filter_filter]
  simp only [Bool.and_self]

/-! ## No address -/

/-- Packets that do not say where they came from are as good as absent. -/
theorem after_addressed (d : Detector) (records : List Sighting) :
    d.after records = d.after (records.filter (·.address?.isSome)) ∧
      (d.watched records).filter (·.1.address?.isSome) =
        d.watched (records.filter (·.address?.isSome)) := by
  induction records generalizing d with
  | nil => exact ⟨rfl, rfl⟩
  | cons s records ih =>
    cases ha : s.address? with
    | none =>
      obtain ⟨hlast, hrest⟩ := ih d
      simp [watched, ha, process_of_no_address ha, hrest, ← hlast]
    | some ip =>
      obtain ⟨hlast, hrest⟩ := ih (d.process s.packet s.now).1
      simp [watched, ha, hrest, ← hlast]

/-! ## Addresses -/

theorem mem_names_arrivals {limits : Limits} {records : List Sighting} {x : String} :
    x ∈ Table.names ((new limits).after records).arrivals ↔ x ∈ records.filterMap (·.address?) := by
  have hmem := (arrivalWatch_alone limits).mem_names (new_limits limits) records (x := x)
  have haddress : (records.filterMap (·.arrival?)).map (·.1) = records.filterMap (·.address?) := by
    rw [List.map_filterMap]
    congr 1
    funext s
    unfold Sighting.arrival?
    cases s.address? <;> rfl
  rw [← haddress]
  simpa [arrivalWatch, new, Table.names] using hmem

/-- The addresses that are tracked are those that packets came from. -/
theorem trackedIps_eq (limits : Limits) (records : List Sighting) :
    ((new limits).after records).trackedIps = (records.filterMap (·.address?)).toFinset.card := by
  have hordered : Table.Ordered ((new limits).after records).arrivals :=
    (arrivalWatch_alone limits).ordered (new_limits limits) List.Pairwise.nil records
  have hsame : (Table.names ((new limits).after records).arrivals).toFinset =
      (records.filterMap (·.address?)).toFinset := by
    ext x
    rw [List.mem_toFinset, List.mem_toFinset, mem_names_arrivals]
  rw [← hsame, List.toFinset_card_of_nodup hordered.nodup]
  exact (List.length_map _).symm

/-- An address whose ports are kept has arrivals as well. -/
theorem tracked_of_ports {limits : Limits} {records : List Sighting} {x : String}
    (h : (Table.get? x ((new limits).after records).ports).isSome) :
    (Table.get? x ((new limits).after records).arrivals).isSome := by
  rw [Table.isSome_get?_iff] at h ⊢
  have hmem := (portWatch_alone limits).mem_names (new_limits limits) records (x := x)
  obtain ⟨e, he, rfl⟩ : ∃ e ∈ records.filterMap (·.probe?), e.1 = x := by
    simpa [portWatch, new, Table.names] using hmem.1 h
  obtain ⟨s, hs, hprobe⟩ := List.mem_filterMap.1 he
  obtain ⟨ip, ha, port, -, rfl⟩ : ∃ ip, s.address? = some ip ∧
      ∃ port, s.packet.dstPort = some port ∧ (ip, port) = e := by
    simpa [Sighting.probe?, Option.bind_eq_some_iff] using hprobe
  exact mem_names_arrivals.2 (List.mem_filterMap.2 ⟨s, hs, ha⟩)

/-- **Isolation.** For an address it is all the same whether its packets come among others or
alone: the alerts about it are the same, packet by packet, and so is what is kept under it. For the
alerts about ports nothing counts but which address tries which port, one after another: not when,
and not what packets there are without a port. For those about traffic nothing counts but which
address sends a packet at which time. Packets without an address, or with an empty one, count for
nothing. What is tracked are the addresses that packets came from, and ports are kept only for
those that are. -/
theorem isolated (limits : Limits) (records : List Sighting) :
    (∀ x own, own = records.filter (fun s => s.packet.srcIp = some x) →
      alertsAbout x ((new limits).watched records) = alertsAbout x ((new limits).watched own) ∧
      ((new limits).watched records).filter (fun w => w.1.packet.srcIp = some x) =
        (new limits).watched own ∧
      ((new limits).after records).held x = ((new limits).after own).held x) ∧
    (∀ records', records'.filterMap (·.probe?) = records.filterMap (·.probe?) →
      (portWatch limits).toldIn ((new limits).watched records') =
        (portWatch limits).toldIn ((new limits).watched records) ∧
      ((new limits).after records').ports = ((new limits).after records).ports) ∧
    (∀ records', records'.filterMap (·.arrival?) = records.filterMap (·.arrival?) →
      (arrivalWatch limits).toldIn ((new limits).watched records') =
        (arrivalWatch limits).toldIn ((new limits).watched records) ∧
      ((new limits).after records').arrivals = ((new limits).after records).arrivals) ∧
    (∀ records', records'.filter (·.address?.isSome) = records.filter (·.address?.isSome) →
      ((new limits).watched records').filter (·.1.address?.isSome) =
        ((new limits).watched records).filter (·.1.address?.isSome) ∧
      (new limits).after records' = (new limits).after records) ∧
    (∀ w ∈ (new limits).watched records,
      (w.1.probe? = none → alertsOf .portScan w.2 = []) ∧ (w.1.address? = none → w.2 = []) ∧
      ∀ a ∈ w.2, w.1.packet.srcIp = some a.srcIp ∧ a.detectedAt = w.1.now.raisedAt a.kind) ∧
    ((new limits).after records).trackedIps = (records.filterMap (·.address?)).toFinset.card ∧
    ∀ x, (Table.get? x ((new limits).after records).ports).isSome →
      (Table.get? x ((new limits).after records).arrivals).isSome := by
  refine ⟨?_, fun records' hsame => (portWatch_alone limits).congr hsame,
    fun records' hsame => (arrivalWatch_alone limits).congr hsame, fun records' hsame => ?_, ?_,
    trackedIps_eq limits records, fun x => tracked_of_ports⟩
  · rintro x _ rfl
    exact ⟨alertsAbout_own x limits records, watched_own x rfl rfl records⟩
  · obtain ⟨hlast, halerts⟩ := after_addressed (new limits) records
    obtain ⟨hlast', halerts'⟩ := after_addressed (new limits) records'
    rw [halerts', hlast', hsame, ← halerts, ← hlast]
    exact ⟨rfl, rfl⟩
  · refine forall_watched (P := fun s alerts => (s.probe? = none → alertsOf .portScan alerts = []) ∧
      (s.address? = none → alerts = []) ∧
      ∀ a ∈ alerts, s.packet.srcIp = some a.srcIp ∧ a.detectedAt = s.now.raisedAt a.kind) ?_ records
    intro d s _
    refine ⟨fun hs => ((portWatch_alone limits).blind d s hs).2, fun hs => ?_, fun a ha => ?_⟩
    · rw [process_of_no_address hs]
    · exact ⟨(srcIp_of_mem_process ha).1, detectedAt_of_mem_process ha⟩

/-- Two addresses, of which one tries two ports and sends three packets; two ports or three packets
raise an alert. The alerts are told again from its packets alone, from the ports at other times,
from the times without ports, and without the packet of nobody. -/
theorem isolated_of_two :
    alertsAbout "a" ((new ⟨2, 2, 10⟩).watched
        [.of "a" (some 80) 0, .of "a" none 2, .of "a" (some 443) 3]) =
      [alert .portScan "a" ⟨0, 0⟩ 2, alert .trafficSpike "a" ⟨0, 0⟩ 3] ∧
    (portWatch ⟨2, 2, 10⟩).toldIn ((new ⟨2, 2, 10⟩).watched
        [.of "a" (some 80) 9, .of "b" (some 22) 0, .of "a" (some 443) 5]) =
      [[], [], [alert .portScan "a" ⟨0, 0⟩ 2]] ∧
    (arrivalWatch ⟨2, 2, 10⟩).toldIn ((new ⟨2, 2, 10⟩).watched
        [.of "a" none 0, .of "b" none 1, .of "a" (some 7) 2, .of "a" none 3]) =
      [[], [], [], [alert .trafficSpike "a" ⟨0, 0⟩ 3]] ∧
    ((new ⟨2, 2, 10⟩).after
        [.of "a" (some 80) 0, .of "b" (some 22) 1, .of "a" none 2, .of "a" (some 443) 3]).trackedIps =
      2 := by
  obtain ⟨hown, hports, harrivals, hnobody, -, htracked, -⟩ := isolated ⟨2, 2, 10⟩
    [.of "a" (some 80) 0, .of "b" (some 22) 1, .of "a" none 2, .of "" (some 9) 2,
      .of "a" (some 443) 3]
  refine ⟨?_, ?_, ?_, ?_⟩
  · rw [← (hown "a" _ (by decide)).1]
    decide
  · rw [(hports _ (by decide)).1]
    decide
  · rw [(harrivals _ (by decide)).1]
    decide
  · rw [(hnobody _ (by decide)).2, htracked]
    decide

end Detector

end PacketTelemetry
