/-
What becomes of all that the watches see, whatever the clock does: a port or an
arrival has been counted in one alert, is still kept, or has been let go for its
age (`Detector.accounted`).

Each watch lets what it keeps grow by one thing at the most, and begins anew as
soon as there is enough for an alert (`Watch.Counts`). So there is never more
than just enough: that is why an alert always tells the same number, and why the
books of a run balance. In what order the arrivals stand has no part in it.
-/
import PacketTelemetry.Proofs.Detector.PortScan
import PacketTelemetry.Proofs.Detector.Tuning

namespace PacketTelemetry

open Time

namespace Watch

variable {α β : Type}

/-- What a watch sees under an address in a run, each thing with what is kept when it comes. -/
def met (w : Watch α β) (x : String) (d : Detector) : List Sighting → List (α × List β)
  | [] => []
  | s :: rest =>
    ((w.sees s).filter fun e => e.1 = x).toList.map (fun e => (e.2, w.kept d x)) ++
      met w x (d.process s.packet s.now).1 rest

theorem met_append (w : Watch α β) (x : String) (d : Detector) (records records' : List Sighting) :
    w.met x d (records ++ records') = w.met x d records ++ w.met x (d.after records) records' := by
  induction records generalizing d with
  | nil => rfl
  | cons s records ih => simp [met, ih]

/-- The last packet of a run is met with what the others have left. -/
theorem met_snoc (w : Watch α β) (x : String) (d : Detector) (records : List Sighting)
    (s : Sighting) :
    w.met x d (records ++ [s]) = w.met x d records ++
      ((w.sees s).filter fun e => e.1 = x).toList.map
        fun e => (e.2, w.kept (d.after records) x) := by
  rw [met_append, met, met, List.append_nil]

/-- A watch that raises an alert as soon as it keeps `least` things. One thing seen makes for one
more if it is `new`, and `old` tells what is let go for it. -/
structure Counts (w : Watch α β) (least : Nat) (new : α × List β → Bool)
    (old : α × List β → List β) : Prop where
  positive : 0 < least
  next : ∀ a kept, ∃ grown : List β,
    grown.length + (old (a, kept)).length = kept.length + (new (a, kept)).toNat ∧
    w.next a kept = if least ≤ grown.length then ([], some grown.length) else (grown, none)

namespace Counts

variable {w : Watch α β} {least : Nat} {new : α × List β → Bool} {old : α × List β → List β}
  {limits : Limits}

/-- Where there was too little for an alert, one thing more makes for just enough or still too
little. -/
theorem next_of_lt (h : w.Counts least new old) (a : α) {kept : List β} (hk : kept.length < least) :
    (w.next a kept).1.length < least ∧ (∀ n ∈ (w.next a kept).2, n = least) ∧
      least * (w.next a kept).2.toList.length + (w.next a kept).1.length +
        (old (a, kept)).length = kept.length + (new (a, kept)).toNat := by
  obtain ⟨grown, hlength, hnext⟩ := h.next a kept
  have hone := Bool.toNat_le (new (a, kept))
  rw [hnext]
  split
  · next henough =>
    have hexact : grown.length = least := by omega
    refine ⟨h.positive, fun n hn => ?_, ?_⟩
    · cases hn
      exact hexact
    · simp only [Option.toList_some, List.length_singleton, List.length_nil]
      omega
  · next hfew =>
    refine ⟨Nat.not_le.1 hfew, ?_, ?_⟩
    · intro n hn
      cases hn
    · simp only [Option.toList_none, List.length_nil]
      omega

/-- The books of an address after a run: too little is kept for an alert, and what has been counted
in alerts, is kept or was let go is what was new when it came. -/
theorem balance (h : w.Counts least new old) (ha : w.Alone limits)
    (hnew : w.table (.new limits) = []) (x : String) (records : List Sighting) :
    (w.kept ((Detector.new limits).after records) x).length < least ∧
      least * (w.raised x ((Detector.new limits).watched records)).length +
          (w.kept ((Detector.new limits).after records) x).length +
          ((w.met x (.new limits) records).flatMap old).length =
        ((w.met x (.new limits) records).filter new).length := by
  induction records using List.reverseRecOn with
  | nil =>
    rw [Detector.after_nil, kept, hnew]
    exact ⟨h.positive, rfl⟩
  | append_singleton records s ih =>
    obtain ⟨hfew, hbooks⟩ := ih
    obtain ⟨hkept, hraised⟩ :=
      ha.process_meets (d := (Detector.new limits).after records) (by simp) x s
    rw [Detector.watched_snoc, raised_append, List.length_append, hraised, Detector.after_append,
      Detector.after_cons, Detector.after_nil, hkept, met_snoc, List.flatMap_append,
      List.filter_append, List.length_append, List.length_append]
    unfold meets
    -- Either nothing is seen under the address, or the watch takes one step.
    cases hs : w.sees s with
    | none => exact ⟨hfew, hbooks⟩
    | some e =>
      by_cases hx : e.1 = x
      · obtain ⟨hshort, -, hstep⟩ := h.next_of_lt e.2 hfew
        have hone : ([(e.2, w.kept ((Detector.new limits).after records) x)].filter new).length =
            (new (e.2, w.kept ((Detector.new limits).after records) x)).toNat := by
          cases hb : new (e.2, w.kept ((Detector.new limits).after records) x) <;> simp [hb]
        simp only [hx, Option.filter_some, decide_true, if_true, Option.toList_some,
          List.map_singleton, List.flatMap_singleton, hone]
        refine ⟨hshort, ?_⟩
        rw [Nat.mul_add]
        omega
      · simp only [hx, Option.filter_some, decide_false, if_false, Bool.false_eq_true,
          Option.toList_none, List.map_nil, List.flatMap_nil, List.filter_nil, List.length_nil]
        exact ⟨hfew, hbooks⟩

/-- Every alert of a run tells the same number. -/
theorem count_of_watched (h : w.Counts least new old) (ha : w.Alone limits)
    (hnew : w.table (.new limits) = []) (records : List Sighting) :
    ∀ v ∈ (Detector.new limits).watched records, ∀ a ∈ v.2, a.kind = w.kind → a.count = least := by
  induction records using List.reverseRecOn with
  | nil => exact fun v hv => nomatch hv
  | append_singleton records s ih =>
    intro v hv a hmem hkind
    rw [Detector.watched_snoc, List.mem_append, List.mem_singleton] at hv
    rcases hv with hv | rfl
    · exact ih v hv a hmem hkind
    · have hof : a ∈ alertsOf w.kind
          (((Detector.new limits).after records).process s.packet s.now).2 :=
        List.mem_filter.2 ⟨hmem, decide_eq_true hkind⟩
      cases hs : w.sees s with
      | none =>
        rw [(ha.blind _ s hs).2] at hof
        cases hof
      | some e =>
        have htold := List.mem_map_of_mem (f := (·.undated)) hof
        rw [(ha.seen _ s e (by simp) hs).2, told, Option.mem_toList,
          Option.map_eq_some_iff] at htold
        obtain ⟨n, hn, hundated⟩ := htold
        have hcount : a.count = n := (congrArg (·.count) hundated).symm
        rw [hcount]
        exact (h.next_of_lt e.2 (h.balance ha hnew e.1 records).1).2.1 n hn

end Counts

end Watch

/-! ## The two watches -/

/-- A port is new if it is not kept, and no port is ever old. -/
theorem portWatch_counts (limits : Limits) :
    (portWatch limits).Counts (max 1 limits.ports) (fun m => m.1 ∉ m.2) fun _ => [] where
  positive := Nat.lt_of_lt_of_le Nat.one_pos (Nat.le_max_left _ _)
  next port seen := by
    refine ⟨if port ∈ seen then seen else port :: seen, ?_, ?_⟩
    · split
      · next hin => simp [hin]
      · next hout => simp [hout]
    · have hone : 1 ≤ (if port ∈ seen then seen else port :: seen).length := by
        split
        · next hin => exact List.length_pos_of_mem hin
        · exact Nat.succ_pos _
      simp only [portWatch, watchPort, Nat.max_le, hone, true_and]

/-- Whether an arrival is as old as the window. -/
def Limits.isOld (limits : Limits) (t now : Int) : Bool :=
  limits.windowSeconds * 1000000000 ≤ elapsed t now

/-- Every arrival is new, and those at the front go that are old when it comes, if need be with
itself. -/
theorem arrivalWatch_counts (limits : Limits) :
    (arrivalWatch limits).Counts (limits.arrivals + 1) (fun _ => true)
      fun m => (m.2 ++ [m.1]).takeWhile (limits.isOld · m.1) where
  positive := Nat.succ_pos _
  next now queue := by
    refine ⟨(queue ++ [now]).dropWhile (limits.isOld · now), ?_, ?_⟩
    · have hall := congrArg List.length
        (List.takeWhile_append_dropWhile (p := (limits.isOld · now)) (l := queue ++ [now]))
      rw [List.length_append, List.length_append, List.length_singleton] at hall
      rw [Bool.toNat_true, ← hall, Nat.add_comm]
    · rfl

namespace Detector

/-- The ports an address tries in a run while they are not kept for it. -/
def newPorts (limits : Limits) (x : String) (records : List Sighting) : List Int32 :=
  (((portWatch limits).met x (new limits) records).filter fun m => m.1 ∉ m.2).map (·.1)

/-- The arrivals of an address that have been let go in a run for their age. -/
def agedArrivals (limits : Limits) (x : String) (records : List Sighting) : List Int :=
  ((arrivalWatch limits).met x (new limits) records).flatMap fun m =>
    (m.2 ++ [m.1]).takeWhile (limits.isOld · m.1)

/-- Every packet of an address is met by the watch on arrivals. -/
theorem length_met_arrivals (limits : Limits) (x : String) (d : Detector)
    (records : List Sighting) :
    ((arrivalWatch limits).met x d records).length =
      (records.filter fun s => s.address? = some x).length := by
  induction records generalizing d with
  | nil => rfl
  | cons s records ih =>
    rw [Watch.met, List.length_append, ih, List.filter_cons]
    simp only [arrivalWatch, Sighting.arrival?]
    cases ha : s.address? with
    | none => simp
    | some ip => by_cases hx : ip = x <;> simp [hx, Option.filter_some, Nat.add_comm]

/-- What is kept are ports that have been tried. -/
theorem portsOf_subset {x : String} (hx : x ≠ "") (limits : Limits) (records : List Sighting) :
    ((new limits).after records).portsOf x ⊆ portsTried x records := by
  obtain ⟨pieces, rest, acc⟩ := ScanAccount.of_run x hx limits records
  intro port hport
  rw [← acc.isCut.joined]
  exact List.mem_append_right _ ((acc.kept port).1 hport)

/-- What the port watch sees under an address is the port that the address tries. -/
theorem filter_probe? {x : String} (hx : x ≠ "") (s : Sighting) :
    (s.probe?.filter fun e => e.1 = x) = (s.tried? x).map fun port => (x, port) := by
  unfold Sighting.probe? Sighting.address? Sighting.tried?
  cases hip : s.packet.srcIp with
  | none => rfl
  | some ip =>
    by_cases hsame : ip = x
    · subst hsame
      cases s.packet.dstPort <;> simp [Option.filter_some, hx]
    · cases s.packet.dstPort <;> by_cases hempty : ip = "" <;>
        simp [Option.filter_some, hsame, hempty, Ne.symm hx]

/-- Ports that are all different are all new. -/
theorem newPorts_of_nodup {x : String} (hx : x ≠ "") (limits : Limits) {records : List Sighting}
    (h : (portsTried x records).Nodup) : newPorts limits x records = portsTried x records := by
  induction records using List.reverseRecOn with
  | nil => rfl
  | append_singleton records s ih =>
    rw [portsTried_snoc] at h ⊢
    rw [newPorts, Watch.met_snoc, List.filter_append, List.map_append, ← newPorts,
      ih (List.nodup_append.1 h).1]
    refine congrArg (portsTried x records ++ ·) ?_
    show (((s.probe?.filter fun e => e.1 = x).toList.map _).filter _).map _ = _
    rw [filter_probe? hx]
    cases ht : s.tried? x with
    | none => rfl
    | some port =>
      have hout : port ∉ ((new limits).after records).portsOf x := fun hmem => by
        rw [ht] at h
        exact (List.nodup_append.1 h).2.2 port (portsOf_subset hx limits records hmem) port
          List.mem_cons_self rfl
      have hnew : port ∉ (portWatch limits).kept ((new limits).after records) x := hout
      simp [hnew]

/-- **Accounts.** In every run, whatever the clock does: fewer ports are kept for an address than
raise an alert, each of them once, and no more arrivals than do not yet raise one. An alert about
ports always tells the number that raises it, at least one, and one about traffic one more than the
limit. Each port an address tries while it is not kept is counted in one alert or is still kept;
each packet is counted in one alert, is still kept, or has been let go for its age. So an address
that tries ports which are all different, in whatever order, raises as many alerts as the number
goes into theirs. -/
theorem accounted (limits : Limits) (records : List Sighting) (x : String) :
    (((new limits).after records).portsOf x).length < max 1 limits.ports ∧
    (((new limits).after records).arrivalsOf x).length ≤ limits.arrivals ∧
    (∀ w ∈ (new limits).watched records, ∀ a ∈ w.2, a.count = match a.kind with
      | .portScan => max 1 limits.ports
      | .trafficSpike => limits.arrivals + 1) ∧
    max 1 limits.ports *
          (alertsOf .portScan (alertsAbout x ((new limits).watched records))).length +
        (((new limits).after records).portsOf x).length =
      (newPorts limits x records).length ∧
    (limits.arrivals + 1) *
          (alertsOf .trafficSpike (alertsAbout x ((new limits).watched records))).length +
        (((new limits).after records).arrivalsOf x).length +
        (agedArrivals limits x records).length =
      (records.filter fun s => s.address? = some x).length ∧
    (x ≠ "" → (((new limits).after records).portsOf x).Nodup ∧
      ((portsTried x records).Nodup →
        (alertsOf .portScan (alertsAbout x ((new limits).watched records))).length =
          (portsTried x records).length / max 1 limits.ports)) := by
  obtain ⟨hports, hscans⟩ :=
    (portWatch_counts limits).balance (portWatch_alone limits) rfl x records
  obtain ⟨harrivals, hspikes⟩ :=
    (arrivalWatch_counts limits).balance (arrivalWatch_alone limits) rfl x records
  have hbooks : max 1 limits.ports *
        (alertsOf .portScan (alertsAbout x ((new limits).watched records))).length +
      (((new limits).after records).portsOf x).length = (newPorts limits x records).length := by
    have hnone : ((portWatch limits).met x (new limits) records).flatMap
        (fun _ => ([] : List Int32)) = [] := List.flatMap_eq_nil_iff.2 fun _ _ => rfl
    rw [hnone] at hscans
    rw [newPorts, List.length_map]
    exact hscans
  refine ⟨hports, Nat.le_of_lt_succ harrivals, fun w hw a ha => ?_, hbooks, ?_, fun hx => ⟨?_, ?_⟩⟩
  · cases hkind : a.kind with
    | portScan =>
      exact (portWatch_counts limits).count_of_watched (portWatch_alone limits) rfl records w hw a
        ha hkind
    | trafficSpike =>
      exact (arrivalWatch_counts limits).count_of_watched (arrivalWatch_alone limits) rfl records w
        hw a ha hkind
  · rw [List.filter_true, length_met_arrivals] at hspikes
    exact hspikes
  · obtain ⟨_, _, acc⟩ := ScanAccount.of_run x hx limits records
    exact acc.distinct
  · intro hnodup
    rw [newPorts_of_nodup hx limits hnodup] at hbooks
    have hrest : (((new limits).after records).portsOf x).length / max 1 limits.ports = 0 :=
      Nat.div_eq_of_lt hports
    rw [← hbooks, Nat.mul_add_div (portWatch_counts limits).positive, hrest, Nat.add_zero]

/-- One port is asked for and none would do as well, and a second packet within a second is one too
many. An address tries three ports while the clock goes back and then far ahead: three alerts about
ports, one about traffic at the second packet, and the third packet is kept. -/
theorem accounted_of_three :
    (alertsOf .portScan (alertsAbout "a" ((new ⟨0, 1, 1⟩).watched
        [.of "a" (some 80) 5, .of "a" (some 443) 0, .of "b" none 7,
          .of "a" (some 22) 9000000000]))).length = 3 ∧
      2 * (alertsOf .trafficSpike (alertsAbout "a" ((new ⟨0, 1, 1⟩).watched
        [.of "a" (some 80) 5, .of "a" (some 443) 0, .of "b" none 7,
          .of "a" (some 22) 9000000000]))).length + 1 = 3 := by
  obtain ⟨-, -, -, -, htraffic, hports⟩ := accounted ⟨0, 1, 1⟩
    [.of "a" (some 80) 5, .of "a" (some 443) 0, .of "b" none 7, .of "a" (some 22) 9000000000] "a"
  exact ⟨(hports (by decide)).2 (by decide), htraffic⟩

end Detector

end PacketTelemetry
