/-
Traffic spikes, told of every run: when a packet of an address comes, those of
its packets count that came after the last one to raise an alert and are
younger than the window. If they are more than the limit that raises one, and
their number is told; otherwise they are what is kept.

The watch lets old arrivals go from the front, and only then. What it has let
go is as old as the window already at some later arrival (`SpikeAccount.out`),
and so at every arrival after that: nothing let go would count again. That
nothing else is let go needs the arrivals of the address in order.
-/
import Mathlib.Data.List.DropRight
import PacketTelemetry.Proofs.Detector.Watches

namespace PacketTelemetry

open Time

/-! ## Arrivals -/

/-- The arrivals of an address, in order. -/
def ticksOf (x : String) (records : List Sighting) : List Int :=
  (records.filter fun s => s.packet.srcIp = some x).map (·.now.ticks)

/-- The arrivals of an address after the last that raised an alert, in order. -/
def ticksSinceSpike (x : String) (run : List (Sighting × List Alert)) : List Int :=
  ((run.filter fun w => w.1.packet.srcIp = some x).rtakeWhile fun w =>
    alertsOf .trafficSpike w.2 = []).map (·.1.now.ticks)

section

variable {x : String} {s : Sighting}

theorem ticksOf_snoc (hip : s.packet.srcIp = some x) (records : List Sighting) :
    ticksOf x (records ++ [s]) = ticksOf x records ++ [s.now.ticks] := by
  simp [ticksOf, hip]

theorem ticksOf_snoc_other (hip : s.packet.srcIp ≠ some x) (records : List Sighting) :
    ticksOf x (records ++ [s]) = ticksOf x records := by
  simp [ticksOf, hip]

theorem ticksSinceSpike_snoc (hip : s.packet.srcIp = some x) (run : List (Sighting × List Alert))
    (alerts : List Alert) :
    ticksSinceSpike x (run ++ [(s, alerts)]) =
      if alertsOf .trafficSpike alerts = [] then ticksSinceSpike x run ++ [s.now.ticks] else [] := by
  simp only [ticksSinceSpike, List.filter_append, List.filter_cons, hip, decide_true, if_true,
    List.filter_nil, List.rtakeWhile_concat]
  split <;> simp_all

theorem ticksSinceSpike_snoc_other (hip : s.packet.srcIp ≠ some x)
    (run : List (Sighting × List Alert)) (alerts : List Alert) :
    ticksSinceSpike x (run ++ [(s, alerts)]) = ticksSinceSpike x run := by
  simp [ticksSinceSpike, hip]

end

/-- Of ages in descending order those are dropped from the front that are not filtered out. -/
theorem filter_eq_dropWhile {window : Nat} {now : Int} {l : List Int} (hs : l.Pairwise (· ≤ ·))
    (hle : ∀ t ∈ l, t ≤ now) :
    l.filter (fun t => now - t < window) = l.dropWhile fun t => window ≤ elapsed t now := by
  induction l with
  | nil => rfl
  | cons t l ih =>
    obtain ⟨hfirst, hs⟩ := List.pairwise_cons.1 hs
    have ht := hle t List.mem_cons_self
    by_cases hold : window ≤ elapsed t now
    · have hout : ¬ now - t < window := by unfold elapsed at hold; omega
      rw [List.filter_cons_of_neg (by simpa using hout),
        List.dropWhile_cons_of_pos (by simpa using hold)]
      exact ih hs fun u hu => hle u (.tail _ hu)
    · -- Whatever comes after the first that counts counts as well.
      rw [List.dropWhile_cons_of_neg (by simpa using hold), List.filter_eq_self]
      intro u hu
      have htu : t ≤ u := by
        rcases List.mem_cons.1 hu with rfl | hu
        · exact Int.le_refl _
        · exact hfirst u hu
      unfold elapsed at hold
      simp only [decide_eq_true_eq]
      omega

namespace Detector

/-! ## The account of a run -/

/-- What a run of packets has come to for the arrivals of an address: what is kept of those since
its last alert, and what is not. -/
structure SpikeAccount (x : String) (limits : Limits) (records : List Sighting) (gone : List Int) :
    Prop where
  since : ticksSinceSpike x ((new limits).watched records) =
    gone ++ ((new limits).after records).arrivalsOf x
  out : ∀ t ∈ gone, ∃ u ∈ ticksOf x records, limits.windowSeconds * 1000000000 ≤ elapsed t u

theorem ticksSinceSpike_suffix (x : String) (d : Detector) (records : List Sighting) :
    ticksSinceSpike x (d.watched records) <:+ ticksOf x records := by
  have hticks : ticksOf x records =
      ((d.watched records).filter fun w => w.1.packet.srcIp = some x).map (·.1.now.ticks) := by
    conv_lhs => rw [ticksOf, ← watched_fst d records, List.filter_map, List.map_map]
    rfl
  rw [hticks]
  exact (List.rtakeWhile_suffix _ _).map _

/-- What a packet of an address finds, once what is old has been let go: it raises an alert if
that is more than the limit, and is kept with it otherwise. -/
theorem arrival_after {x : String} (hx : x ≠ "") {s : Sighting} (hip : s.packet.srcIp = some x)
    (limits : Limits) (records : List Sighting) {queue : List Int}
    (hq : (((new limits).after records).arrivalsOf x ++ [s.now.ticks]).dropWhile
      (fun t => limits.windowSeconds * 1000000000 ≤ elapsed t s.now.ticks) = queue) :
    alertsOf .trafficSpike (((new limits).after records).process s.packet s.now).2 =
        (if limits.arrivals < queue.length then
          [alert .trafficSpike x s.now.spiked queue.length] else []) ∧
      ((new limits).after (records ++ [s])).arrivalsOf x =
        if limits.arrivals < queue.length then [] else queue := by
  rw [trafficSpikes_process hx hip, after_append, after_cons, after_nil, arrivalsOf_process hx hip]
  simp only [seeArrival, watchArrival, window, after_limits, new_limits, hq]
  split <;> exact ⟨rfl, rfl⟩

namespace SpikeAccount

variable {x : String} {limits : Limits} {records : List Sighting} {gone : List Int}

theorem nil : SpikeAccount x limits [] [] := ⟨rfl, by simp⟩

/-- A packet from elsewhere. -/
theorem skip (acc : SpikeAccount x limits records gone) {s : Sighting}
    (hip : s.packet.srcIp ≠ some x) : SpikeAccount x limits (records ++ [s]) gone := by
  refine ⟨?_, ?_⟩
  · rw [watched_snoc, ticksSinceSpike_snoc_other hip, acc.since, after_append, after_cons, after_nil,
      arrivalsOf_process_other hip]
  · rw [ticksOf_snoc_other hip]
    exact acc.out

/-- A packet of the address. What it lets go is old at its arrival. -/
theorem arrive (acc : SpikeAccount x limits records gone) (hx : x ≠ "") {s : Sighting}
    (hip : s.packet.srcIp = some x) : ∃ gone', SpikeAccount x limits (records ++ [s]) gone' := by
  obtain ⟨hspike, hkept⟩ := arrival_after hx hip limits records rfl
  have hsince := ticksSinceSpike_snoc hip ((new limits).watched records)
    (((new limits).after records).process s.packet s.now).2
  rw [← watched_snoc] at hsince
  rw [hspike] at hsince
  split at hkept
  · next hlimit =>
    refine ⟨[], ?_, by simp⟩
    rw [hsince, hkept, if_neg (by simp [hlimit])]
    rfl
  · next hlimit =>
    refine ⟨gone ++ (((new limits).after records).arrivalsOf x ++ [s.now.ticks]).takeWhile
      fun t => limits.windowSeconds * 1000000000 ≤ elapsed t s.now.ticks, ?_, fun t ht => ?_⟩
    · rw [hsince, hkept, if_pos (by simp [hlimit]), acc.since, List.append_assoc, List.append_assoc,
        List.takeWhile_append_dropWhile]
    · rw [ticksOf_snoc hip]
      rcases List.mem_append.1 ht with ht | ht
      · obtain ⟨u, hu, hold⟩ := acc.out t ht
        exact ⟨u, List.mem_append_left _ hu, hold⟩
      · exact ⟨s.now.ticks, by simp, by simpa using List.mem_takeWhile_imp ht⟩

/-- Every run has an account. -/
theorem of_run (hx : x ≠ "") (limits : Limits) (records : List Sighting) :
    ∃ gone, SpikeAccount x limits records gone := by
  induction records using List.reverseRecOn with
  | nil => exact ⟨[], nil⟩
  | append_singleton records s ih =>
    obtain ⟨gone, acc⟩ := ih
    by_cases hip : s.packet.srcIp = some x
    · exact acc.arrive hx hip
    · exact ⟨gone, acc.skip hip⟩

/-- Where arrivals are in order, those that count are those of the queue that are not old. -/
theorem counted (acc : SpikeAccount x limits records gone) {now : Int}
    (hs : (ticksOf x records ++ [now]).Pairwise (· ≤ ·)) :
    (ticksSinceSpike x ((new limits).watched records) ++ [now]).filter
        (fun t => now - t < (limits.windowSeconds * 1000000000 : Nat)) =
      (((new limits).after records).arrivalsOf x ++ [now]).dropWhile
        fun t => limits.windowSeconds * 1000000000 ≤ elapsed t now := by
  have hle : ∀ t ∈ ticksOf x records, t ≤ now := by
    intro t ht
    exact (List.pairwise_append.1 hs).2.2 t ht now (by simp)
  have hsuffix := ticksSinceSpike_suffix x (new limits) records
  have hsorted : (ticksSinceSpike x ((new limits).watched records) ++ [now]).Pairwise (· ≤ ·) :=
    hs.sublist (hsuffix.sublist.append_right _)
  rw [acc.since] at hsorted hsuffix ⊢
  -- What was let go was old at an arrival that is not later than `now`.
  have hgone : gone.filter (fun t => now - t < (limits.windowSeconds * 1000000000 : Nat)) = [] := by
    refine List.filter_eq_nil_iff.2 fun t ht => ?_
    obtain ⟨u, hu, hold⟩ := acc.out t ht
    have hu := hle u hu
    have ht := hle t (hsuffix.subset (List.mem_append_left _ ht))
    unfold elapsed at hold
    simp only [decide_eq_true_eq]
    omega
  rw [List.append_assoc] at hsorted ⊢
  rw [List.filter_append, hgone, List.nil_append]
  refine filter_eq_dropWhile (List.pairwise_append.1 hsorted).2.1 fun t ht => ?_
  rcases List.mem_append.1 ht with ht | ht
  · exact hle t (hsuffix.subset (List.mem_append_right _ ht))
  · exact Int.le_of_eq (List.mem_singleton.1 ht)

end SpikeAccount

/-- Where the window is empty nothing is young. -/
theorem trafficSpikes_of_no_window {d : Detector} (hw : d.limits.windowSeconds = 0) (s : Sighting) :
    ∀ a ∈ (d.process s.packet s.now).2, a.kind ≠ .trafficSpike := by
  intro a ha hk
  obtain ⟨hip, hx⟩ := srcIp_of_mem_process ha
  have hmem : a ∈ alertsOf .trafficSpike (d.process s.packet s.now).2 :=
    List.mem_filter.2 ⟨ha, by simpa using hk⟩
  rw [trafficSpikes_process hx hip] at hmem
  simp [seeArrival, watchArrival, window, hw] at hmem

/-- **Traffic spikes.** Where the arrivals of an address are in order, a packet of it raises an
alert if and only if more packets than the limit count at it: those that came after the last to
raise an alert, itself among them, and are younger than the window. The alert is about the
address and tells their number, and nothing is kept; otherwise they are kept, oldest first. A
packet raises no alert about another address. Where the window is empty none is ever raised. -/
theorem trafficSpike_counted (limits : Limits) :
    (∀ (records : List Sighting) (s : Sighting) (x : String) (counted : List Int),
      x ≠ "" → s.packet.srcIp = some x →
      (ticksOf x (records ++ [s])).Pairwise (· ≤ ·) →
      counted = (ticksSinceSpike x ((new limits).watched records) ++ [s.now.ticks]).filter
        (fun t => s.now.ticks - t < (limits.windowSeconds * 1000000000 : Nat)) →
      alertsOf .trafficSpike (((new limits).after records).process s.packet s.now).2 =
          (if limits.arrivals < counted.length then
            [alert .trafficSpike x s.now.spiked counted.length] else []) ∧
        ((new limits).after (records ++ [s])).arrivalsOf x =
          if limits.arrivals < counted.length then [] else counted) ∧
    (∀ records, ∀ w ∈ (new limits).watched records, ∀ a ∈ w.2, w.1.packet.srcIp = some a.srcIp) ∧
    (limits.windowSeconds = 0 →
      ∀ records, ∀ w ∈ (new limits).watched records, ∀ a ∈ w.2, a.kind ≠ .trafficSpike) := by
  refine ⟨fun records s x counted hx hip hs hcounted => ?_, fun records => ?_, fun hw records => ?_⟩
  · obtain ⟨gone, acc⟩ := SpikeAccount.of_run hx limits records
    rw [ticksOf_snoc hip] at hs
    exact arrival_after hx hip limits records ((acc.counted hs).symm.trans hcounted.symm)
  · exact forall_watched (P := fun s alerts => ∀ a ∈ alerts, s.packet.srcIp = some a.srcIp)
      (fun _ _ _ _ ha => (srcIp_of_mem_process ha).1) records
  · exact forall_watched (P := fun _ alerts => ∀ a ∈ alerts, a.kind ≠ .trafficSpike)
      (fun _ s he => trafficSpikes_of_no_window (he ▸ hw) s) records

/-- Two may count: of four arrivals the first is as old as the window when the third comes, and
the last raises an alert. -/
theorem trafficSpike_counted_of_four :
    alertsOf .trafficSpike (((new ⟨30, 2, 10⟩).after
        [.of "a" none 0, .of "a" none 5000000000, .of "a" none 10000000000]).process
          (Sighting.of "a" none 11000000000).packet (Sighting.of "a" none 11000000000).now).2 =
      [alert .trafficSpike "a" ⟨0, 0⟩ 3] := by
  have h := (trafficSpike_counted ⟨30, 2, 10⟩).1
    [.of "a" none 0, .of "a" none 5000000000, .of "a" none 10000000000]
    (.of "a" none 11000000000) "a" [5000000000, 10000000000, 11000000000]
    (by decide) rfl (by decide) (by decide)
  exact h.1

end Detector

end PacketTelemetry
