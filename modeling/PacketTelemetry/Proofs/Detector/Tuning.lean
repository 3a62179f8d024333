/-
What the limits do to the number of alerts: of two detectors that see the same
packets, the one that asks for more has raised no more alerts about any address,
whenever one looks (`Detector.tuned`).

Each alert lets go of all that is kept, so two detectors soon keep different
things, and packet by packet neither keeps more than the other. What can be told
is who is ahead (`Behind`). As long as both have raised as many alerts, the one
that asks for more was the last to begin anew, and keeps no more than the other:
it does not overtake. When it draws level it has just let go of everything.
Neither watch needs the clock to go forward for that.
-/
import Mathlib.Data.List.Perm.Subperm
import PacketTelemetry.Proofs.Detector.Isolation
import PacketTelemetry.Proofs.Detector.TrafficSpike

namespace PacketTelemetry

open Time

/-! ## Who is ahead -/

/-- A number is below another, or equal to it, and then something holds. -/
def Behind (n' n : Nat) (level : Prop) : Prop := n' < n ∨ n' = n ∧ level

theorem Behind.le {n' n : Nat} {level : Prop} (h : Behind n' n level) : n' ≤ n := by
  rcases h with hlt | ⟨heq, -⟩
  · exact Nat.le_of_lt hlt
  · exact Nat.le_of_eq heq

namespace Watch

variable {α β : Type}

/-- A watch that asks for more than another. Where it keeps no more, it raises no alert that the
other does not raise, and if neither does it keeps no more after that. -/
structure Stricter (w' w : Watch α β) (within : List β → List β → Prop) : Prop where
  sees : w'.sees = w.sees
  nothing : ∀ kept, within [] kept
  clears : ∀ a kept', (w'.next a kept').2.isSome → (w'.next a kept').1 = []
  raises : ∀ a kept' kept, within kept' kept →
    (w'.next a kept').2.isSome → (w.next a kept).2.isSome
  keeps : ∀ a kept' kept, within kept' kept →
    (w'.next a kept').2 = none → (w.next a kept).2 = none →
      within (w'.next a kept').1 (w.next a kept).1

/-- What a watch keeps under an address. -/
def kept (w : Watch α β) (d : Detector) (x : String) : List β := (Table.get? x (w.table d)).getD []

/-- What a packet makes of what is kept under an address, with the count of the alert it raises. A
packet of which the watch sees nothing under that address leaves it as it is. -/
def meets (w : Watch α β) (x : String) (s : Sighting) (kept : List β) : List β × Option Nat :=
  match w.sees s with
  | none => (kept, none)
  | some e => if e.1 = x then w.next e.2 kept else (kept, none)

/-- The alerts of a watch about an address. -/
def raised (w : Watch α β) (x : String) (run : List (Sighting × List Alert)) : List Alert :=
  alertsOf w.kind (Detector.alertsAbout x run)

theorem raised_append (w : Watch α β) (x : String) (run run' : List (Sighting × List Alert)) :
    w.raised x (run ++ run') = w.raised x run ++ w.raised x run' := by
  simp [raised, Detector.alertsAbout, alertsOf]

theorem length_raised_singleton (w : Watch α β) (x : String) (s : Sighting) (alerts : List Alert) :
    (w.raised x [(s, alerts)]).length =
      (((alertsOf w.kind alerts).map (·.undated)).filter fun a => a.srcIp = x).length := by
  have hundated : ((fun a : Alert => decide (a.srcIp = x)) ∘ Alert.undated) =
      fun a => decide (a.srcIp = x) := rfl
  rw [List.filter_map, List.length_map, hundated]
  simp only [raised, Detector.alertsAbout, alertsOf, List.flatMap_cons, List.flatMap_nil,
    List.append_nil, List.filter_filter]
  simp only [Bool.and_comm]

theorem filter_told (w : Watch α β) (x ip : String) (raised : Option Nat) :
    ((w.told ip raised).filter fun a => a.srcIp = x).length =
      if ip = x then raised.toList.length else 0 := by
  cases raised with
  | none => simp [told]
  | some n => by_cases hip : ip = x <;> simp [told, Detector.alert, hip]

namespace Alone

variable {w : Watch α β} {limits : Limits}

/-- What is kept under an address, and what is raised about it, is the doing of the packets that
the watch sees under it. -/
theorem process_meets (h : w.Alone limits) {d : Detector} (hd : d.limits = limits) (x : String)
    (s : Sighting) :
    w.kept (d.process s.packet s.now).1 x = (w.meets x s (w.kept d x)).1 ∧
      (w.raised x [(s, (d.process s.packet s.now).2)]).length =
        (w.meets x s (w.kept d x)).2.toList.length := by
  rw [length_raised_singleton, meets]
  cases he : w.sees s with
  | none =>
    obtain ⟨htable, halerts⟩ := h.blind d s he
    exact ⟨by rw [kept, htable, kept], by rw [halerts]; rfl⟩
  | some e =>
    obtain ⟨htable, htold⟩ := h.seen d s e hd he
    rw [htold, filter_told, kept, htable]
    dsimp only
    split
    · next hx =>
      subst hx
      exact ⟨by rw [Table.get?_put_self]; rfl, rfl⟩
    · next hx => exact ⟨by rw [Table.get?_put_other (Ne.symm hx)]; rfl, rfl⟩

end Alone

namespace Stricter

variable {w' w : Watch α β} {within : List β → List β → Prop}

/-- Both watches let what they keep grow until it is long enough. The one that asks for more does
so if it needs more, or lets less stay. -/
theorem of_grow {least' least : Nat} {grow' grow : α → List β → List β} (hsees : w'.sees = w.sees)
    (hnext' : ∀ a kept, w'.next a kept =
      if least' ≤ (grow' a kept).length then ([], some (grow' a kept).length)
      else (grow' a kept, none))
    (hnext : ∀ a kept, w.next a kept =
      if least ≤ (grow a kept).length then ([], some (grow a kept).length) else (grow a kept, none))
    (hleast : least ≤ least') (hnothing : ∀ kept, within [] kept)
    (hlength : ∀ kept' kept, within kept' kept → kept'.length ≤ kept.length)
    (hgrow : ∀ a kept' kept, within kept' kept → within (grow' a kept') (grow a kept)) :
    Stricter w' w within where
  sees := hsees
  nothing := hnothing
  clears a kept' hraised := by
    rw [hnext'] at hraised ⊢
    split at hraised
    · next henough => rw [if_pos henough]
    · cases hraised
  raises a kept' kept hwithin hraised := by
    have hle := hlength _ _ (hgrow a kept' kept hwithin)
    rw [hnext'] at hraised
    split at hraised
    · next henough =>
      rw [hnext, if_pos (Nat.le_trans hleast (Nat.le_trans henough hle))]
      rfl
    · cases hraised
  keeps a kept' kept hwithin hnone' hnone := by
    rw [hnext'] at hnone' ⊢
    rw [hnext] at hnone ⊢
    split at hnone'
    · cases hnone'
    next hfew' =>
    split at hnone
    · cases hnone
    next hfew =>
    rw [if_neg hfew', if_neg hfew]
    exact hgrow a kept' kept hwithin

/-- Who is behind stays behind when both see one thing more. -/
theorem behind_next (h : Stricter w' w within) (a : α) {kept' kept : List β} {n' n : Nat}
    (hb : Behind n' n (within kept' kept)) :
    Behind (n' + (w'.next a kept').2.toList.length) (n + (w.next a kept).2.toList.length)
      (within (w'.next a kept').1 (w.next a kept).1) := by
  cases hr' : (w'.next a kept').2 with
  | none =>
    rcases hb with hlt | ⟨rfl, hwithin⟩
    · exact .inl (Nat.lt_of_lt_of_le hlt (Nat.le_add_right _ _))
    · cases hr : (w.next a kept).2 with
      | none => exact .inr ⟨rfl, h.keeps a kept' kept hwithin hr' hr⟩
      | some m => exact .inl (Nat.lt_succ_self n')
  | some m' =>
    -- It has let go of everything, so to draw level is all it can do.
    have hraised : (w'.next a kept').2.isSome := by rw [hr']; rfl
    have hwithin : within (w'.next a kept').1 (w.next a kept).1 := by
      rw [h.clears a kept' hraised]
      exact h.nothing _
    refine (Nat.lt_or_eq_of_le ?_).imp_right fun heq => ⟨heq, hwithin⟩
    rcases hb with hlt | ⟨rfl, hwithin⟩
    · exact Nat.le_trans hlt (Nat.le_add_right _ _)
    · obtain ⟨m, hm⟩ := Option.isSome_iff_exists.1 (h.raises a kept' kept hwithin hraised)
      rw [hm]
      exact Nat.le_refl _

theorem behind_meets (h : Stricter w' w within) (x : String) (s : Sighting) {kept' kept : List β}
    {n' n : Nat} (hb : Behind n' n (within kept' kept)) :
    Behind (n' + (w'.meets x s kept').2.toList.length) (n + (w.meets x s kept).2.toList.length)
      (within (w'.meets x s kept').1 (w.meets x s kept).1) := by
  unfold meets
  rw [h.sees]
  split
  · exact hb
  · split
    · exact h.behind_next _ hb
    · exact hb

/-- Of two detectors that see the same packets, the one whose watch asks for more is behind. -/
theorem behind_run (h : Stricter w' w within) {limits' limits : Limits} (ha' : w'.Alone limits')
    (ha : w.Alone limits) (hnew : w'.table (.new limits') = []) (x : String) (records : List Sighting) :
    Behind (w'.raised x ((Detector.new limits').watched records)).length
      (w.raised x ((Detector.new limits).watched records)).length
      (within (w'.kept ((Detector.new limits').after records) x)
        (w.kept ((Detector.new limits).after records) x)) := by
  induction records using List.reverseRecOn with
  | nil =>
    refine .inr ⟨rfl, ?_⟩
    rw [kept, Detector.after_nil, hnew]
    exact h.nothing _
  | append_singleton records s ih =>
    obtain ⟨hkept', hraised'⟩ :=
      ha'.process_meets (d := (Detector.new limits').after records) (by simp) x s
    obtain ⟨hkept, hraised⟩ :=
      ha.process_meets (d := (Detector.new limits).after records) (by simp) x s
    rw [Detector.watched_snoc, Detector.watched_snoc, raised_append, raised_append,
      List.length_append, List.length_append, hraised', hraised, Detector.after_append,
      Detector.after_append, Detector.after_cons, Detector.after_cons, Detector.after_nil,
      Detector.after_nil, hkept', hkept]
    exact h.behind_meets x s ih

end Stricter

end Watch

/-! ## The two watches -/

/-- A port goes to the ports kept by either watch. -/
theorem insert_within (port : Int32) {seen' seen : List Int32}
    (h : seen'.Nodup ∧ seen' ⊆ seen) :
    (if port ∈ seen' then seen' else port :: seen').Nodup ∧
      (if port ∈ seen' then seen' else port :: seen') ⊆
        if port ∈ seen then seen else port :: seen := by
  obtain ⟨hnodup, hsub⟩ := h
  split
  · next hin' =>
    rw [if_pos (hsub hin')]
    exact ⟨hnodup, hsub⟩
  · next hout' =>
    refine ⟨List.nodup_cons.2 ⟨hout', hnodup⟩, ?_⟩
    split
    · next hin => exact List.cons_subset.2 ⟨hin, hsub⟩
    · exact List.cons_subset_cons port hsub

theorem portWatch_stricter {limits' limits : Limits} (hle : limits.ports ≤ limits'.ports) :
    Watch.Stricter (portWatch limits') (portWatch limits) fun seen' seen =>
      seen'.Nodup ∧ seen' ⊆ seen :=
  .of_grow rfl (fun _ _ => rfl) (fun _ _ => rfl) hle (fun _ => ⟨.nil, List.nil_subset _⟩)
    (fun _ _ h => (List.subperm_of_subset h.1 h.2).length_le) fun port _ _ => insert_within port

/-- Where more is dropped from the front, less is left. -/
theorem dropWhile_suffix_dropWhile {α : Type} {p' p : α → Bool} (hp : ∀ a, p a = true → p' a = true)
    {l' l : List α} (h : l' <:+ l) : l'.dropWhile p' <:+ l.dropWhile p := by
  induction l generalizing l' with
  | nil =>
    obtain rfl := List.suffix_nil.1 h
    exact List.suffix_refl _
  | cons a l ih =>
    by_cases ha : p a = true
    · rw [List.dropWhile_cons_of_pos ha]
      rcases List.suffix_cons_iff.1 h with rfl | h
      · rw [List.dropWhile_cons_of_pos (hp a ha)]
        exact ih (List.suffix_refl l)
      · exact ih h
    · rw [List.dropWhile_cons_of_neg ha]
      exact (List.dropWhile_suffix _).trans h

/-- The arrivals that are young for either watch, with the one that comes. -/
theorem young_within {window' window : Nat} (hwindow : window' ≤ window) (now : Int)
    {queue' queue : List Int} (h : queue' <:+ queue) :
    ((queue' ++ [now]).dropWhile fun t => window' ≤ elapsed t now) <:+
      (queue ++ [now]).dropWhile fun t => window ≤ elapsed t now := by
  refine dropWhile_suffix_dropWhile (fun t hold => ?_) (List.suffix_concat_iff.2 (.inr ⟨_, rfl, h⟩))
  have hold : window ≤ elapsed t now := of_decide_eq_true hold
  exact decide_eq_true (Nat.le_trans hwindow hold)

theorem arrivalWatch_stricter {limits' limits : Limits} (hle : limits.arrivals ≤ limits'.arrivals)
    (hwindow : limits'.windowSeconds ≤ limits.windowSeconds) :
    Watch.Stricter (arrivalWatch limits') (arrivalWatch limits) fun queue' queue =>
      queue' <:+ queue :=
  .of_grow rfl (fun _ _ => rfl) (fun _ _ => rfl) (Nat.succ_le_succ hle) (fun _ => List.nil_suffix)
    (fun _ _ h => h.length_le)
    fun now _ _ => young_within (Nat.mul_le_mul_right 1000000000 hwindow) now

namespace Detector

/-! ## Many at once -/

/-- A run in two parts. -/
theorem watched_eq_append {d : Detector} {records : List Sighting}
    {before rest : List (Sighting × List Alert)} (h : d.watched records = before ++ rest) :
    d.watched (before.map (·.1)) = before ∧
      (d.after (before.map (·.1))).watched (rest.map (·.1)) = rest := by
  have hrecords : records = before.map (·.1) ++ rest.map (·.1) := by
    rw [← watched_fst d records, h, List.map_append]
  rw [hrecords, watched_append] at h
  refine List.append_inj h ?_
  rw [← List.length_map (·.1), watched_fst, List.length_map]

/-- Packets of an address that come close together and raise no alert are all kept, and so they
are few. -/
theorem kept_of_no_spike {x : String} (hx : x ≠ "") (limits : Limits)
    (before block : List Sighting) (hown : ∀ s ∈ block, s.packet.srcIp = some x)
    (hclose : ∀ s ∈ block, ∀ t ∈ block,
      t.now.ticks - s.now.ticks < (limits.windowSeconds * 1000000000 : Nat))
    (hno : ∀ w ∈ ((new limits).after before).watched block, alertsOf .trafficSpike w.2 = []) :
    block.map (·.now.ticks) <:+ ((new limits).after (before ++ block)).arrivalsOf x ∧
      block.length ≤ limits.arrivals := by
  induction block using List.reverseRecOn with
  | nil => exact ⟨List.nil_suffix, Nat.zero_le _⟩
  | append_singleton block s ih =>
    rw [watched_snoc, ← after_append] at hno
    obtain ⟨hsuffix, -⟩ := ih (fun t ht => hown t (List.mem_append_left _ ht))
      (fun t ht u hu => hclose t (List.mem_append_left _ ht) u (List.mem_append_left _ hu))
      (fun w hw => hno w (List.mem_append_left _ hw))
    obtain ⟨hspike, hkept⟩ := arrival_after hx (hown s (by simp)) limits (before ++ block) rfl
    have hnone := hno _ (List.mem_append_right _ (List.mem_singleton_self _))
    -- None of them is old when the last one comes.
    have hyoung : (block ++ [s]).map (·.now.ticks) <:+
        (((new limits).after (before ++ block)).arrivalsOf x ++ [s.now.ticks]).dropWhile
          fun t => limits.windowSeconds * 1000000000 ≤ elapsed t s.now.ticks := by
      have hall : ((block ++ [s]).map (·.now.ticks)).dropWhile
          (fun t => limits.windowSeconds * 1000000000 ≤ elapsed t s.now.ticks) =
            (block ++ [s]).map (·.now.ticks) := by
        refine List.dropWhile_eq_self_iff.2 fun hpos => ?_
        obtain ⟨t, ht, hfirst⟩ := List.mem_map.1 (List.getElem_mem hpos)
        have hnear := hclose t ht s (by simp)
        have hwindow := hclose s (by simp) s (by simp)
        rw [← hfirst, decide_eq_true_eq]
        unfold elapsed
        omega
      rw [← hall, List.map_append]
      exact dropWhile_suffix_dropWhile (fun _ => id) (List.suffix_concat_iff.2 (.inr ⟨_, rfl, hsuffix⟩))
    rw [hspike] at hnone
    split at hkept
    · next hlimit =>
      rw [if_pos hlimit] at hnone
      cases hnone
    · next hlimit =>
      rw [← List.append_assoc, hkept]
      refine ⟨hyoung, ?_⟩
      have hlength := hyoung.length_le
      rw [List.length_map] at hlength
      omega

/-- More packets than the limit, one after another and within the window, raise an alert. -/
theorem spike_of_burst {x : String} (hx : x ≠ "") (limits : Limits) {records : List Sighting}
    {before block rest : List (Sighting × List Alert)}
    (hrun : ((new limits).watched records).filter (fun w => w.1.packet.srcIp = some x) =
      before ++ block ++ rest) (hmany : limits.arrivals < block.length)
    (hclose : ∀ v ∈ block, ∀ w ∈ block,
      w.1.now.ticks - v.1.now.ticks < (limits.windowSeconds * 1000000000 : Nat)) :
    ∃ w ∈ block, ∃ a ∈ w.2, a.kind = .trafficSpike ∧ a.srcIp = x := by
  have hown : ∀ w ∈ block, w.1.packet.srcIp = some x ∧ ∀ a ∈ w.2, a.srcIp = x := by
    intro w hw
    have hmem : w ∈ before ++ block ++ rest :=
      List.mem_append_left _ (List.mem_append_right _ hw)
    rw [← hrun, List.mem_filter] at hmem
    have hip : w.1.packet.srcIp = some x := of_decide_eq_true hmem.2
    refine ⟨hip, fun a ha => Option.some.inj (Eq.trans ?_ hip)⟩
    exact (forall_watched (P := fun s alerts => ∀ a ∈ alerts, s.packet.srcIp = some a.srcIp)
      (fun _ _ _ _ ha => (srcIp_of_mem_process ha).1) records w hmem.1 a ha).symm
  rw [(watched_own x rfl rfl records).1] at hrun
  obtain ⟨hfirst, -⟩ := watched_eq_append hrun
  obtain ⟨-, hblock⟩ := watched_eq_append hfirst
  by_contra hnone
  have hno : ∀ w ∈ block, alertsOf .trafficSpike w.2 = [] := by
    intro w hw
    refine List.filter_eq_nil_iff.2 fun a ha hk => hnone ?_
    exact ⟨w, hw, a, ha, of_decide_eq_true hk, (hown w hw).2 a ha⟩
  have hfew := (kept_of_no_spike hx limits (before.map (·.1)) (block.map (·.1))
    (List.forall_mem_map.2 fun w hw => (hown w hw).1)
    (List.forall_mem_map.2 fun v hv => List.forall_mem_map.2 fun w hw => hclose v hv w hw)
    (hblock.symm ▸ hno)).2
  rw [List.length_map] at hfew
  omega

/-- **Tuning.** Two detectors see the same packets. However else their limits differ, the one that
asks for more ports has raised no more alerts about the ports of an address; the one that allows for
more arrivals, in a window that is no longer, no more about its traffic. A beginning of a run is a
run, so that is so after each packet, and no clock has to go forward for it. Where packets of an
address come one after another within the window, and they are more than the limit, one of them
raises an alert. -/
theorem tuned (limits limits' : Limits) (records : List Sighting) (x : String) :
    (limits.ports ≤ limits'.ports →
      (alertsOf .portScan (alertsAbout x ((new limits').watched records))).length ≤
        (alertsOf .portScan (alertsAbout x ((new limits).watched records))).length) ∧
    (limits.arrivals ≤ limits'.arrivals → limits'.windowSeconds ≤ limits.windowSeconds →
      (alertsOf .trafficSpike (alertsAbout x ((new limits').watched records))).length ≤
        (alertsOf .trafficSpike (alertsAbout x ((new limits).watched records))).length) ∧
    (x ≠ "" → ∀ before block rest,
      ((new limits).watched records).filter (fun w => w.1.packet.srcIp = some x) =
        before ++ block ++ rest →
      limits.arrivals < block.length →
      (∀ v ∈ block, ∀ w ∈ block,
        w.1.now.ticks - v.1.now.ticks < (limits.windowSeconds * 1000000000 : Nat)) →
      ∃ w ∈ block, ∃ a ∈ w.2, a.kind = .trafficSpike ∧ a.srcIp = x) := by
  refine ⟨fun hports => ?_, fun harrivals hwindow => ?_, fun hx _ _ _ => spike_of_burst hx limits⟩
  · exact ((portWatch_stricter hports).behind_run (portWatch_alone limits') (portWatch_alone limits)
      rfl x records).le
  · exact ((arrivalWatch_stricter harrivals hwindow).behind_run (arrivalWatch_alone limits')
      (arrivalWatch_alone limits) rfl x records).le

/-- An address tries three ports at once, and another packet comes between. Who asks for a port more
and has no window tells of no more, and where two packets may come within a second the three raise
an alert. -/
theorem tuned_of_three :
    (alertsOf .portScan (alertsAbout "a" ((new ⟨3, 2, 0⟩).watched
        [.of "a" (some 80) 0, .of "a" (some 443) 5, .of "b" none 7, .of "a" (some 22) 9]))).length ≤
      (alertsOf .portScan (alertsAbout "a" ((new ⟨2, 2, 1⟩).watched
        [.of "a" (some 80) 0, .of "a" (some 443) 5, .of "b" none 7, .of "a" (some 22) 9]))).length ∧
    (alertsOf .trafficSpike (alertsAbout "a" ((new ⟨3, 2, 0⟩).watched
        [.of "a" (some 80) 0, .of "a" (some 443) 5, .of "b" none 7, .of "a" (some 22) 9]))).length ≤
      (alertsOf .trafficSpike (alertsAbout "a" ((new ⟨2, 2, 1⟩).watched
        [.of "a" (some 80) 0, .of "a" (some 443) 5, .of "b" none 7, .of "a" (some 22) 9]))).length ∧
    ∃ w ∈ ((new ⟨2, 2, 1⟩).watched
        [.of "a" (some 80) 0, .of "a" (some 443) 5, .of "b" none 7, .of "a" (some 22) 9]).filter
          (fun w => w.1.packet.srcIp = some "a"),
      ∃ a ∈ w.2, a.kind = .trafficSpike ∧ a.srcIp = "a" := by
  obtain ⟨hports, htraffic, hburst⟩ := tuned ⟨2, 2, 1⟩ ⟨3, 2, 0⟩
    [.of "a" (some 80) 0, .of "a" (some 443) 5, .of "b" none 7, .of "a" (some 22) 9] "a"
  refine ⟨hports (by decide), htraffic (by decide) (by decide), ?_⟩
  exact hburst (by decide) [] _ [] (List.append_nil _).symm (by decide) (by decide)

end Detector

end PacketTelemetry
