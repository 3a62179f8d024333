/-
What becomes of that which comes in beside packets. Heartbeats go into the
roster, one after another, and each has the roster published as it is then
(`Roster.history`); analytics go onto their channels as they came. Of both
together, in their order, `Roster.puts` tells what is put out.

Nothing else is published on those channels, and nothing else becomes of the
roster: this is said of one step (`Collector.step_passes`) and then of a run
(`Collector.run_passes`).
-/
import PacketTelemetry.Proofs.Collector.Moves

namespace PacketTelemetry

open Json Http

/-! ## The roster after reports -/

namespace Roster

/-- The roster after reports one after another. -/
def after (r : Roster) (as : List Agent) : Roster := as.foldl report r

/-- The rosters there are on the way, one after each report. -/
def history (r : Roster) (as : List Agent) : List (List Agent) :=
  (List.range as.length).map fun k => (r.after (as.take (k + 1))).agents

@[simp] theorem after_nil (r : Roster) : r.after [] = r := rfl

@[simp] theorem after_append (r : Roster) (as as' : List Agent) :
    r.after (as ++ as') = (r.after as).after as' :=
  List.foldl_append

@[simp] theorem history_nil (r : Roster) : r.history [] = [] := rfl

theorem history_cons (r : Roster) (a : Agent) (as : List Agent) :
    r.history (a :: as) = (r.report a).agents :: (r.report a).history as := by
  simp only [history, List.length_cons, List.range_succ_eq_map, List.map_cons, List.map_map]
  rfl

@[simp] theorem history_append (r : Roster) (as as' : List Agent) :
    r.history (as ++ as') = r.history as ++ (r.after as).history as' := by
  induction as generalizing r with
  | nil => rfl
  | cons a as ih =>
    rw [List.cons_append, history_cons, history_cons, ih]
    rfl

/-- What is put out with what comes in: rosters, one for each heartbeat, and analytics as they
came. -/
def puts (r : Roster) : List Incoming → List Effect
  | [] => []
  | .heartbeat a :: ins => .published .agents (r.report a).agents :: (r.report a).puts ins
  | .analytics a payload :: ins => .published (.analytics a) payload :: r.puts ins

theorem puts_append (r : Roster) (ins ins' : List Incoming) :
    r.puts (ins ++ ins') = r.puts ins ++ (r.after (heartbeatsIn ins)).puts ins' := by
  induction ins generalizing r with
  | nil => rfl
  | cons i ins ih =>
    cases i with
    | heartbeat a => exact congrArg _ (ih (r.report a))
    | analytics a payload => exact congrArg _ (ih r)

theorem publishedOn_agents_puts (r : Roster) (ins : List Incoming) :
    publishedOn .agents (r.puts ins) = r.history (heartbeatsIn ins) := by
  induction ins generalizing r with
  | nil => rfl
  | cons i ins ih =>
    cases i with
    | heartbeat a => exact (congrArg _ (ih (r.report a))).trans (r.history_cons a _).symm
    | analytics a payload => exact ih r

theorem publishedOn_analytics_puts (r : Roster) (ins : List Incoming) (a : Analytics) :
    publishedOn (.analytics a) (r.puts ins) = payloadsIn a ins := by
  induction ins generalizing r with
  | nil => rfl
  | cons i ins ih =>
    cases i with
    | heartbeat b => exact ih (r.report b)
    | analytics b payload =>
      have hfirst : publishedOn (.analytics a) [.published (.analytics b) payload] =
          payloadsIn a [.analytics b payload] := by
        by_cases h : b = a
        · subst h
          have hown : payloadsIn b [.analytics b payload] = [payload] := by simp [payloadsIn]
          exact (publishedOn_self (.analytics b) payload).trans hown.symm
        · have hother : payloadsIn a [.analytics b payload] = [] := by simp [payloadsIn, h]
          exact (publishedOn_other (by simpa using h) _).trans hother.symm
      have hboth := congrArg₂ (· ++ ·) hfirst (ih r)
      exact (publishedOn_append _ [_] _).trans (hboth.trans (payloadsIn_append a [_] ins).symm)

end Roster

namespace Collector

/-! ## One step -/

/-- What is put out with what comes in, and what becomes of the roster. -/
structure Carries (c : Collector) (ins : List Incoming) (es : List Effect) (c' : Collector) :
    Prop where
  agents : publishedOn .agents es = c.roster.history (heartbeatsIn ins)
  analytics : ∀ a, publishedOn (.analytics a) es = payloadsIn a ins
  roster : c'.roster = c.roster.after (heartbeatsIn ins)
  topics : c'.topics = c.topics

namespace Carries

variable {c c' c'' : Collector} {ins ins' : List Incoming} {es es' : List Effect}

/-- Nothing comes in, and nothing is put out on these channels. -/
theorem nothing (hes : ∀ ch, ch ≠ .packets → ch ≠ .alerts → publishedOn ch es = [])
    (hc : c'.roster = c.roster) (ht : c'.topics = c.topics) : Carries c [] es c' :=
  ⟨hes .agents (by decide) (by decide), fun a => hes (.analytics a) (by simp) (by simp), hc, ht⟩

theorem trans (h : Carries c ins es c') (h' : Carries c' ins' es' c'') :
    Carries c (ins ++ ins') (es ++ es') c'' := by
  refine ⟨?_, ?_, ?_, ?_⟩
  · rw [publishedOn_append, h.agents, h'.agents, h.roster, heartbeatsIn_append,
      Roster.history_append]
    rfl
  · intro a
    rw [publishedOn_append, h.analytics, h'.analytics, payloadsIn_append]
    rfl
  · rw [h'.roster, h.roster, heartbeatsIn_append, Roster.after_append]
  · rw [h'.topics, h.topics]

end Carries

/-- What comes in is put out and goes into the roster, and that is all. -/
structure Admits (c : Collector) (ins : List Incoming) (c' : Collector) : Prop where
  emits : Emits c (c.roster.puts ins) c'
  roster : c'.roster = c.roster.after (heartbeatsIn ins)
  topics : c'.topics = c.topics

namespace Admits

variable {c c' c'' : Collector} {ins ins' : List Incoming}

theorem refl (c : Collector) : Admits c [] c := ⟨.nothing rfl rfl, rfl, rfl⟩

theorem trans (h : Admits c ins c') (h' : Admits c' ins' c'') : Admits c (ins ++ ins') c'' := by
  refine ⟨?_, ?_, h'.topics.trans h.topics⟩
  · rw [Roster.puts_append, ← h.roster]
    exact h.emits.trans h'.emits
  · rw [h'.roster, h.roster, heartbeatsIn_append, Roster.after_append]

theorem carries (h : Admits c ins c') : Carries c ins (c.roster.puts ins) c' :=
  ⟨c.roster.publishedOn_agents_puts ins, c.roster.publishedOn_analytics_puts ins, h.roster,
    h.topics⟩

theorem heartbeat (c : Collector) (a : Agent) : Admits c [.heartbeat a] (c.heartbeat a) :=
  ⟨.heartbeat c a, rfl, rfl⟩

theorem analytics (c : Collector) (a : Analytics) (payload : Value) :
    Admits c [.analytics a payload] (c.publish (.analytics a) payload) :=
  ⟨.publish c (.analytics a) payload, rfl, rfl⟩

/-- An envelope brings something to the roster or to a channel, or else nothing. -/
theorem routeLine (c : Collector) (line : Except Fault Envelope) :
    Admits c (c.topics.incoming [line]) (c.routeLine line).1 := by
  cases line with
  | error fault => exact refl c
  | ok e =>
    have hline : c.topics.incoming [.ok e] = (c.topics.incoming? e).toList := by
      simp only [Topics.incoming, Except.toOption, List.filterMap_cons, List.filterMap_nil,
        Option.bind_some]
      cases c.topics.incoming? e <;> rfl
    rw [hline]
    simp only [Collector.routeLine, route, Topics.incoming?]
    by_cases ht : e.topic = c.topics.heartbeats
    · simp only [if_pos ht]
      cases Agent.form.take e.payload with
      | error mismatch => exact refl c
      | ok a => exact heartbeat c a
    · simp only [if_neg ht]
      cases c.topics.analyticsOf? e.topic with
      | none => exact refl c
      | some a => exact analytics c a e.payload

theorem routeLines (c : Collector) (lines : List (Except Fault Envelope)) :
    Admits c (c.topics.incoming lines) (c.routeLines lines).1 := by
  induction lines generalizing c with
  | nil => exact refl c
  | cons line lines ih =>
    have hfirst := routeLine c line
    have hrest := ih (c.routeLine line).1
    rw [hfirst.topics] at hrest
    have hlines : c.topics.incoming (line :: lines) =
        c.topics.incoming [line] ++ c.topics.incoming lines := by
      simp only [Topics.incoming, ← List.filterMap_append, List.singleton_append]
    rw [hlines]
    exact hfirst.trans hrest

end Admits

/-- A collector takes in what comes beside packets. -/
def Passes (c : Collector) (ins : List Incoming) (c' : Collector) : Prop :=
  ∃ es, Emits c es c' ∧ Carries c ins es c'

namespace Passes

variable {c c' c'' : Collector} {ins ins' : List Incoming}

theorem nothing (ho : c'.outbound = c.outbound) (hc : c'.channels = c.channels)
    (hr : c'.roster = c.roster) (ht : c'.topics = c.topics) : Passes c [] c' :=
  ⟨[], .nothing ho hc, .nothing (fun _ _ _ => rfl) hr ht⟩

theorem refl (c : Collector) : Passes c [] c := nothing rfl rfl rfl rfl

theorem trans (h : Passes c ins c') (h' : Passes c' ins' c'') : Passes c (ins ++ ins') c'' := by
  obtain ⟨es, he, hc⟩ := h
  obtain ⟨es', he', hc'⟩ := h'
  exact ⟨es ++ es', he.trans he', hc.trans hc'⟩

theorem of_admits (h : Admits c ins c') : Passes c ins c' := ⟨_, h.emits, h.carries⟩

theorem directHeartbeat (c : Collector) (a : Agent) :
    Passes c [.heartbeat a] (c.directHeartbeat a) := by
  have hsent : Passes (c.heartbeat a) [] (c.directHeartbeat a) :=
    ⟨_, .send _ _, .nothing (fun _ _ _ => rfl) rfl rfl⟩
  exact (of_admits (.heartbeat c a)).trans hsent

/-- Packets that are spread are not heard of on these channels. -/
theorem spreadAll (c : Collector) (now : Nat → Moment) (ss : List StoredPacket) :
    Passes c [] (c.spreadAll now ss).1 := by
  have hroster := roster_of_core (c.spreadAll_core now ss)
  have htopics := topics_of_core (c.spreadAll_core now ss)
  refine ⟨_, .spreadAll c now ss, .nothing ?_ hroster htopics⟩
  intro ch hp ha
  refine List.filterMap_eq_nil_iff.2 fun e he => ?_
  obtain ⟨w, -, he⟩ := List.mem_flatMap.1 he
  simp only [effectsOf, List.mem_cons, List.mem_flatMap, List.not_mem_nil, or_false] at he
  obtain rfl | rfl | ⟨a, -, rfl | rfl⟩ := he
  · rfl
  · exact dif_neg (Ne.symm hp)
  · rfl
  · exact dif_neg (Ne.symm ha)

theorem ingest {p : Packet} {now : Moment} {s : StoredPacket} {alerts : List Alert}
    (h : c.ingest p now = .ok (c', s, alerts)) : Passes c [] c' := by
  unfold Collector.ingest at h
  split at h
  · cases h
  next store kept _ =>
  simp only [Except.ok.injEq, Prod.mk.injEq] at h
  obtain ⟨rfl, -, -⟩ := h
  have hstored : Passes c [] { c with store } := nothing rfl rfl rfl rfl
  rw [← spreadAll_singleton _ (fun _ => now)]
  exact hstored.trans (.spreadAll _ _ _)

theorem ingestBatch {b : Batch} {now : Nat → Moment} {k : Nat} {alerts : List Alert}
    (h : c.ingestBatch b now = .ok (c', k, alerts)) : Passes c [] c' := by
  unfold Collector.ingestBatch at h
  split at h
  · cases h
  · split at h
    · cases h
    next store kept _ =>
    simp only [Except.ok.injEq, Prod.mk.injEq] at h
    obtain ⟨rfl, -, -⟩ := h
    have hstored : Passes c [] { c with store } := nothing rfl rfl rfl rfl
    exact hstored.trans (.spreadAll _ _ _)

theorem routeLines (c : Collector) (lines : List (Except Fault Envelope)) :
    Passes c (c.topics.incoming lines) (c.routeLines lines).1 :=
  of_admits (.routeLines c lines)

end Passes

theorem Moves.passes {c c' : Collector} {brought : List (Packet × Moment)} {ins : List Incoming}
    {printed : List Alert} (h : Moves c brought ins printed c') : Passes c ins c' := by
  cases h with
  | nothing => exact .refl c
  | packet h => exact .ingest h
  | batch h => exact .ingestBatch h
  | heartbeat a => exact .of_admits (.heartbeat c a)
  | directHeartbeat a => exact .directHeartbeat c a
  | lines lines => exact .routeLines c lines
  | analytics a payload => exact .of_admits (.analytics c a payload)

/-- A step that does not observe takes in what it brings. -/
theorem step_passes (c : Collector) {act : Act} (ha : act.observes = false) :
    Passes c (act.incoming c.topics) (c.step act).1 :=
  (c.step_moves ha).passes

/-! ## Runs -/

/-- Over a run, what comes in is taken in and heard of. -/
theorem run_passes {c : Collector} (hn : c.Numbered) (acts : List Act) :
    ∃ es, RunHears c acts es ∧
      Carries c (acts.flatMap (·.incoming c.topics)) es (c.run acts).1 := by
  induction acts generalizing c with
  | nil => exact ⟨[], .nil hn, .nothing (fun _ _ _ => rfl) rfl rfl⟩
  | cons act acts ih =>
    have hstep : ∃ es, Hears c (c.entry act) es (c.step act).1 ∧
        Carries c (act.incoming c.topics) es (c.step act).1 := by
      cases ha : act.observes with
      | true =>
        obtain ⟨hears, hcore⟩ := observer_step hn ha
        rw [Act.incoming_observer ha]
        exact ⟨[], hears, .nothing (fun _ _ _ => rfl) (roster_of_core hcore) (topics_of_core hcore)⟩
      | false =>
        obtain ⟨es, he, hcarried⟩ := c.step_passes ha
        exact ⟨es, .of_emits hn (c.plain_entry ha) he, hcarried⟩
    obtain ⟨es, hears, hfirst⟩ := hstep
    obtain ⟨es', hears', hrest⟩ := ih hears.numbered
    rw [hfirst.topics] at hrest
    exact ⟨es ++ es', .cons hears hears', hfirst.trans hrest⟩

theorem run_topics {c : Collector} (hn : c.Numbered) (acts : List Act) :
    (c.run acts).1.topics = c.topics := by
  obtain ⟨es, -, hcarried⟩ := run_passes hn acts
  exact hcarried.topics

theorem run_reports {c : Collector} (hn : c.Numbered) (acts : List Act) :
    (c.run acts).1.roster =
      c.roster.after (heartbeatsIn (acts.flatMap (·.incoming c.topics))) := by
  obtain ⟨es, -, hcarried⟩ := run_passes hn acts
  exact hcarried.roster

/-- Only who observes reads. -/
theorem nothing_read {c : Collector} {acts : List Act} (ha : ∀ act ∈ acts, act.observes = false)
    {ch : Channel} {id : Nat} : (c.run acts).2.flatMap (·.itemsFor ch id) = [] := by
  induction acts generalizing c with
  | nil => rfl
  | cons act acts ih =>
    obtain ⟨hfirst, hrest⟩ := List.forall_mem_cons.1 ha
    rw [run, List.flatMap_cons, (c.plain_entry hfirst).items, ih hrest]
    rfl

/-- Whoever comes to a channel and does not leave has read, but for what waits in its queue, what
comes in after that. -/
theorem heard_incoming {c : Collector} (hn : c.Numbered) {acts : List Act}
    {before later : List Entry} {e : Entry} {ch : Channel} {id : Nat}
    (htrace : (c.run acts).2 = before ++ e :: later) (hj : e.joined? = some (ch, id))
    (hleave : ∀ e' ∈ later, e'.act ≠ .leave ch id) :
    ∃ d es q, d.roster = c.roster.after (heartbeatsIn (before.flatMap (·.act.incoming c.topics))) ∧
      Carries d (later.flatMap (·.act.incoming c.topics)) es (c.run acts).1 ∧
      ((c.run acts).1.channels.hub ch).queue? id = some q ∧
      later.flatMap (·.itemsFor ch id) ++ q = publishedOn ch es := by
  obtain ⟨acts₁, act, acts₂, rfl, rfl, rfl, rfl⟩ := run_split htrace
  have hbrought : ∀ (c' : Collector) (acts' : List Act),
      (c'.run acts').2.flatMap (·.act.incoming c.topics) = acts'.flatMap (·.incoming c.topics) := by
    intro c' acts'
    conv_rhs => rw [← map_act_run c' acts', List.flatMap_map]
  obtain ⟨es₁, hears₁, hcarried₁⟩ := run_passes hn acts₁
  obtain ⟨hears, hcore⟩ := observer_step hears₁.numbered (observes_of_joined hj)
  obtain ⟨es, hears₂, hcarried₂⟩ := run_passes hears.numbered acts₂
  obtain ⟨q, hq, hitems⟩ := hears₂.heard ch id [] (hears.joined ch id hj) hleave
  rw [topics_of_core hcore, hcarried₁.topics] at hcarried₂
  refine ⟨((c.run acts₁).1.step act).1, es, q, ?_, ?_, ?_, hitems⟩
  · rw [hbrought, roster_of_core hcore, hcarried₁.roster]
  · rw [hbrought, run_append]
    exact hcarried₂
  · rw [run_append]
    exact hq

end Collector

end PacketTelemetry
