/-
The roster is made out of what agents said last (`Collector.run_roster`):
whichever way they reported in, it lists each of them once, in the order of
their names, with the last report as a whole.

What it lists can be said without tables (`Lists`), and two lists of which that
is said are the same (`Lists.unique`). So the order of reports counts for no
more than which of an agent's was the last.
-/
import Mathlib.Data.List.Induction
import PacketTelemetry.Proofs.Collector.Incoming
import PacketTelemetry.Proofs.Text.Order

namespace PacketTelemetry

/-! ## What a roster lists -/

/-- The last report of an agent. -/
def lastReport? (id : String) (reports : List Agent) : Option Agent :=
  (reports.filter (·.id = id)).getLast?

/-- A list of agents after some reports: each of those who reported once, in the order of the octets
of their names, with its last report. -/
structure Lists (reports as : List Agent) : Prop where
  ascending : as.Pairwise fun a b => Text.Utf8.encode a.id < Text.Utf8.encode b.id
  names : ∀ id, id ∈ as.map (·.id) ↔ id ∈ reports.map (·.id)
  last : ∀ a ∈ as, lastReport? a.id reports = some a

/-- Rosters there are on the way, one after each of some reports that come after others. -/
structure Snapshots (reports as : List Agent) (rosters : List (List Agent)) : Prop where
  count : rosters.length = as.length
  lists : ∀ k (h : k < rosters.length), Lists (reports ++ as.take (k + 1)) rosters[k]

/-- Reports arranged in another way: of two agents the other one reports first, or a report comes
twice. -/
inductive Rearranged : List Agent → List Agent → Prop
  | swap (before later : List Agent) {a b : Agent} (h : a.id ≠ b.id) :
    Rearranged (before ++ a :: b :: later) (before ++ b :: a :: later)
  | twice (before later : List Agent) (a : Agent) :
    Rearranged (before ++ a :: later) (before ++ a :: a :: later)

theorem lastReport?_snoc (id : String) (reports : List Agent) (a : Agent) :
    lastReport? id (reports ++ [a]) = if a.id = id then some a else lastReport? id reports := by
  unfold lastReport?
  split <;> simp_all

theorem isSome_lastReport? {id : String} {reports : List Agent} :
    (lastReport? id reports).isSome ↔ id ∈ reports.map (·.id) := by
  rw [lastReport?, Option.isSome_iff_ne_none, Ne, List.getLast?_eq_none_iff, List.filter_eq_nil_iff]
  simp

/-- The last reports stay the last. -/
theorem Rearranged.lastReport? {reports reports' : List Agent} (h : Rearranged reports reports')
    (id : String) : lastReport? id reports = lastReport? id reports' := by
  cases h with
  | @swap before later a b h =>
    have hpair : (a :: b :: later).filter (·.id = id) = (b :: a :: later).filter (·.id = id) := by
      by_cases ha : a.id = id
      · have hb : b.id ≠ id := fun hb => h (ha.trans hb.symm)
        simp [ha, hb]
      · simp [List.filter_cons, ha]
    rw [PacketTelemetry.lastReport?, List.filter_append, hpair, ← List.filter_append,
      PacketTelemetry.lastReport?]
  | twice before later a =>
    by_cases ha : a.id = id
    · simp [PacketTelemetry.lastReport?, ha, List.getLast?_append, List.getLast?_cons]
    · simp [PacketTelemetry.lastReport?, ha]

namespace Lists

variable {reports reports' as as' : List Agent}

theorem mem_iff (h : Lists reports as) {a : Agent} : a ∈ as ↔ lastReport? a.id reports = some a := by
  refine ⟨h.last a, fun hlast => ?_⟩
  have hid : a.id ∈ as.map (·.id) := (h.names a.id).2 (isSome_lastReport?.1 (by simp [hlast]))
  obtain ⟨a', ha', heq⟩ := List.mem_map.1 hid
  have hlast' := h.last a' ha'
  rw [heq, hlast] at hlast'
  rw [Option.some.inj hlast']
  exact ha'

/-- Only the last reports count. -/
theorem unique (h : Lists reports as) (h' : Lists reports' as')
    (hlast : ∀ id, lastReport? id reports = lastReport? id reports') : as = as' := by
  have hnodup : ∀ {reports as}, Lists reports as → as.Nodup := by
    intro reports as h
    refine h.ascending.imp ?_
    rintro a _ hlt rfl
    exact List.lt_irrefl _ hlt
  have hperm : as.Perm as' := by
    rw [List.perm_ext_iff_of_nodup (hnodup h) (hnodup h')]
    intro a
    rw [h.mem_iff, h'.mem_iff, hlast]
  refine hperm.eq_of_pairwise ?_ h.ascending h'.ascending
  exact fun a b _ _ hab hba => absurd hba (List.lt_asymm hab)

/-- In whatever order the agents are found, sorted by their names they make up the list. -/
theorem mergeSort_eq (h : Lists reports as) {entries : List Agent} (hperm : entries.Perm as) :
    entries.mergeSort (fun a b => a.id ≤ b.id) = as := by
  have hsorted : (entries.mergeSort fun a b => a.id ≤ b.id).Pairwise fun a b => a.id ≤ b.id := by
    have htrans : ∀ a b c : Agent, decide (a.id ≤ b.id) = true → decide (b.id ≤ c.id) = true →
        decide (a.id ≤ c.id) = true := fun a b c hab hbc =>
      decide_eq_true (String.le_trans (of_decide_eq_true hab) (of_decide_eq_true hbc))
    have htotal : ∀ a b : Agent, (decide (a.id ≤ b.id) || decide (b.id ≤ a.id)) = true :=
      fun a b => by simpa using String.le_total a.id b.id
    exact (List.pairwise_mergeSort htrans htotal entries).imp of_decide_eq_true
  have hascending : as.Pairwise fun a b => a.id ≤ b.id :=
    h.ascending.imp fun hlt => String.not_lt.1 (String.lt_asymm (Text.Utf8.encode_lt_encode.1 hlt))
  have hsame := (List.mergeSort_perm entries fun a b => a.id ≤ b.id).trans hperm
  refine hsame.eq_of_pairwise ?_ hsorted hascending
  intro a b ha hb hab hba
  have hlast := h.last a (hsame.mem_iff.1 ha)
  rw [String.le_antisymm hab hba, h.last b hb] at hlast
  exact (Option.some.inj hlast).symm

end Lists

/-! ## Reports one after another -/

namespace Roster

/-- The roster that reports lead to. -/
def of (reports : List Agent) : Roster := empty.after reports

theorem of_snoc (reports : List Agent) (a : Agent) :
    of (reports ++ [a]) = (of reports).report a :=
  after_append _ _ _

theorem of_append (reports reports' : List Agent) :
    of (reports ++ reports') = (of reports).after reports' :=
  after_append _ _ _

/-- Agents stand under their names, in order. -/
structure Kept (r : Roster) : Prop where
  ordered : Table.Ordered r.reports
  named : ∀ e ∈ r.reports, e.1 = e.2.id

theorem Kept.report {r : Roster} (h : r.Kept) (a : Agent) : (r.report a).Kept := by
  refine ⟨h.ordered.put a.id a, fun e he => ?_⟩
  rcases Table.mem_of_mem_put he with rfl | he
  · rfl
  · exact h.named e he

theorem Kept.names {r : Roster} (h : r.Kept) : r.agents.map (·.id) = Table.names r.reports := by
  simp only [agents, Table.values, Table.names, List.map_map]
  exact List.map_congr_left fun e he => (h.named e he).symm

theorem kept_of (reports : List Agent) : (of reports).Kept := by
  induction reports using List.reverseRecOn with
  | nil => exact ⟨List.Pairwise.nil, fun _ h => nomatch h⟩
  | append_singleton reports a ih => exact of_snoc reports a ▸ ih.report a

theorem get?_of (id : String) (reports : List Agent) :
    Table.get? id (of reports).reports = lastReport? id reports := by
  induction reports using List.reverseRecOn with
  | nil => rfl
  | append_singleton reports a ih =>
    rw [of_snoc, lastReport?_snoc, report]
    split
    · next h => rw [← h, Table.get?_put_self]
    · next h => rw [Table.get?_put_other (Ne.symm h), ih]

/-- The roster lists the last reports. -/
theorem lists_of (reports : List Agent) : Lists reports (of reports).agents := by
  have hkept := kept_of reports
  refine ⟨?_, ?_, ?_⟩
  · have hordered := hkept.ordered
    rw [Table.Ordered, ← hkept.names, List.pairwise_map] at hordered
    exact hordered.imp Text.Utf8.encode_lt_encode.2
  · intro id
    rw [hkept.names, ← Table.isSome_get?_iff, get?_of, isSome_lastReport?]
  · intro a ha
    obtain ⟨e, he, rfl⟩ := List.mem_map.1 ha
    rw [← get?_of, ← hkept.named e he]
    exact Table.get?_of_mem hkept.ordered he

/-- On the way, too, the rosters list the last reports. -/
theorem snapshots_history (reports as : List Agent) :
    Snapshots reports as ((of reports).history as) := by
  refine ⟨by simp [history], fun k hk => ?_⟩
  simp only [history, List.getElem_map, List.getElem_range]
  rw [← of_append]
  exact lists_of _

theorem getLast?_history (r : Roster) {as : List Agent} (h : as ≠ []) :
    (r.history as).getLast? = some (r.after as).agents := by
  obtain ⟨as, a, rfl⟩ := (List.eq_nil_or_concat as).resolve_left h
  rw [List.concat_eq_append, history_append, history_cons, history_nil, List.getLast?_concat,
    after_append]
  rfl

end Roster

namespace Collector

/-- Agents report in after others: in the end the roster lists the last reports, and on the way it
has been published once for each of those who reported in. -/
structure Announces (c : Collector) (reports as : List Agent) (c' : Collector) : Prop where
  lists : Lists (reports ++ as) c'.roster.agents
  published : ∃ rosters, Snapshots reports as rosters ∧
    (as ≠ [] → rosters.getLast? = some c'.roster.agents) ∧
    c'.channels.agents = c.channels.agents.publishAll rosters

theorem Passes.announces {c c' : Collector} {ins : List Incoming} {reports : List Agent}
    (h : Passes c ins c') (hc : c.roster = Roster.of reports) :
    Announces c reports (heartbeatsIn ins) c' := by
  obtain ⟨es, he, hcarried⟩ := h
  refine ⟨?_, c.roster.history (heartbeatsIn ins), ?_, ?_, ?_⟩
  · rw [hcarried.roster, hc, ← Roster.of_append]
    exact Roster.lists_of _
  · rw [hc]
    exact Roster.snapshots_history _ _
  · rw [hcarried.roster]
    exact Roster.getLast?_history _
  · rw [← hcarried.agents]
    exact he.hub .agents

/-- **The roster.** In every run the roster lists each agent that has reported in, directly, over
HTTP or by way of the broker, once, in the order of the octets of its name and as it reported last,
and as many are counted. It is what sorting them by their names gives, in whatever order they are
found. With every step that does not observe, and with every line of a datagram, it is published
once for each heartbeat there is, as it is after that heartbeat. So whoever listens to agents and
does not leave has read, or has waiting, one such roster for each heartbeat since it came. Of two
agents either may report first, and any report may come twice: that makes no other roster. -/
theorem run_roster (s : Setup) {acts : List Act} {c : Collector} {trace : List Entry}
    {reports : List Agent} (hrun : (new s).run acts = (c, trace))
    (hreports : reports = heartbeatsIn (acts.flatMap (·.incoming s.topics))) :
    Lists reports c.roster.agents ∧ c.stats.agents = c.roster.agents.length ∧
    (∀ entries : List Agent, entries.Perm c.roster.agents →
      entries.mergeSort (fun a b => a.id ≤ b.id) = c.roster.agents) ∧
    (∀ act, act.observes = false →
      Announces c reports (heartbeatsIn (act.incoming s.topics)) (c.step act).1) ∧
    (∀ lines, Announces c reports (heartbeatsIn (s.topics.incoming lines)) (c.routeLines lines).1) ∧
    (∀ before e later id, trace = before ++ e :: later → e.joined? = some (.agents, id) →
      (∀ e' ∈ later, e'.act ≠ .leave .agents id) →
      ∃ q rosters, (c.channels.hub .agents).queue? id = some q ∧
        later.flatMap (·.itemsFor .agents id) ++ q = rosters ∧
        Snapshots (heartbeatsIn (before.flatMap (·.act.incoming s.topics)))
          (heartbeatsIn (later.flatMap (·.act.incoming s.topics))) rosters) ∧
    ∀ acts' c' trace', (new s).run acts' = (c', trace') →
      Rearranged reports (heartbeatsIn (acts'.flatMap (·.incoming s.topics))) →
      c'.roster.agents = c.roster.agents := by
  have hn := Numbered.new s
  have hlists : ∀ acts', Lists (heartbeatsIn (acts'.flatMap (·.incoming s.topics)))
      ((new s).run acts').1.roster.agents := by
    intro acts'
    rw [run_reports hn]
    exact Roster.lists_of _
  obtain ⟨rfl, rfl⟩ := Prod.ext_iff.1 hrun
  subst hreports
  have htopics : ((new s).run acts).1.topics = s.topics := run_topics hn acts
  have hannounces : ∀ {ins c'}, Passes ((new s).run acts).1 ins c' →
      Announces ((new s).run acts).1 (heartbeatsIn (acts.flatMap (·.incoming s.topics)))
        (heartbeatsIn ins) c' := fun h => h.announces (run_reports hn acts)
  refine ⟨hlists acts, ?_, fun entries => (hlists acts).mergeSort_eq, ?_, ?_, ?_, ?_⟩
  · exact (List.length_map _).symm
  · intro act ha
    exact hannounces (htopics ▸ step_passes _ ha)
  · intro lines
    exact hannounces (htopics ▸ Passes.routeLines _ lines)
  · intro before e later id htrace hj hleave
    obtain ⟨d, es, q, hd, hcarried, hq, hitems⟩ := heard_incoming hn htrace hj hleave
    refine ⟨q, _, hq, hitems, ?_⟩
    have hagents := hcarried.agents
    rw [hd] at hagents
    rw [hagents]
    exact Roster.snapshots_history _ _
  · intro acts' c' trace' hrun' hrearranged
    obtain ⟨rfl, rfl⟩ := Prod.ext_iff.1 hrun'
    exact (hlists acts').unique (hlists acts) fun id => (hrearranged.lastReport? id).symm

/-- One listens from the second report on, which comes over HTTP. The third comes in a datagram. -/
theorem run_roster_of_three :
    ∃ first second third c trace,
      first = Agent.mk "b" (some "host") none none none ∧
      second = Agent.mk "a" none none none none ∧
      third = Agent.mk "b" none none (some "up") none ∧
      (new ⟨.memory (.new 0), .standard, .standard, 1000, 100, .utc⟩).run
        [.heartbeat first, .subscribe .agents,
          .request ⟨"POST", "/api/v1/agents/heartbeat".toList, some "application/json",
            .ofString "\x7b\"agentId\":\"a\"\x7d"⟩ fun _ => .once ⟨0, 0⟩ 0,
          .datagram ("\x7b\"topic\":\"netwatch.agent-heartbeat\"," ++
            "\"payload\":\x7b\"agentId\":\"b\",\"status\":\"up\"\x7d\x7d")] = (c, trace) ∧
      Lists [first, second, third] c.roster.agents ∧
      ∃ q, (c.channels.hub .agents).queue? 0 = some q ∧ Snapshots [first] [second, third] q := by
  let s : Setup := ⟨.memory (.new 0), .standard, .standard, 1000, 100, .utc⟩
  let first : Agent := ⟨"b", some "host", none, none, none⟩
  let later : List Act :=
    [.request ⟨"POST", "/api/v1/agents/heartbeat".toList, some "application/json",
        .ofString "\x7b\"agentId\":\"a\"\x7d"⟩ fun _ => .once ⟨0, 0⟩ 0,
      .datagram ("\x7b\"topic\":\"netwatch.agent-heartbeat\"," ++
        "\"payload\":\x7b\"agentId\":\"b\",\"status\":\"up\"\x7d\x7d")]
  let joined := ((new s).run [.heartbeat first]).1.step (.subscribe .agents)
  have hreports : heartbeatsIn ((.heartbeat first :: .subscribe .agents :: later).flatMap
      (·.incoming s.topics)) =
        [first, ⟨"a", none, none, none, none⟩, ⟨"b", none, none, some "up", none⟩] := by
    decide +kernel
  obtain ⟨hlists, -, -, -, -, hheard, -⟩ :=
    @run_roster s (.heartbeat first :: .subscribe .agents :: later) _ _ _ rfl hreports.symm
  obtain ⟨q, rosters, hq, hitems, hsnapshots⟩ :=
    hheard ((new s).run [.heartbeat first]).2 _ (joined.1.run later).2 0 rfl rfl
      (by simp [run, entry, later])
  have hlater : heartbeatsIn ((joined.1.run later).2.flatMap (·.act.incoming s.topics)) =
      [⟨"a", none, none, none, none⟩, ⟨"b", none, none, some "up", none⟩] :=
    (List.cons.inj hreports).2
  have hread : (joined.1.run later).2.flatMap (·.itemsFor .agents 0) = [] :=
    nothing_read (by decide +kernel)
  rw [hread] at hitems
  subst hitems
  rw [hlater] at hsnapshots
  exact ⟨_, _, _, _, _, rfl, rfl, rfl, rfl, hlists, q, hq, hsnapshots⟩

end Collector

end PacketTelemetry
