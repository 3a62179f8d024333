/-
Those who observe a collector have no part in what it does.

Who opens a stream, reads or leaves, takes messages or stops taking them, or
asks how many listen, only observes (`Act.observes`). All else is what is told
to a collector and asked of it. Two runs in which that is the same, but for the
time of day at which it happens, may be observed in any two ways: the same
answers are given, the same alerts printed, and the same packets, arrivals and
agents are there in the end, but for dates. Whoever comes to a channel at the
same place in both gets the same in both, whatever others do
(`Collector.run_observed`).

Two runs are held against each other step by step: where both take a step that
does not observe, the two collectors stay alike and put out alike; a step that
observes is taken by one of them, and leaves that one as it was but for the
queues.
-/
import PacketTelemetry.Proofs.Collector.Alike

namespace PacketTelemetry

open Http Time

/-! ## Steps that observe -/

namespace Act

/-- Whether a step only observes. -/
def observes : Act → Bool
  | .subscribe _ => true
  | .read _ _ _ => true
  | .leave _ _ => true
  | .take _ => true
  | .close => true
  -- Among the counts is that of those who listen.
  | .stats => true
  | .request r _ => r.stream?.isSome
  | _ => false

theorem stream?_eq_none {r : Request} {now : Nat → Moment}
    (h : (Act.request r now).observes = false) : r.stream? = none :=
  Option.not_isSome_iff_eq_none.1 (Bool.eq_false_iff.1 h)

/-- A step but for the time of day. -/
def undated : Act → Act
  | .ingest p now => .ingest p now.undated
  | .ingestBatch b now => .ingestBatch b fun i => (now i).undated
  | .request r now => .request r fun i => (now i).undated
  | act => act

/-- Steps that are the same but for the time of day. -/
inductive Alike : Act → Act → Prop
  | same (act : Act) : Alike act act
  | ingest (p : Packet) {now now' : Moment} (h : now.undated = now'.undated) :
    Alike (.ingest p now) (.ingest p now')
  | ingestBatch (b : Batch) {now now' : Nat → Moment}
    (h : ∀ i, (now i).undated = (now' i).undated) :
    Alike (.ingestBatch b now) (.ingestBatch b now')
  | request (r : Request) {now now' : Nat → Moment} (h : ∀ i, (now i).undated = (now' i).undated) :
    Alike (.request r now) (.request r now')

theorem alike_of_undated {act act' : Act} (h : act.undated = act'.undated) : Alike act act' := by
  cases act with
  | ingest p now =>
    cases act' with
    | ingest p' now' =>
      obtain ⟨rfl, hnow⟩ := Act.ingest.inj h
      exact .ingest p hnow
    | _ => cases h
  | ingestBatch b now =>
    cases act' with
    | ingestBatch b' now' =>
      obtain ⟨rfl, hnow⟩ := Act.ingestBatch.inj h
      exact .ingestBatch b (congrFun hnow)
    | _ => cases h
  | request r now =>
    cases act' with
    | request r' now' =>
      obtain ⟨rfl, hnow⟩ := Act.request.inj h
      exact .request r (congrFun hnow)
    | _ => cases h
  | _ =>
    -- These have no time of day.
    cases act'
    all_goals cases h
    all_goals exact .same _

end Act

/-- The steps that do not only observe. -/
def coreActs (acts : List Act) : List Act := acts.filter (!·.observes)

/-- What is seen of the steps that do not only observe. -/
def coreEntries (trace : List Entry) : List Entry := trace.filter (!·.act.observes)

/-- What is seen of steps that are the same but for dates. -/
structure Entry.Alike (e e' : Entry) : Prop where
  act : e.act.undated = e'.act.undated
  reply : e.reply.Alike e'.reply
  printed : e.printed.map (·.undated) = e'.printed.map (·.undated)

theorem coreActs_observer {act : Act} (h : act.observes = true) (acts : List Act) :
    coreActs (act :: acts) = coreActs acts :=
  List.filter_cons_of_neg (by simp [h])

theorem coreActs_core {act : Act} (h : act.observes = false) (acts : List Act) :
    coreActs (act :: acts) = act :: coreActs acts :=
  List.filter_cons_of_pos (by simp [h])

theorem coreEntries_observer {c : Collector} {act : Act} (h : act.observes = true)
    (acts : List Act) :
    coreEntries (c.run (act :: acts)).2 = coreEntries ((c.step act).1.run acts).2 :=
  List.filter_cons_of_neg (by simp [Collector.entry, h])

theorem coreEntries_core {c : Collector} {act : Act} (h : act.observes = false)
    (acts : List Act) :
    coreEntries (c.run (act :: acts)).2 =
      c.entry act :: coreEntries ((c.step act).1.run acts).2 :=
  List.filter_cons_of_pos (by simp [Collector.entry, h])

theorem map_act_coreEntries (trace : List Entry) :
    (coreEntries trace).map (·.act) = coreActs (trace.map (·.act)) := by
  rw [coreActs, List.filter_map]
  rfl

/-- Steps of two runs, one at a time where they observe, and else both at once. -/
inductive SameCore : List Act → List Act → Prop
  | nil : SameCore [] []
  | left {act : Act} {acts acts' : List Act} (ha : act.observes = true) (h : SameCore acts acts') :
    SameCore (act :: acts) acts'
  | right {act' : Act} {acts acts' : List Act} (ha' : act'.observes = true)
    (h : SameCore acts acts') : SameCore acts (act' :: acts')
  | both {act act' : Act} {acts acts' : List Act} (ha : act.observes = false)
    (ha' : act'.observes = false) (hact : act.undated = act'.undated) (h : SameCore acts acts') :
    SameCore (act :: acts) (act' :: acts')

theorem SameCore.of_undated {acts acts' : List Act}
    (h : (coreActs acts).map Act.undated = (coreActs acts').map Act.undated) :
    SameCore acts acts' := by
  induction acts generalizing acts' with
  | nil =>
    induction acts' with
    | nil => exact .nil
    | cons act' acts' ih' =>
      cases ha' : act'.observes with
      | true =>
        rw [coreActs_observer ha'] at h
        exact .right ha' (ih' h)
      | false =>
        rw [coreActs_core ha'] at h
        cases h
  | cons act acts ih =>
    cases ha : act.observes with
    | true =>
      rw [coreActs_observer ha] at h
      exact .left ha (ih h)
    | false =>
      -- The other run comes to this step too, once it has taken those that observe.
      induction acts' with
      | nil =>
        rw [coreActs_core ha] at h
        cases h
      | cons act' acts' ih' =>
        cases ha' : act'.observes with
        | true =>
          rw [coreActs_observer ha'] at h
          exact .right ha' (ih' h)
        | false =>
          rw [coreActs_core ha, coreActs_core ha'] at h
          obtain ⟨hact, hrest⟩ := List.cons.inj h
          exact .both ha ha' hact (ih hrest)

namespace Collector

variable {c c' : Collector}

/-! ## One step -/

/-- What two collectors that are alike make of a step. -/
structure StepAlike (c c' : Collector) (r r' : Collector × Reply × List Alert) : Prop where
  reply : r.2.1.Alike r'.2.1
  printed : r.2.2.map (·.undated) = r'.2.2.map (·.undated)
  abreast : Abreast c c' r.1 r'.1

section

variable (h : Alike c c')

include h

theorem step_ingest_alike (p : Packet) {now now' : Moment} (hnow : now.undated = now'.undated) :
    StepAlike c c' (c.step (.ingest p now)) (c'.step (.ingest p now')) := by
  have htaken := ingest_alike h p hnow
  simp only [step]
  generalize c.ingest p now = taken, c'.ingest p now' = taken' at htaken
  cases htaken with
  | error e => exact ⟨.same _, rfl, .stay h⟩
  | ok hkept halerts habreast => exact ⟨.kept hkept, halerts, habreast⟩

theorem step_ingestBatch_alike (b : Batch) {now now' : Nat → Moment}
    (hnow : ∀ i, (now i).undated = (now' i).undated) :
    StepAlike c c' (c.step (.ingestBatch b now)) (c'.step (.ingestBatch b now')) := by
  have htaken := ingestBatch_alike h b hnow
  simp only [step]
  generalize c.ingestBatch b now = taken, c'.ingestBatch b now' = taken' at htaken
  cases htaken with
  | error e => exact ⟨.same _, rfl, .stay h⟩
  | ok hcount halerts habreast =>
    subst hcount
    exact ⟨.same _, halerts, habreast⟩

theorem step_request_alike {r : Request} (hr : r.stream? = none) {now now' : Nat → Moment}
    (hnow : ∀ i, (now i).undated = (now' i).undated) :
    StepAlike c c' (c.step (.request r now)) (c'.step (.request r now')) := by
  have hserved := serve_alike h hnow hr
  exact ⟨.response hserved.response, hserved.alerts, hserved.abreast⟩

theorem step_found_alike {act : Act} {found found' : Except IngestError (List StoredPacket)}
    (hstep : c.step act = (c, .found found, [])) (hstep' : c'.step act = (c', .found found', []))
    (hf : Found found found') : StepAlike c c' (c.step act) (c'.step act) := by
  rw [hstep, hstep']
  cases hf with
  | error e => exact ⟨.same _, rfl, .stay h⟩
  | ok hsame => exact ⟨.found hsame, rfl, .stay h⟩

/-- A step that does not observe goes alike. -/
theorem step_alike {act act' : Act} (ha : act.observes = false)
    (hact : act.undated = act'.undated) : StepAlike c c' (c.step act) (c'.step act') := by
  cases Act.alike_of_undated hact with
  | ingest p hnow => exact step_ingest_alike h p hnow
  | ingestBatch b hnow => exact step_ingestBatch_alike h b hnow
  | request r hnow => exact step_request_alike h (Act.stream?_eq_none ha) hnow
  | same act =>
    cases act with
    | ingest p now => exact step_ingest_alike h p rfl
    | ingestBatch b now => exact step_ingestBatch_alike h b fun _ => rfl
    | request r now => exact step_request_alike h (Act.stream?_eq_none ha) fun _ => rfl
    | datagram data =>
      obtain ⟨houtcomes, habreast⟩ := routeLines_alike h (Envelope.ofDatagram data)
      refine ⟨?_, rfl, habreast⟩
      simp only [step, receiveDatagram, routeDatagram, houtcomes]
      exact .same _
    | relay topic payload =>
      rcases relay_alike h topic payload with ⟨hr, hr'⟩ | ⟨d, d', hr, hr', habreast⟩
      · simp only [step, hr, hr']
        exact ⟨.same _, rfl, .stay h⟩
      · simp only [step, hr, hr']
        exact ⟨.same _, rfl, habreast⟩
    | heartbeat a => exact ⟨.same _, rfl, heartbeat_alike h a⟩
    | latestByTimestamp limit =>
      exact step_found_alike h rfl rfl (latestByTimestamp_alike h limit)
    | latestById limit => exact step_found_alike h rfl rfl (latestById_alike h limit)
    | roster =>
      refine ⟨?_, rfl, .stay h⟩
      simp only [step, h.roster]
      exact .same _
    | _ => cases ha

end

/-- A step that does not observe takes and reads nothing, and nobody comes by it. -/
theorem plain_entry (c : Collector) {act : Act} (ha : act.observes = false) :
    (c.entry act).Plain := by
  cases act with
  | request r now =>
    have hserved : Served.Alike c c (serve c now r) (serve c now r) :=
      serve_alike (.refl c) (fun _ => rfl) (Act.stream?_eq_none ha)
    exact .response hserved.response.not_events
  | ingest p now =>
    simp only [entry, step]
    split <;> exact ⟨rfl, fun _ _ => rfl, rfl⟩
  | ingestBatch b now =>
    simp only [entry, step]
    split <;> exact ⟨rfl, fun _ _ => rfl, rfl⟩
  | relay topic payload =>
    simp only [entry, step]
    split <;> exact ⟨rfl, fun _ _ => rfl, rfl⟩
  | datagram _ | heartbeat _ | latestByTimestamp _ | latestById _ | roster =>
    exact ⟨rfl, fun _ _ => rfl, rfl⟩
  | _ => cases ha

/-- A step that observes changes no more than queues. -/
theorem observer_step (hn : c.Numbered) {act : Act} (ha : act.observes = true) :
    Hears c (c.entry act) [] (c.step act).1 ∧ (c.step act).1.core = c.core := by
  cases act with
  | subscribe ch => exact ⟨.subscribe hn (fun _ _ => rfl) rfl, rfl⟩
  | read ch id count => exact ⟨.read hn ch id count, rfl⟩
  | leave ch id => exact ⟨.leave hn ch id, rfl⟩
  | take count => exact ⟨.of_outbound hn (fun _ _ => rfl) rfl _, rfl⟩
  | close => exact ⟨.of_outbound hn (fun _ _ => rfl) rfl _, rfl⟩
  | stats => exact ⟨.of_emits hn ⟨rfl, fun _ _ => rfl, rfl⟩ (.nothing rfl rfl), rfl⟩
  | request r now =>
    obtain ⟨ch, hch⟩ := Option.isSome_iff_exists.1 ha
    rcases serve_stream hch c now with ⟨hm, hserved⟩ | ⟨hm, hserved⟩
    · simp only [entry, step, hserved]
      exact ⟨.subscribe hn (fun _ _ => rfl) (if_neg hm), rfl⟩
    · simp only [entry, step, hserved]
      exact ⟨.subscribeLeave hn (fun _ _ => rfl) (if_pos hm), rfl⟩
  | _ => cases ha

/-! ## Runs -/

/-- Those who listen hear what is put out over a run. -/
structure RunHears (c : Collector) (acts : List Act) (es : List Effect) : Prop where
  numbered : (c.run acts).1.Numbered
  heard : ∀ ch id q, (c.channels.hub ch).queue? id = some q →
    (∀ e ∈ (c.run acts).2, e.act ≠ .leave ch id) →
    ∃ q', ((c.run acts).1.channels.hub ch).queue? id = some q' ∧
      (c.run acts).2.flatMap (·.itemsFor ch id) ++ q' = q ++ publishedOn ch es

theorem RunHears.nil (hn : c.Numbered) : RunHears c [] [] :=
  ⟨hn, fun _ _ q hq _ => ⟨q, hq, (List.append_nil q).symm⟩⟩

theorem RunHears.cons {act : Act} {acts : List Act} {es es' : List Effect}
    (h : Hears c (c.entry act) es (c.step act).1) (h' : RunHears (c.step act).1 acts es') :
    RunHears c (act :: acts) (es ++ es') := by
  refine ⟨h'.numbered, ?_⟩
  intro ch id q hq hleave
  obtain ⟨q₁, hq₁, hread⟩ := h.heard ch id q hq (hleave _ List.mem_cons_self)
  obtain ⟨q₂, hq₂, hrest⟩ := h'.heard ch id q₁ hq₁ fun e he => hleave e (List.mem_cons_of_mem _ he)
  refine ⟨q₂, hq₂, ?_⟩
  rw [run, List.flatMap_cons, List.append_assoc, hrest, publishedOn_append, ← List.append_assoc,
    hread, List.append_assoc]

/-- Two runs that go alike. -/
structure RunsAlike (c c' : Collector) (acts acts' : List Act) : Prop where
  entries : List.Forall₂ Entry.Alike (coreEntries (c.run acts).2) (coreEntries (c'.run acts').2)
  alike : Alike (c.run acts).1 (c'.run acts').1
  heard : ∃ es es', RunHears c acts es ∧ RunHears c' acts' es' ∧
    es.map Effect.undated = es'.map Effect.undated

theorem runsAlike_of_sameCore {acts acts' : List Act} (hs : SameCore acts acts') (h : Alike c c')
    (hn : c.Numbered) (hn' : c'.Numbered) : RunsAlike c c' acts acts' := by
  induction hs generalizing c c' with
  | nil => exact ⟨.nil, h, [], [], .nil hn, .nil hn', rfl⟩
  | @left act acts acts' ha _ ih =>
    obtain ⟨hears, hcore⟩ := observer_step hn ha
    obtain ⟨hentries, halike, es, es', hr, hr', heq⟩ := ih (h.of_core hcore rfl) hears.numbered hn'
    refine ⟨?_, halike, es, es', .cons hears hr, hr', heq⟩
    rw [coreEntries_observer ha]
    exact hentries
  | @right act' acts acts' ha' _ ih =>
    obtain ⟨hears, hcore⟩ := observer_step hn' ha'
    obtain ⟨hentries, halike, es, es', hr, hr', heq⟩ := ih (h.of_core rfl hcore) hn hears.numbered
    refine ⟨?_, halike, es, es', hr, .cons hears hr', heq⟩
    rw [coreEntries_observer ha']
    exact hentries
  | @both act act' acts acts' ha ha' hact _ ih =>
    obtain ⟨hreply, hprinted, halike, es, es', he, he', heq⟩ := step_alike h ha hact
    have hears := Hears.of_emits hn (c.plain_entry ha) he
    have hears' := Hears.of_emits hn' (c'.plain_entry ha') he'
    obtain ⟨hentries, hfinal, fs, fs', hr, hr', hfeq⟩ := ih halike hears.numbered hears'.numbered
    refine ⟨?_, hfinal, es ++ fs, es' ++ fs', .cons hears hr, .cons hears' hr', ?_⟩
    · rw [coreEntries_core ha, coreEntries_core ha']
      exact .cons ⟨hact, hreply, hprinted⟩ hentries
    · rw [List.map_append, List.map_append, heq, hfeq]

/-! ## Runs of one setup -/

theorem map_act_run (c : Collector) (acts : List Act) : (c.run acts).2.map (·.act) = acts := by
  induction acts generalizing c with
  | nil => rfl
  | cons act acts ih =>
    rw [run, List.map_cons, ih]
    rfl

theorem length_coreEntries (c : Collector) (acts : List Act) :
    (coreEntries (c.run acts).2).length = (coreActs acts).length := by
  have hacts := congrArg List.length (map_act_coreEntries (c.run acts).2)
  rw [List.length_map, map_act_run] at hacts
  exact hacts

theorem coreActs_append_observer {act : Act} (ha : act.observes = true) (acts acts' : List Act) :
    coreActs (acts ++ act :: acts') = coreActs acts ++ coreActs acts' := by
  rw [coreActs, List.filter_append]
  exact congrArg (coreActs acts ++ ·) (coreActs_observer ha acts')

/-- Nobody comes but by a step that observes. -/
theorem observes_of_joined {act : Act} {ch : Channel} {id : Nat}
    (h : (c.entry act).joined? = some (ch, id)) : act.observes = true := by
  by_contra hobserves
  have hplain := c.plain_entry (Bool.eq_false_iff.2 hobserves)
  rw [hplain.joined] at h
  cases h

/-- Who asks for a stream comes to its channel. -/
theorem joined_of_stream (c : Collector) {r : Request} {ch : Channel} (now : Nat → Moment)
    (hm : r.method = "GET") (hr : r.stream? = some ch) :
    (c.entry (.request r now)).joined? = some (ch, (c.channels.hub ch).next) := by
  have hget : r.method ≠ "HEAD" := by
    rw [hm]
    decide
  rcases serve_stream hr c now with ⟨-, hserved⟩ | ⟨hhead, -⟩
  · simp only [entry, step, hserved]
    exact if_neg hget
  · exact absurd hhead hget

/-- Who comes at the same place gets the same. -/
theorem heard_alike (h : Alike c c') (hn : c.Numbered) (hn' : c'.Numbered) {act act' : Act}
    {acts acts' : List Act} (hs : SameCore acts acts') {ch : Channel} {id id' : Nat}
    (hj : (c.entry act).joined? = some (ch, id)) (hj' : (c'.entry act').joined? = some (ch, id'))
    (hleave : ∀ e ∈ ((c.step act).1.run acts).2, e.act ≠ .leave ch id)
    (hleave' : ∀ e ∈ ((c'.step act').1.run acts').2, e.act ≠ .leave ch id') :
    ∃ q q', (((c.step act).1.run acts).1.channels.hub ch).queue? id = some q ∧
      (((c'.step act').1.run acts').1.channels.hub ch).queue? id' = some q' ∧
      (((c.step act).1.run acts).2.flatMap (·.itemsFor ch id) ++ q).map ch.undate =
        (((c'.step act').1.run acts').2.flatMap (·.itemsFor ch id') ++ q').map ch.undate := by
  obtain ⟨hears, hcore⟩ := observer_step hn (observes_of_joined hj)
  obtain ⟨hears', hcore'⟩ := observer_step hn' (observes_of_joined hj')
  obtain ⟨-, -, es, es', hr, hr', heq⟩ :=
    runsAlike_of_sameCore hs (h.of_core hcore hcore') hears.numbered hears'.numbered
  obtain ⟨q, hq, hitems⟩ := hr.heard ch id [] (hears.joined ch id hj) hleave
  obtain ⟨q', hq', hitems'⟩ := hr'.heard ch id' [] (hears'.joined ch id' hj') hleave'
  refine ⟨q, q', hq, hq', ?_⟩
  rw [hitems, hitems', List.nil_append, List.nil_append, undated_publishedOn, undated_publishedOn,
    heq]

/-- **Observers have no part in it.** Take two runs of a collector, set up alike, in which all
steps that do not observe are the same in the same order, arrivals by the clock that measures
among them, while the time of day, and who observes, when and how, may differ in any way. Then
each step that does not observe gives back and prints the same in both, but for dates; store,
detector and roster end up the same, but for dates; and whoever comes to a channel at the same
place among these steps, and does not leave, has read or has waiting the same items in both, but
for their dates. -/
theorem run_observed (s : Setup) {acts acts' : List Act} {c c' : Collector}
    {trace trace' : List Entry}
    (hcore : (coreActs acts).map Act.undated = (coreActs acts').map Act.undated)
    (hrun : (new s).run acts = (c, trace)) (hrun' : (new s).run acts' = (c', trace')) :
    List.Forall₂ Entry.Alike (coreEntries trace) (coreEntries trace') ∧
    c.store.undated = c'.store.undated ∧ c.detector = c'.detector ∧ c.roster = c'.roster ∧
    ∀ ch before e later id before' e' later' id',
      trace = before ++ e :: later → trace' = before' ++ e' :: later' →
      e.joined? = some (ch, id) → e'.joined? = some (ch, id') →
      (coreEntries before).length = (coreEntries before').length →
      (∀ x ∈ later, x.act ≠ .leave ch id) → (∀ x ∈ later', x.act ≠ .leave ch id') →
      ∃ q q', (c.channels.hub ch).queue? id = some q ∧
        (c'.channels.hub ch).queue? id' = some q' ∧
        (later.flatMap (·.itemsFor ch id) ++ q).map ch.undate =
          (later'.flatMap (·.itemsFor ch id') ++ q').map ch.undate := by
  obtain ⟨rfl, rfl⟩ := Prod.ext_iff.1 hrun
  obtain ⟨rfl, rfl⟩ := Prod.ext_iff.1 hrun'
  have hn := Numbered.new s
  obtain ⟨hentries, halike, -⟩ := runsAlike_of_sameCore (.of_undated hcore) (.refl (new s)) hn hn
  refine ⟨hentries, halike.store, halike.detector, halike.roster, ?_⟩
  intro ch before e later id before' e' later' id' htrace htrace' hj hj' hplace hleave hleave'
  obtain ⟨acts₁, act, acts₂, rfl, rfl, rfl, rfl⟩ := run_split htrace
  obtain ⟨acts₁', act', acts₂', rfl, rfl, rfl, rfl⟩ := run_split htrace'
  rw [coreActs_append_observer (observes_of_joined hj),
    coreActs_append_observer (observes_of_joined hj'), List.map_append, List.map_append] at hcore
  rw [length_coreEntries, length_coreEntries] at hplace
  obtain ⟨hbefore, hlater⟩ :=
    List.append_inj hcore (by rw [List.length_map, List.length_map, hplace])
  obtain ⟨-, hthere, es, es', hr, hr', -⟩ :=
    runsAlike_of_sameCore (.of_undated hbefore) (.refl (new s)) hn hn
  rw [run_append, run_append]
  exact heard_alike hthere hr.numbered hr'.numbered (.of_undated hlater) hj hj' hleave hleave'

/-- One waits for a packet. In the other run nobody takes messages, someone has come and left before,
and the packet, received later in the day, has been read. -/
theorem run_observed_of_two :
    ∃ c trace c' trace',
      (new ⟨.memory (.new 0), ⟨1, 500, 10⟩, .standard, 1000, 100, .utc⟩).run
        [.subscribe .packets, .ingest (Sighting.of "a" (some 80) 0).packet.packet (.once ⟨0, 0⟩ 0)] =
          (c, trace) ∧
      (new ⟨.memory (.new 0), ⟨1, 500, 10⟩, .standard, 1000, 100, .utc⟩).run
        [.close, .subscribe .packets, .leave .packets 0, .subscribe .packets,
          .ingest (Sighting.of "a" (some 80) 0).packet.packet (.once ⟨5, 0⟩ 0), .read .packets 1 1] =
          (c', trace') ∧
      c.detector = c'.detector ∧
      ∃ q q', (c.channels.hub .packets).queue? 0 = some q ∧
        (c'.channels.hub .packets).queue? 1 = some q' ∧
        (trace.flatMap (·.itemsFor .packets 0) ++ q).map StoredPacket.undated =
          (trace'.flatMap (·.itemsFor .packets 1) ++ q').map StoredPacket.undated := by
  let s : Setup := ⟨.memory (.new 0), ⟨1, 500, 10⟩, .standard, 1000, 100, .utc⟩
  let p := (Sighting.of "a" (some 80) 0).packet.packet
  let soon : List Act := [.ingest p (.once ⟨0, 0⟩ 0)]
  let before : List Act := [.close, .subscribe .packets, .leave .packets 0]
  let late : List Act := [.ingest p (.once ⟨5, 0⟩ 0), .read .packets 1 1]
  let joined := (new s).step (.subscribe .packets)
  let joined' := ((new s).run before).1.step (.subscribe .packets)
  have hsoon : ∀ e ∈ (joined.1.run soon).2, e.act ≠ .leave .packets 0 := by
    simp [run, entry, soon]
  have hlate : ∀ e ∈ (joined'.1.run late).2, e.act ≠ .leave .packets 1 := by
    simp [run, entry, late]
  obtain ⟨-, -, hdetector, -, hheard⟩ :=
    @run_observed s (.subscribe .packets :: soon) (before ++ .subscribe .packets :: late) _ _ _ _
      rfl rfl rfl
  refine ⟨_, _, _, _, rfl, rfl, hdetector, ?_⟩
  exact hheard .packets [] _ (joined.1.run soon).2 0 ((new s).run before).2 _
    (joined'.1.run late).2 1 rfl rfl rfl rfl rfl hsoon hlate

end Collector

end PacketTelemetry
