/-
The ledger of a run: the messages each of its steps tells, made out from what
is seen of them alone (`ledger`).

A packet that is taken in is told of under the next number, followed by the
alerts that a detector raises which has seen the packets before it, and only
those; a heartbeat that an agent reports directly is told of as it is. Nothing
else is told. The outbound queue, the listeners to packets and to alerts, and
what is printed are all held against that one ledger.

That there is no other source of messages is settled step by step
(`Collector.Account`): from the number of packets so far and the detector one
knows what a step tells, and what the next one finds.
-/
import PacketTelemetry.Proofs.Collector.Intake
import PacketTelemetry.Proofs.Collector.Run

namespace PacketTelemetry

open Json Http

/-! ## The ledger -/

/-- The moments a step counts with. -/
def Act.moment (i : Nat) : Act → Moment
  | .ingest _ now => now
  | .ingestBatch _ now => now i
  | .request _ now => now i
  | _ => default

/-- Whether it is said of packets that they were taken in. -/
def Reply.accepts : Reply → Bool
  | .kept (.ok _) => true
  | .counted (.ok _) => true
  | _ => false

namespace Entry

/-- What was told to the collector, and accepted. -/
def tidings? (e : Entry) : Option Tidings :=
  match e.act, e.reply with
  | .ingest p _, .kept (.ok _) => some (.packet p)
  | .ingestBatch b _, .counted (.ok _) => some (.batch b)
  | .request r _, .response answer => if answer.status < 400 then r.tidings? else none
  | _, _ => none

/-- The packets that were taken in, made fit, each with its moment. -/
def brought (e : Entry) : List (Packet × Moment) :=
  match e.tidings? with
  | some (.packet p) => [(p.normalize, e.act.moment 0)]
  | some (.batch b) => (b.normalize.getD []).mapIdx fun i p => (p, e.act.moment i)
  | _ => []

/-- The agent that reported in directly. -/
def heartbeat? (e : Entry) : Option Agent :=
  match e.tidings? with
  | some (.heartbeat a) => some a
  | _ => none

end Entry

/-- What a step tells after `n` packets, which have led to a detector. -/
def toldBy (n : Nat) (d : Detector) (e : Entry) : List Message :=
  (d.watched (keptAfter n e.brought)).flatMap messagesOf ++ e.heartbeat?.toList.map .heartbeat

/-- What each step of a run tells. -/
def ledger (n : Nat) (d : Detector) : List Entry → List (List Message)
  | [] => []
  | e :: rest =>
    toldBy n d e :: ledger (n + e.brought.length) (d.after (keptAfter n e.brought)) rest

theorem ledger_append (n : Nat) (d : Detector) (trace trace' : List Entry) :
    ledger n d (trace ++ trace') = ledger n d trace ++
      ledger (n + (trace.flatMap (·.brought)).length)
        (d.after (keptAfter n (trace.flatMap (·.brought)))) trace' := by
  induction trace generalizing n d with
  | nil => simp [ledger, keptAfter]
  | cons e trace ih =>
    simp only [List.cons_append, ledger, ih, List.flatMap_cons, List.length_append, keptAfter_append,
      Detector.after_append, Nat.add_assoc]

theorem length_ledger (n : Nat) (d : Detector) (trace : List Entry) :
    (ledger n d trace).length = trace.length := by
  induction trace generalizing n d with
  | nil => rfl
  | cons e trace ih => simp [ledger, ih]

/-- The packets told of are those that were watched. -/
theorem packetsIn_watched (ws : List (Sighting × List Alert)) :
    packetsIn (ws.flatMap messagesOf) = ws.map (·.1.packet) := by
  induction ws with
  | nil => rfl
  | cons w ws ih => simp [ih]

theorem alertsIn_watched (ws : List (Sighting × List Alert)) :
    alertsIn (ws.flatMap messagesOf) = ws.flatMap (·.2) := by
  induction ws with
  | nil => rfl
  | cons w ws ih => simp [ih]

theorem packetsIn_toldBy (n : Nat) (d : Detector) (e : Entry) :
    packetsIn (toldBy n d e) = (keptAfter n e.brought).map (·.packet) := by
  rw [toldBy, packetsIn_append, packetsIn_heartbeats, List.append_nil, packetsIn_watched]
  conv_rhs => rw [← d.watched_fst (keptAfter n e.brought)]
  rw [List.map_map]
  rfl

theorem alertsIn_toldBy (n : Nat) (d : Detector) (e : Entry) :
    alertsIn (toldBy n d e) = (d.watched (keptAfter n e.brought)).flatMap (·.2) := by
  rw [toldBy, alertsIn_append, alertsIn_heartbeats, List.append_nil, alertsIn_watched]

/-- All packets of the ledger, in order. -/
theorem packetsIn_ledger (n : Nat) (d : Detector) (trace : List Entry) :
    packetsIn (ledger n d trace).flatten =
      (keptAfter n (trace.flatMap (·.brought))).map (·.packet) := by
  induction trace generalizing n d with
  | nil => rfl
  | cons e trace ih =>
    rw [ledger, List.flatten_cons, packetsIn_append, packetsIn_toldBy, ih, List.flatMap_cons,
      keptAfter_append, List.map_append]

namespace Collector

/-! ## One step -/

/-- A step, and the books before it and after. -/
structure Account (c : Collector) (n : Nat) (d : Detector) (e : Entry) (c' : Collector) : Prop where
  follows : Follows c e (toldBy n d e) c'
  books : Kept c' (n + e.brought.length) (d.after (keptAfter n e.brought))
  printed : e.printed = alertsIn (toldBy n d e)
  one : ∀ s, e.reply = .kept (.ok s) → packetsIn (toldBy n d e) = [s]
  many : ∀ k, e.reply = .counted (.ok k) → (packetsIn (toldBy n d e)).length = k

namespace Account

variable {c c' : Collector} {n : Nat} {d : Detector} {e : Entry}

/-- A step at which no packets are taken in. -/
theorem of_no_packets (hb : e.brought = []) (hf : Follows c e (e.heartbeat?.toList.map .heartbeat) c')
    (hk : Kept c' n d) (hp : e.printed = []) (ha : e.reply.accepts = false) :
    Account c n d e c' := by
  have htold : toldBy n d e = e.heartbeat?.toList.map .heartbeat := by
    simp [toldBy, hb, keptAfter, Detector.watched]
  refine ⟨htold ▸ hf, ?_, ?_, ?_, ?_⟩
  · rw [hb]
    exact hk
  · rw [hp, htold, alertsIn_heartbeats]
  · intro s hs
    rw [hs] at ha
    cases ha
  · intro k hs
    rw [hs] at ha
    cases ha

/-- A step at which nothing is accepted that is told. -/
theorem quiet (ht : e.tidings? = none) (hf : Follows c e [] c') (hk : Kept c' n d)
    (hp : e.printed = []) (ha : e.reply.accepts = false) : Account c n d e c' := by
  have hheartbeat : e.heartbeat? = none := by simp [Entry.heartbeat?, ht]
  refine of_no_packets (by simp [Entry.brought, ht]) ?_ hk hp ha
  rw [hheartbeat]
  exact hf

/-- A step at which an agent reports in directly. -/
theorem beat {a : Agent} (ht : e.tidings? = some (.heartbeat a)) (hf : Follows c e [.heartbeat a] c')
    (hk : Kept c' n d) (hp : e.printed = []) (ha : e.reply.accepts = false) :
    Account c n d e c' := by
  have hheartbeat : e.heartbeat? = some a := by simp [Entry.heartbeat?, ht]
  refine of_no_packets (by simp [Entry.brought, ht]) ?_ hk hp ha
  rw [hheartbeat]
  exact hf

/-- A step at which packets are taken in. -/
theorem intake {ps : List (Packet × Moment)} {kept : List StoredPacket} (hn : c.Numbered)
    (hplain : e.Plain) (hb : e.brought = ps) (hh : e.heartbeat? = none)
    (ht : Takes c n d ps c' kept e.printed) (h₁ : ∀ s, e.reply = .kept (.ok s) → kept = [s])
    (hm : ∀ k, e.reply = .counted (.ok k) → kept.length = k) : Account c n d e c' := by
  subst hb
  have htold : toldBy n d e = (d.watched (keptAfter n e.brought)).flatMap messagesOf := by
    simp [toldBy, hh]
  have hkept : packetsIn (toldBy n d e) = kept := (packetsIn_toldBy n d e).trans ht.kept
  refine ⟨?_, ht.books, ?_, ?_, ?_⟩
  · rw [htold]
    exact .of_tells hn hplain ht.tells
  · rw [alertsIn_toldBy, ht.alerts]
  · intro s hs
    rw [hkept, h₁ s hs]
  · intro k hs
    rw [hkept, hm k hs]

end Account

section

variable {c : Collector} {n : Nat} {d : Detector} (hk : Kept c n d) (hn : c.Numbered)

include hk hn

theorem account_ingest (p : Packet) (now : Moment) :
    Account c n d (c.entry (.ingest p now)) (c.step (.ingest p now)).1 := by
  cases h : c.ingest p now with
  | error e =>
    simp only [entry, step, h]
    exact .quiet rfl (.of_tells hn ⟨rfl, fun _ _ => rfl, rfl⟩ (.refl c)) hk rfl rfl
  | ok r =>
    obtain ⟨c', s, alerts⟩ := r
    simp only [entry, step, h]
    refine .intake hn ⟨rfl, fun _ _ => rfl, rfl⟩ rfl rfl (.ingest hk h) ?_ ?_
    · intro s' hs
      cases hs
      rfl
    · intro k hs
      cases hs

theorem account_ingestBatch (b : Batch) (now : Nat → Moment) :
    Account c n d (c.entry (.ingestBatch b now)) (c.step (.ingestBatch b now)).1 := by
  cases h : c.ingestBatch b now with
  | error e =>
    simp only [entry, step, h]
    exact .quiet rfl (.of_tells hn ⟨rfl, fun _ _ => rfl, rfl⟩ (.refl c)) hk rfl rfl
  | ok r =>
    obtain ⟨c', k, alerts⟩ := r
    simp only [entry, step, h]
    obtain ⟨kept, hlength, ht⟩ := Takes.ingestBatch hk h
    refine .intake hn ⟨rfl, fun _ _ => rfl, rfl⟩ rfl rfl ht ?_ ?_
    · intro s hs
      cases hs
    · intro k' hs
      cases hs
      exact hlength

/-- A request comes to what is told, if it is accepted. -/
theorem account_request {r : Request} {now : Nat → Moment} {served : Served}
    (hs : Serves c now r served) :
    Account c n d ⟨.request r now, .response served.response, served.alerts⟩ served.collector := by
  have hrefused : ∀ e, Account c n d ⟨.request r now, .response (.ofError e), []⟩ c := by
    intro e
    refine .quiet ?_ (.of_tells hn ⟨rfl, fun _ _ => rfl, rfl⟩ (.refl c)) hk rfl rfl
    cases e <;> rfl
  cases hs with
  | @unchanged response ht hc =>
    exact .quiet (by simp [Entry.tidings?, ht, Served.unchanged])
      (.of_tells hn (.response hc) (.refl c)) hk rfl rfl
  | @stream ch ht hm =>
    exact .quiet (by simp [Entry.tidings?, ht])
      (.subscribe hn rfl (fun _ _ => rfl) (if_neg hm)) (hk.of_core rfl rfl) rfl rfl
  | @headOnly ch ht hm =>
    exact .quiet (by simp [Entry.tidings?, ht])
      (.subscribeLeave hn rfl (fun _ _ => rfl) (if_pos hm)) (hk.of_core rfl rfl) rfl rfl
  | @packet p ht =>
    unfold tellPacket
    split
    · next c' s alerts h =>
      have htidings : (Entry.mk (.request r now)
          (.response (.ofValue 200 ((StoredPacket.form c'.zone).write s))) alerts).tidings? =
          some (.packet p) := by simp [Entry.tidings?, ht, Response.ofValue]
      exact .intake hn ⟨rfl, fun _ _ => rfl, rfl⟩ (by simp [Entry.brought, htidings, Act.moment])
        (by simp [Entry.heartbeat?, htidings]) (.ingest hk h) (fun _ h => by cases h)
        fun _ h => by cases h
    · next e h => exact hrefused e
  | @batch b ht =>
    unfold tellBatch
    split
    · next c' k alerts h =>
      obtain ⟨kept, -, htakes⟩ := Takes.ingestBatch hk h
      have htidings : (Entry.mk (.request r now) (.response (.bare 202)) alerts).tidings? =
          some (.batch b) := by simp [Entry.tidings?, ht, Response.bare]
      exact .intake hn ⟨rfl, fun _ _ => rfl, rfl⟩ (by simp [Entry.brought, htidings, Act.moment])
        (by simp [Entry.heartbeat?, htidings]) htakes (fun _ h => by cases h) fun _ h => by cases h
    · next e h => exact hrefused e
  | @heartbeat a ht =>
    exact .beat (by simp [Entry.tidings?, ht, tellHeartbeat, Response.bare])
      (.of_tells hn ⟨rfl, fun _ _ => rfl, rfl⟩ (.directHeartbeat c a)) (hk.of_core rfl rfl) rfl rfl

/-- Every step has its account. -/
theorem account_step (act : Act) : Account c n d (c.entry act) (c.step act).1 := by
  have hquiet : ∀ {act : Act} {c' : Collector}, (c.entry act).tidings? = none →
      Follows c (c.entry act) [] c' → c'.store = c.store → c'.detector = c.detector →
      (c.entry act).printed = [] → (c.entry act).reply.accepts = false →
      Account c n d (c.entry act) c' := fun ht hf hs hd hp ha => .quiet ht hf (hk.of_core hs hd) hp ha
  cases act with
  | ingest p now => exact account_ingest hk hn p now
  | ingestBatch b now => exact account_ingestBatch hk hn b now
  | request r now => exact account_request hk hn (serve_serves c now r)
  | datagram data =>
    obtain ⟨htells, hstore, hdetector⟩ := routeLines_aside c (Envelope.ofDatagram data)
    exact hquiet rfl (.of_tells hn ⟨rfl, fun _ _ => rfl, rfl⟩ htells) hstore hdetector rfl rfl
  | relay topic payload =>
    cases h : c.relay topic payload with
    | none =>
      simp only [entry, step, h]
      exact .quiet rfl (.of_tells hn ⟨rfl, fun _ _ => rfl, rfl⟩ (.refl c)) hk rfl rfl
    | some c' =>
      simp only [entry, step, h]
      obtain ⟨a, -, rfl⟩ := Option.map_eq_some_iff.1 h
      exact .quiet rfl (.of_tells hn ⟨rfl, fun _ _ => rfl, rfl⟩ (.relay h)) (hk.of_core rfl rfl)
        rfl rfl
  | heartbeat a =>
    exact hquiet rfl (.of_tells hn ⟨rfl, fun _ _ => rfl, rfl⟩ (.roster c a)) rfl rfl rfl rfl
  | latestByTimestamp _ | latestById _ | roster | stats =>
    exact hquiet rfl (.of_tells hn ⟨rfl, fun _ _ => rfl, rfl⟩ (.refl c)) rfl rfl rfl rfl
  | subscribe ch => exact hquiet rfl (.subscribe hn rfl (fun _ _ => rfl) rfl) rfl rfl rfl rfl
  | read ch id count => exact hquiet rfl (.read hn ch id count) rfl rfl rfl rfl
  | leave ch id => exact hquiet rfl (.leave hn ch id) rfl rfl rfl rfl
  | take count => exact hquiet rfl (.take hn count) rfl rfl rfl rfl
  | close => exact hquiet rfl (.close hn) rfl rfl rfl rfl

/-! ## Runs -/

/-- The books after a run are those of the packets it brought. -/
theorem run_books (acts : List Act) :
    (c.run acts).1.Numbered ∧
      Kept (c.run acts).1 (n + ((c.run acts).2.flatMap (·.brought)).length)
        (d.after (keptAfter n ((c.run acts).2.flatMap (·.brought)))) := by
  induction acts generalizing c n d with
  | nil => exact ⟨hn, hk⟩
  | cons act acts ih =>
    have acc := account_step hk hn act
    obtain ⟨hnumbered, hbooks⟩ := ih acc.books acc.follows.numbered
    refine ⟨hnumbered, ?_⟩
    simp only [run, List.flatMap_cons, List.length_append, keptAfter_append, Detector.after_append]
    rw [← Nat.add_assoc]
    exact hbooks

theorem run_printed (acts : List Act) :
    (c.run acts).2.map (·.printed) = (ledger n d (c.run acts).2).map alertsIn := by
  induction acts generalizing c n d with
  | nil => rfl
  | cons act acts ih =>
    have acc := account_step hk hn act
    simp only [run, ledger, List.map_cons, acc.printed, ih acc.books acc.follows.numbered]

theorem run_answered (acts : List Act) :
    ∀ x ∈ (c.run acts).2.zip (ledger n d (c.run acts).2),
      (∀ s, x.1.reply = .kept (.ok s) → packetsIn x.2 = [s]) ∧
        ∀ k, x.1.reply = .counted (.ok k) → (packetsIn x.2).length = k := by
  induction acts generalizing c n d with
  | nil => simp [run]
  | cons act acts ih =>
    have acc := account_step hk hn act
    intro x hx
    simp only [run, ledger, List.zip_cons_cons, List.mem_cons] at hx
    rcases hx with rfl | hx
    · exact ⟨acc.one, acc.many⟩
    · exact ih acc.books acc.follows.numbered x hx

/-- As long as someone takes messages, they are in the queue or have been taken. -/
theorem run_queued (hopen : c.outbound.isOpen = true) {acts : List Act} (hclose : .close ∉ acts) :
    (c.run acts).2.flatMap (·.taken) ++ (c.run acts).1.outbound.queue =
      c.outbound.queue ++ (ledger n d (c.run acts).2).flatten := by
  induction acts generalizing c n d with
  | nil => simp [run, ledger]
  | cons act acts ih =>
    have acc := account_step hk hn act
    obtain ⟨hne, hclose⟩ := not_or.1 (List.mem_cons.not.1 hclose)
    obtain ⟨hopen', hqueue⟩ := acc.follows.queued hopen (Ne.symm hne)
    simp only [run, ledger, List.flatMap_cons, List.flatten_cons, List.append_assoc]
    rw [ih acc.books acc.follows.numbered hopen' hclose, ← List.append_assoc, hqueue,
      List.append_assoc]

/-- What someone who listens has not read waits in its queue. -/
theorem run_heard {ch : Channel} (hch : ch = .packets ∨ ch = .alerts) {id : Nat} {q : List ch.Item}
    (hq : (c.channels.hub ch).queue? id = some q) {acts : List Act}
    (hleave : ∀ e ∈ (c.run acts).2, e.act ≠ .leave ch id) :
    ∃ q', ((c.run acts).1.channels.hub ch).queue? id = some q' ∧
      (c.run acts).2.flatMap (·.itemsFor ch id) ++ q' =
        q ++ ((ledger n d (c.run acts).2).map (itemsIn ch)).flatten := by
  induction acts generalizing c n d q with
  | nil => exact ⟨q, hq, by simp [run, ledger]⟩
  | cons act acts ih =>
    have acc := account_step hk hn act
    obtain ⟨q₁, hq₁, hread⟩ := acc.follows.heard ch id q hch hq (hleave _ List.mem_cons_self)
    obtain ⟨q₂, hq₂, hrest⟩ := ih acc.books acc.follows.numbered hq₁
      fun e he => hleave e (List.mem_cons_of_mem _ he)
    refine ⟨q₂, hq₂, ?_⟩
    simp only [run, ledger, List.flatMap_cons, List.map_cons, List.flatten_cons, List.append_assoc]
    rw [hrest, ← List.append_assoc, hread, List.append_assoc]

theorem heard_run {ch : Channel} (hch : ch = .packets ∨ ch = .alerts) (acts : List Act) :
    Heard (c.run acts).1 (c.run acts).2 ch ((ledger n d (c.run acts).2).map (itemsIn ch)) := by
  intro before e later id htrace hjoined hleave
  obtain ⟨acts₁, act, acts₂, rfl, rfl, rfl, rfl⟩ := run_split htrace
  obtain ⟨hnumbered, hbooks⟩ := run_books hk hn acts₁
  have acc := account_step hbooks hnumbered act
  obtain ⟨q, hq, hread⟩ := run_heard acc.books acc.follows.numbered hch
    (acc.follows.joined ch id hjoined) hleave
  refine ⟨q, ?_, ?_⟩
  · rw [run_append]
    exact hq
  · have hdrop : ∀ l l' : List (List ch.Item), l.length = (c.run acts₁).2.length →
        ∀ a, (l ++ a :: l').drop ((c.run acts₁).2.length + 1) = l' := fun l l' hl a => by
      rw [← hl, List.drop_append, List.drop_eq_nil_of_le (Nat.le_succ _)]
      simp
    rw [hread, htrace, ledger_append, ledger, List.map_append, List.map_cons,
      hdrop _ _ (by rw [List.length_map, length_ledger])]
    rfl

end

/-- **The ledger.** In every run of a collector with a memory, whose messages are taken by someone,
the messages put into the outbound queue are those of the ledger: for each packet that was taken in
the packet and right after it the alerts the detector raises, the port watch first and at most one
of each kind; for each heartbeat that was accepted directly the heartbeat; and for all else
nothing. Those who listen to packets get the packets among them, those who listen to alerts the
alerts, which are also the ones printed. The packets are numbered from one on without a gap, and
they are what the detector has processed. -/
theorem run_ledger (s : Setup) (acts : List Act) {limit : Nat} {c : Collector} {trace : List Entry}
    {told : List (List Message)} {records : List Sighting}
    (hs : s.store = .memory (.new limit)) (hclose : .close ∉ acts)
    (hrun : (new s).run acts = (c, trace)) (htold : told = ledger 0 (.new s.limits) trace)
    (hrecords : records = keptAfter 0 (trace.flatMap (·.brought))) :
    trace.flatMap (·.taken) ++ c.outbound.queue = told.flatten ∧
    trace.map (·.printed) = told.map alertsIn ∧
    Heard c trace .packets (told.map packetsIn) ∧
    Heard c trace .alerts (told.map alertsIn) ∧
    packetsIn told.flatten = records.map (·.packet) ∧
    records.map (·.packet.id) = (List.range records.length).map (fun i => Int64.ofNat (i + 1)) ∧
    c.detector = (Detector.new s.limits).after records ∧
    (∀ w ∈ (Detector.new s.limits).watched records,
      (w.2.map (·.kind)).Sublist [.portScan, .trafficSpike]) ∧
    ∀ x ∈ trace.zip told, (∀ r, x.1.reply = .kept (.ok r) → packetsIn x.2 = [r]) ∧
      ∀ k, x.1.reply = .counted (.ok k) → (packetsIn x.2).length = k := by
  have hk := Kept.new hs
  have hn := Numbered.new s
  obtain ⟨rfl, rfl⟩ := Prod.ext_iff.1 hrun
  subst htold hrecords
  refine ⟨run_queued hk hn rfl hclose, run_printed hk hn acts, heard_run hk hn (.inl rfl) acts,
    heard_run hk hn (.inr rfl) acts, packetsIn_ledger _ _ _, ?_, ?_, ?_, run_answered hk hn acts⟩
  · rw [length_keptAfter]
    exact keptAfter_ids _
  · exact (run_books hk hn acts).2.detector
  · exact Detector.forall_watched
      (P := fun _ alerts => (alerts.map (·.kind)).Sublist [.portScan, .trafficSpike])
      (fun _ s _ => Detector.kinds_process s.packet s.now) _

/-- One port is enough for an alert: a packet comes in, an agent reports in by way of the broker, a
batch without packets is refused, and a message is taken. -/
theorem run_ledger_of_four :
    ∃ c trace,
      (new ⟨.memory (.new 0), ⟨1, 500, 10⟩, .standard, 1000, 100, .utc⟩).run
        [.ingest (Sighting.of "a" (some 80) 0).packet.packet (.once ⟨0, 0⟩ 0),
          .heartbeat ⟨"b", none, none, none, none⟩, .ingestBatch .blank fun _ => .once ⟨0, 0⟩ 0,
          .take 1] = (c, trace) ∧
      trace.flatMap (·.taken) ++ c.outbound.queue =
        [.packet ⟨1, ⟨0, 0⟩, (Sighting.of "a" (some 80) 0).packet.packet⟩,
          .alert (Detector.alert .portScan "a" ⟨0, 0⟩ 1)] := by
  refine ⟨_, _, rfl, ?_⟩
  obtain ⟨hsent, -⟩ := run_ledger ⟨.memory (.new 0), ⟨1, 500, 10⟩, .standard, 1000, 100, .utc⟩
    [.ingest (Sighting.of "a" (some 80) 0).packet.packet (.once ⟨0, 0⟩ 0),
      .heartbeat ⟨"b", none, none, none, none⟩, .ingestBatch .blank fun _ => .once ⟨0, 0⟩ 0, .take 1]
    rfl (by simp) rfl rfl rfl
  rw [hsent]
  decide +kernel

end Collector

end PacketTelemetry
