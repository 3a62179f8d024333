/-
Runs of a collector in its surroundings: what is reported to it and asked of
it, those who listen and those who take what waits to be sent, in any order
(`Act`, `Collector.step`, `Collector.run`), and what is seen of each step
(`Entry`).

Of a step that puts something out it is told what waits in the queue of anyone
who listens, with what was read from it, and that who has just come has nothing
waiting (`Collector.Hears`). Where messages are told, the same is said of what
waits in the outbound queue, with what was taken from it (`Collector.Follows`).
Each is told so that it adds up over a run.
-/
import PacketTelemetry.Proofs.Collector.Effects
import PacketTelemetry.Proofs.Collector.Requests

namespace PacketTelemetry

open Json

/-! ## Steps -/

/-- What can be done to a collector, or with it. -/
inductive Act where
  | ingest (p : Packet) (now : Moment)
  | ingestBatch (b : Batch) (now : Nat → Moment)
  | request (r : Http.Request) (now : Nat → Moment)
  | datagram (data : String)
  | relay (topic : String) (payload : Value)
  /-- An agent reports in, by way of the broker. -/
  | heartbeat (a : Agent)
  | latestByTimestamp (limit : Nat)
  | latestById (limit : Nat)
  | roster
  | stats
  | subscribe (ch : Channel)
  | read (ch : Channel) (id count : Nat)
  | leave (ch : Channel) (id : Nat)
  /-- Messages are taken from the outbound queue. -/
  | take (count : Nat)
  /-- Nobody takes messages any more. -/
  | close

/-- What is given back. -/
inductive Reply where
  | kept (r : Except IngestError StoredPacket)
  | counted (r : Except IngestError Nat)
  | response (r : Http.Response)
  | routed (rs : List Routed)
  | relayed (passed : Bool)
  | found (r : Except IngestError (List StoredPacket))
  | agents (as : List Agent)
  | stats (s : Collector.Stats)
  | joined (ch : Channel) (id : Nat)
  | items (ch : Channel) (id : Nat) (items : List ch.Item) (last : Option (Receipt ch.Item))
  | messages (ms : List Message)
  | done

/-- What is seen of a step, the alerts that are printed among it. -/
structure Entry where
  act : Act
  reply : Reply
  printed : List Alert

namespace Collector

/-- A step: the collector after it, what is given back, and the alerts that are printed. -/
def step (c : Collector) : Act → Collector × Reply × List Alert
  | .ingest p now =>
    match c.ingest p now with
    | .ok (c, s, alerts) => (c, .kept (.ok s), alerts)
    | .error e => (c, .kept (.error e), [])
  | .ingestBatch b now =>
    match c.ingestBatch b now with
    | .ok (c, n, alerts) => (c, .counted (.ok n), alerts)
    | .error e => (c, .counted (.error e), [])
  | .request r now =>
    let served := Http.serve c now r
    (served.collector, .response served.response, served.alerts)
  | .datagram data =>
    let (c, routed) := c.receiveDatagram data
    (c, .routed routed, [])
  | .relay topic payload =>
    match c.relay topic payload with
    | some c => (c, .relayed true, [])
    | none => (c, .relayed false, [])
  | .heartbeat a => (c.heartbeat a, .done, [])
  | .latestByTimestamp limit => (c, .found (c.latestByTimestamp limit), [])
  | .latestById limit => (c, .found (c.latestById limit), [])
  | .roster => (c, .agents c.roster.agents, [])
  | .stats => (c, .stats c.stats, [])
  | .subscribe ch =>
    let (channels, id) := c.channels.subscribe ch
    ({ c with channels }, .joined ch id, [])
  | .read ch id count =>
    let (channels, items, last) := c.channels.receive ch id count
    ({ c with channels }, .items ch id items last, [])
  | .leave ch id => ({ c with channels := c.channels.leave ch id }, .done, [])
  | .take count =>
    let (outbound, ms) := c.outbound.take count
    ({ c with outbound }, .messages ms, [])
  | .close => ({ c with outbound := .closed }, .done, [])

/-- What is seen of a step. -/
def entry (c : Collector) (act : Act) : Entry := ⟨act, (c.step act).2.1, (c.step act).2.2⟩

/-- Steps one after another. -/
def run (c : Collector) : List Act → Collector × List Entry
  | [] => (c, [])
  | act :: acts => (((c.step act).1.run acts).1, c.entry act :: ((c.step act).1.run acts).2)

theorem run_append (c : Collector) (acts acts' : List Act) :
    c.run (acts ++ acts') =
      (((c.run acts).1.run acts').1, (c.run acts).2 ++ ((c.run acts).1.run acts').2) := by
  induction acts generalizing c with
  | nil => rfl
  | cons act acts ih => simp only [List.cons_append, run, ih]

/-- A run up to an entry, and from there on. -/
theorem run_split {c : Collector} {acts : List Act} {before later : List Entry} {e : Entry}
    (h : (c.run acts).2 = before ++ e :: later) :
    ∃ acts₁ act acts₂, acts = acts₁ ++ act :: acts₂ ∧ (c.run acts₁).2 = before ∧
      (c.run acts₁).1.entry act = e ∧ (((c.run acts₁).1.step act).1.run acts₂).2 = later := by
  induction acts generalizing c before with
  | nil => simp [run] at h
  | cons act acts ih =>
    cases before with
    | nil =>
      obtain ⟨he, hlater⟩ := List.cons.inj h
      exact ⟨[], act, acts, rfl, rfl, he, hlater⟩
    | cons b before =>
      obtain ⟨hb, hrest⟩ := List.cons.inj h
      obtain ⟨acts₁, act', acts₂, rfl, hbefore, he, hlater⟩ := ih hrest
      exact ⟨act :: acts₁, act', acts₂, rfl, by rw [run, hb, hbefore], he, hlater⟩

end Collector

/-! ## What is seen of a step -/

namespace Entry

/-- The messages taken. -/
def taken (e : Entry) : List Message :=
  match e.reply with
  | .messages ms => ms
  | _ => []

/-- The items read by a subscriber. -/
def itemsFor (ch : Channel) (id : Nat) (e : Entry) : List ch.Item :=
  match e.reply with
  | .items ch' id' items _ => if h : ch' = ch ∧ id' = id then h.1 ▸ items else []
  | _ => []

/-- The subscriber who has come: directly, or by a request whose answer is read. -/
def joined? (e : Entry) : Option (Channel × Nat) :=
  match e.act, e.reply with
  | _, .joined ch id => some (ch, id)
  | .request r _, .response ⟨_, .events ch id⟩ => if r.method = "HEAD" then none else some (ch, id)
  | _, _ => none

/-- Nothing is taken or read, and nobody comes. -/
structure Plain (e : Entry) : Prop where
  taken : e.taken = []
  items : ∀ ch id, e.itemsFor ch id = []
  joined : e.joined? = none

/-- An answer that is not a stream brings nobody. -/
theorem Plain.response {r : Http.Request} {now : Nat → Moment} {response : Http.Response}
    {printed : List Alert} (h : ∀ ch id, response.content ≠ .events ch id) :
    Plain ⟨.request r now, .response response, printed⟩ := by
  refine ⟨rfl, fun _ _ => rfl, ?_⟩
  obtain ⟨status, content⟩ := response
  cases content with
  | nothing => rfl
  | json text => rfl
  | events ch id => exact absurd rfl (h ch id)

end Entry

/-- Whoever comes to a channel and does not leave has read, but for what waits in its queue, what
the steps after that put on the channel. -/
def Heard (c : Collector) (trace : List Entry) (ch : Channel) (items : List (List ch.Item)) : Prop :=
  ∀ before e later id, trace = before ++ e :: later → e.joined? = some (ch, id) →
    (∀ e' ∈ later, e'.act ≠ .leave ch id) →
    ∃ q, (c.channels.hub ch).queue? id = some q ∧
      later.flatMap (·.itemsFor ch id) ++ q = (items.drop (before.length + 1)).flatten

/-- What is put on the channels of packets and of alerts where messages are told. -/
def itemsIn : (ch : Channel) → List Message → List ch.Item
  | .packets, ms => packetsIn ms
  | .alerts, ms => alertsIn ms
  | _, _ => []

namespace Collector

/-- The numbers of every hub are in order. -/
def Numbered (c : Collector) : Prop := ∀ ch, (c.channels.hub ch).Numbered

theorem Numbered.new (s : Setup) : (Collector.new s).Numbered := by
  intro ch
  rcases ch with _ | _ | _ | a
  · exact .new _
  · exact .new _
  · exact .new _
  · cases a <;> exact .new _

theorem Numbered.setHub {c : Collector} (hn : c.Numbered) {ch : Channel} {h : Hub ch.Item}
    (hh : h.Numbered) : { c with channels := c.channels.setHub ch h }.Numbered :=
  Channels.forall_hub_setHub (P := fun _ h => h.Numbered) hh fun ch' _ => hn ch'

/-- Those who listen hear what a step puts out: it comes behind what waits in their queues, less
what they have read, and who has just come has nothing waiting. -/
structure Hears (c : Collector) (e : Entry) (es : List Effect) (c' : Collector) : Prop where
  numbered : c'.Numbered
  heard : ∀ ch id q, (c.channels.hub ch).queue? id = some q → e.act ≠ .leave ch id →
    ∃ q', (c'.channels.hub ch).queue? id = some q' ∧
      e.itemsFor ch id ++ q' = q ++ publishedOn ch es
  joined : ∀ ch id, e.joined? = some (ch, id) → (c'.channels.hub ch).queue? id = some []

namespace Hears

variable {c c' : Collector} {e : Entry} {es : List Effect}

/-- A step of the collector itself. -/
theorem of_emits (hn : c.Numbered) (hp : e.Plain) (he : Emits c es c') : Hears c e es c' := by
  refine ⟨?_, ?_, ?_⟩
  · intro ch
    rw [he.hub]
    exact (hn ch).publishAll _
  · intro ch id q hq _
    refine ⟨q ++ publishedOn ch es, ?_, ?_⟩
    · rw [he.hub, Hub.queue?_publishAll (hn ch), hq]
      rfl
    · rw [hp.items, List.nil_append]
  · intro ch id hid
    rw [hp.joined] at hid
    cases hid

/-- A step of those who listen on one channel. -/
theorem of_hub (hn : c.Numbered) {ch : Channel} {h : Hub ch.Item} (hh : h.Numbered)
    (hi : ∀ ch' ≠ ch, ∀ id, e.itemsFor ch' id = [])
    (hq : ∀ id q, (c.channels.hub ch).queue? id = some q → e.act ≠ .leave ch id →
      ∃ q', h.queue? id = some q' ∧ e.itemsFor ch id ++ q' = q)
    (hj : ∀ ch' id, e.joined? = some (ch', id) → ch' = ch ∧ h.queue? id = some []) :
    Hears c e [] { c with channels := c.channels.setHub ch h } := by
  refine ⟨hn.setHub hh, ?_, ?_⟩
  · intro ch' id q hq' ha
    rw [show publishedOn ch' [] = [] from rfl, List.append_nil]
    by_cases heq : ch' = ch
    · subst heq
      rw [c.channels.hub_setHub]
      exact hq id q hq' ha
    · rw [c.channels.hub_setHub_of_ne h heq]
      exact ⟨q, hq', by rw [hi ch' heq id, List.nil_append]⟩
  · intro ch' id hid
    obtain ⟨rfl, hempty⟩ := hj ch' id hid
    rw [c.channels.hub_setHub]
    exact hempty

/-- Someone comes to a channel. -/
theorem subscribe (hn : c.Numbered) {ch : Channel} (hi : ∀ ch id, e.itemsFor ch id = [])
    (hj : e.joined? = some (ch, (c.channels.hub ch).next)) :
    Hears c e [] { c with channels := (c.channels.subscribe ch).1 } := by
  refine of_hub (h := (c.channels.hub ch).subscribe.1) hn (hn ch).subscribe
    (fun ch' _ id => hi ch' id) ?_ ?_
  · intro id q hq _
    refine ⟨q, (Hub.queue?_subscribe_of_some (hn ch) hq).2, ?_⟩
    rw [hi, List.nil_append]
  · intro ch' id hid
    rw [hj] at hid
    cases hid
    exact ⟨rfl, by rw [Hub.queue?_subscribe (hn ch), if_pos rfl]⟩

/-- Someone comes to a channel and leaves at once. -/
theorem subscribeLeave (hn : c.Numbered) {ch : Channel} (hi : ∀ ch id, e.itemsFor ch id = [])
    (hj : e.joined? = none) :
    Hears c e [] { c with
      channels := (c.channels.subscribe ch).1.leave ch (c.channels.subscribe ch).2 } := by
  have hchannels : (c.channels.subscribe ch).1.leave ch (c.channels.subscribe ch).2 =
      c.channels.setHub ch ((c.channels.hub ch).subscribe.1.leave (c.channels.hub ch).next) := by
    simp [Channels.subscribe, Channels.leave, Hub.subscribe]
  rw [hchannels]
  refine of_hub hn ((hn ch).subscribe.leave _) (fun ch' _ id => hi ch' id) ?_ ?_
  · intro id q hq _
    obtain ⟨hne, hq'⟩ := Hub.queue?_subscribe_of_some (hn ch) hq
    refine ⟨q, ?_, ?_⟩
    · rw [Hub.queue?_leave, if_neg hne, hq']
    · rw [hi, List.nil_append]
  · intro ch' id hid
    rw [hj] at hid
    cases hid

/-- A subscriber of a channel reads. -/
theorem read (hn : c.Numbered) (ch : Channel) (id count : Nat) :
    Hears c (c.entry (.read ch id count)) [] (c.step (.read ch id count)).1 := by
  refine of_hub hn ((hn ch).receiveMany count id) ?_ ?_ ?_
  · intro ch' hne id'
    exact dif_neg fun h => hne h.1.symm
  · intro id' q hq _
    by_cases heq : id' = id
    · subst heq
      refine ⟨q.drop count, ?_, ?_⟩
      · rw [Hub.queue?_receiveMany, if_pos rfl, hq]
        rfl
      · have hitems : (c.entry (.read ch id' count)).itemsFor ch id' = q.take count := by
          simp only [entry, step, Channels.receive, Entry.itemsFor, and_self, dif_pos]
          exact congrArg (·.1) (Hub.receiveMany_found hq)
        rw [hitems, List.take_append_drop]
    · refine ⟨q, ?_, ?_⟩
      · rw [Hub.queue?_receiveMany, if_neg heq, hq]
      · have hitems : (c.entry (.read ch id count)).itemsFor ch id' = [] :=
          dif_neg fun h => heq h.2.symm
        rw [hitems, List.nil_append]
  · intro ch' id' hid
    cases hid

/-- A subscriber of a channel leaves. -/
theorem leave (hn : c.Numbered) (ch : Channel) (id : Nat) :
    Hears c (c.entry (.leave ch id)) [] (c.step (.leave ch id)).1 := by
  refine of_hub hn ((hn ch).leave id) (fun _ _ _ => rfl) ?_ ?_
  · intro id' q hq ha
    have hne : id' ≠ id := by
      intro h
      exact ha (by rw [h]; rfl)
    exact ⟨q, by rw [Hub.queue?_leave, if_neg hne, hq], rfl⟩
  · intro ch' id' hid
    cases hid

/-- A step of those who take what is to be sent is not heard of. -/
theorem of_outbound (hn : c.Numbered) (hi : ∀ ch id, e.itemsFor ch id = [])
    (hj : e.joined? = none) (outbound : Outbound) : Hears c e [] { c with outbound } := by
  refine ⟨hn, ?_, ?_⟩
  · intro ch id q hq _
    exact ⟨q, hq, by rw [hi, List.nil_append]; exact (List.append_nil q).symm⟩
  · intro ch id hid
    rw [hj] at hid
    cases hid

end Hears

/-- A collector follows another by a step at which messages are told. -/
structure Follows (c : Collector) (e : Entry) (ms : List Message) (c' : Collector) : Prop where
  queued : c.outbound.isOpen = true → e.act ≠ .close →
    c'.outbound.isOpen = true ∧ e.taken ++ c'.outbound.queue = c.outbound.queue ++ ms
  hears : ∃ es, Hears c e es c' ∧ Matches es ms

namespace Follows

variable {c c' : Collector} {e : Entry} {ms : List Message}

theorem numbered (h : Follows c e ms c') : c'.Numbered := by
  obtain ⟨es, hears, -⟩ := h.hears
  exact hears.numbered

theorem heard (h : Follows c e ms c') (ch : Channel) (id : Nat) (q : List ch.Item)
    (hch : ch = .packets ∨ ch = .alerts) (hq : (c.channels.hub ch).queue? id = some q)
    (ha : e.act ≠ .leave ch id) :
    ∃ q', (c'.channels.hub ch).queue? id = some q' ∧
      e.itemsFor ch id ++ q' = q ++ itemsIn ch ms := by
  obtain ⟨es, hears, hm⟩ := h.hears
  have hitems : publishedOn ch es = itemsIn ch ms := by
    rcases hch with rfl | rfl
    · exact hm.packets
    · exact hm.alerts
  rw [← hitems]
  exact hears.heard ch id q hq ha

theorem joined (h : Follows c e ms c') (ch : Channel) (id : Nat)
    (hid : e.joined? = some (ch, id)) : (c'.channels.hub ch).queue? id = some [] := by
  obtain ⟨es, hears, -⟩ := h.hears
  exact hears.joined ch id hid

/-- A step of the collector itself. -/
theorem of_tells (hn : c.Numbered) (hp : e.Plain) (h : Tells c ms c') : Follows c e ms c' := by
  obtain ⟨es, he, hm⟩ := h
  refine ⟨?_, es, .of_emits hn hp he, hm⟩
  intro hopen _
  rw [he.outbound, hm.sent, Outbound.sendAll_of_open hopen, hp.taken]
  exact ⟨rfl, rfl⟩

/-- A step of those who listen. -/
theorem of_hears (ht : e.taken = []) (ho : c'.outbound = c.outbound) (h : Hears c e [] c') :
    Follows c e [] c' := by
  refine ⟨fun hopen _ => ?_, [], h, .nil⟩
  rw [ho, ht, List.append_nil]
  exact ⟨hopen, rfl⟩

theorem subscribe (hn : c.Numbered) {ch : Channel} (ht : e.taken = [])
    (hi : ∀ ch id, e.itemsFor ch id = [])
    (hj : e.joined? = some (ch, (c.channels.hub ch).next)) :
    Follows c e [] { c with channels := (c.channels.subscribe ch).1 } :=
  of_hears ht rfl (.subscribe hn hi hj)

theorem subscribeLeave (hn : c.Numbered) {ch : Channel} (ht : e.taken = [])
    (hi : ∀ ch id, e.itemsFor ch id = []) (hj : e.joined? = none) :
    Follows c e [] { c with
      channels := (c.channels.subscribe ch).1.leave ch (c.channels.subscribe ch).2 } :=
  of_hears ht rfl (.subscribeLeave hn hi hj)

theorem read (hn : c.Numbered) (ch : Channel) (id count : Nat) :
    Follows c (c.entry (.read ch id count)) [] (c.step (.read ch id count)).1 :=
  of_hears rfl rfl (.read hn ch id count)

theorem leave (hn : c.Numbered) (ch : Channel) (id : Nat) :
    Follows c (c.entry (.leave ch id)) [] (c.step (.leave ch id)).1 :=
  of_hears rfl rfl (.leave hn ch id)

/-- Messages are taken out. -/
theorem take (hn : c.Numbered) (count : Nat) :
    Follows c (c.entry (.take count)) [] (c.step (.take count)).1 := by
  refine ⟨fun hopen _ => ⟨hopen, ?_⟩, [], .of_outbound hn (fun _ _ => rfl) rfl _, .nil⟩
  rw [List.append_nil]
  exact List.take_append_drop _ _

theorem close (hn : c.Numbered) : Follows c (c.entry .close) [] (c.step .close).1 :=
  ⟨fun _ h => absurd rfl h, [], .of_outbound hn (fun _ _ => rfl) rfl _, .nil⟩

end Follows

end Collector

end PacketTelemetry
