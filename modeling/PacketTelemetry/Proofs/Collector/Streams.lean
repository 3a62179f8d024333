/-
Whoever opens the stream of a channel reads from it, in their order, the items
put on that channel from then on (`Collector.run_streamed`).

What a step puts out can be told from the collector before it, whoever listens
(`Collector.puts`): the packets that are kept and the alerts they raise, a
roster for each heartbeat, and analytics as they came. It is all a step puts
out (`Collector.step_puts`), and over a run it is heard by those who listen
(`Collector.run_puts`). That nothing gets lost or torn on the way from there to
the reader is a matter of the lines of the stream (`Http.streamTexts_eventStream`).
-/
import PacketTelemetry.Proofs.Collector.Incoming
import PacketTelemetry.Proofs.Http.EventStreams
import PacketTelemetry.Proofs.Live.Delivery

namespace PacketTelemetry

open Json Http Time

/-! ## What is put out -/

/-- The heartbeats others are told of: those that are reported directly. -/
def Act.toldOn : Act → List Effect
  | .request r _ => (heartbeatsIn r.incoming).map fun a => .sent (.heartbeat a)
  | _ => []

namespace Collector

/-- A packet that is taken in, as it is kept, if it is. -/
def keptPacket (c : Collector) (p : Packet) (now : Moment) : List Sighting :=
  match c.store.save now.wall p.normalize with
  | .ok (_, s) => [⟨s, now⟩]
  | .error _ => []

/-- The packets of a batch, as they are kept, if they are. -/
def keptBatch (c : Collector) (b : Batch) (now : Nat → Moment) : List Sighting :=
  match b.normalize with
  | none => []
  | some ps =>
    match c.store.saveAll (fun i => (now i).wall) ps with
    | .ok (_, kept) => sightings now kept
    | .error _ => []

/-- The packets that a step keeps. -/
def keeps (c : Collector) : Act → List Sighting
  | .ingest p now => c.keptPacket p now
  | .ingestBatch b now => c.keptBatch b now
  | .request r now =>
    match r.tidings? with
    | some (.packet p) => c.keptPacket p (now 0)
    | some (.batch b) => c.keptBatch b now
    | _ => []
  | _ => []

/-- What a step puts out. -/
def puts (c : Collector) (act : Act) : List Effect :=
  (c.detector.watched (c.keeps act)).flatMap effectsOf ++
    (c.roster.puts (act.incoming c.topics) ++ act.toldOn)

/-- What steps put out one after another. -/
def putsAll (c : Collector) : List Act → List Effect
  | [] => []
  | act :: acts => c.puts act ++ (c.step act).1.putsAll acts

/-! ## One step -/

theorem emits_ingest (c : Collector) (p : Packet) (now : Moment) :
    Emits c ((c.detector.watched (c.keptPacket p now)).flatMap effectsOf)
      (c.step (.ingest p now)).1 := by
  simp only [step, ingest, keptPacket]
  cases c.store.save now.wall p.normalize with
  | error e => exact .nothing rfl rfl
  | ok saved =>
    obtain ⟨store, kept⟩ := saved
    have hstored : Emits c [] { c with store } := .nothing rfl rfl
    have hspread := Emits.spreadAll { c with store } (fun _ => now) [kept]
    rw [spreadAll_singleton] at hspread
    exact hstored.trans hspread

theorem emits_ingestBatch (c : Collector) (b : Batch) (now : Nat → Moment) :
    Emits c ((c.detector.watched (c.keptBatch b now)).flatMap effectsOf)
      (c.step (.ingestBatch b now)).1 := by
  simp only [step, ingestBatch, keptBatch]
  cases b.normalize with
  | none => exact .nothing rfl rfl
  | some ps =>
    dsimp only
    cases c.store.saveAll (fun i => (now i).wall) ps with
    | error e => exact .nothing rfl rfl
    | ok saved =>
      obtain ⟨store, kept⟩ := saved
      have hstored : Emits c [] { c with store } := .nothing rfl rfl
      exact hstored.trans (.spreadAll _ _ _)

theorem tellPacket_collector (c : Collector) (now : Moment) (p : Packet) :
    (tellPacket c now p).collector = (c.step (.ingest p now)).1 := by
  simp only [tellPacket, step]
  cases c.ingest p now <;> rfl

theorem tellBatch_collector (c : Collector) (now : Nat → Moment) (b : Batch) :
    (tellBatch c now b).collector = (c.step (.ingestBatch b now)).1 := by
  simp only [tellBatch, step]
  cases c.ingestBatch b now <;> rfl

/-- A request puts out what it tells of. -/
theorem emits_request {c : Collector} {r : Request} {now : Nat → Moment} {served : Served}
    (hs : Serves c now r served) (hevents : ∀ ch id, served.response.content ≠ .events ch id) :
    Emits c (c.puts (.request r now)) served.collector := by
  simp only [puts, keeps, Act.incoming, Act.toldOn, Request.incoming]
  cases hs with
  | unchanged ht _ =>
    simp only [ht]
    exact .nothing rfl rfl
  | stream ht _ => exact absurd rfl (hevents _ _)
  | headOnly ht _ => exact absurd rfl (hevents _ _)
  | packet ht =>
    simp only [ht]
    rw [tellPacket_collector]
    exact (c.emits_ingest _ (now 0)).trans (.nothing rfl rfl)
  | batch ht =>
    simp only [ht]
    rw [tellBatch_collector]
    exact (c.emits_ingestBatch _ now).trans (.nothing rfl rfl)
  | @heartbeat a ht =>
    simp only [ht]
    exact (Emits.heartbeat c a).trans (.send _ (.heartbeat a))

/-- A step that does not observe puts out just that. -/
theorem step_puts (c : Collector) {act : Act} (ha : act.observes = false) :
    Emits c (c.puts act) (c.step act).1 := by
  cases act with
  | ingest p now => exact (c.emits_ingest p now).trans (.nothing rfl rfl)
  | ingestBatch b now => exact (c.emits_ingestBatch b now).trans (.nothing rfl rfl)
  | request r now =>
    have hserved : Served.Alike c c (serve c now r) (serve c now r) :=
      serve_alike (.refl c) (fun _ => rfl) (Act.stream?_eq_none ha)
    exact emits_request (serve_serves c now r) hserved.response.not_events
  | datagram data =>
    have hrouted := Admits.routeLines c (Envelope.ofDatagram data)
    exact hrouted.emits.trans (.nothing rfl rfl)
  | relay topic payload =>
    simp only [puts, step, relay, Act.incoming]
    cases c.topics.analyticsOf? topic with
    | none => exact .nothing rfl rfl
    | some a => exact .publish c (.analytics a) payload
  | heartbeat a => exact .heartbeat c a
  | latestByTimestamp _ | latestById _ | roster => exact .nothing rfl rfl
  | _ => cases ha

/-- A step that observes puts out nothing. -/
theorem puts_observer (c : Collector) {act : Act} (ha : act.observes = true) :
    c.puts act = [] := by
  cases act with
  | request r now =>
    have ht := Request.tidings?_of_stream ha
    simp only [puts, keeps, Act.incoming, Act.toldOn, Request.incoming, ht]
    rfl
  | subscribe _ | read _ _ _ | leave _ _ | take _ | close | stats => rfl
  | _ => cases ha

/-! ## Runs -/

/-- What is put out over a run is heard by those who listen. -/
theorem run_puts {c : Collector} (hn : c.Numbered) (acts : List Act) :
    RunHears c acts (c.putsAll acts) := by
  induction acts generalizing c with
  | nil => exact .nil hn
  | cons act acts ih =>
    have hears : Hears c (c.entry act) (c.puts act) (c.step act).1 := by
      cases ha : act.observes with
      | true =>
        rw [c.puts_observer ha]
        exact (observer_step hn ha).1
      | false => exact .of_emits hn (c.plain_entry ha) (c.step_puts ha)
    exact .cons hears (ih hears.numbered)

/-- Whoever comes and does not leave has read what is put out from then on, but for what waits. -/
theorem heard_puts {c : Collector} (hn : c.Numbered) {act : Act} {ch : Channel} {id : Nat}
    (hj : (c.entry act).joined? = some (ch, id)) {later : List Act} (hleave : .leave ch id ∉ later) :
    ∃ q, (((c.step act).1.run later).1.channels.hub ch).queue? id = some q ∧
      ((c.step act).1.run later).2.flatMap (·.itemsFor ch id) ++ q =
        publishedOn ch ((c.step act).1.putsAll later) := by
  obtain ⟨hears, -⟩ := observer_step hn (observes_of_joined hj)
  refine (run_puts hears.numbered later).heard ch id [] (hears.joined ch id hj) ?_
  intro e he hact
  have hmem := List.mem_map_of_mem (f := Entry.act) he
  rw [map_act_run, hact] at hmem
  exact hleave hmem

/-- **Event streams.** Whatever stands in an item, its JSON text has no character below U+0020, and
its event is one line of data and a blank line. From the events of any items, one after another,
their texts are read, each whole and in its place. So in every run of a hub the events of what a
subscriber has received and of what waits for it give the texts of the items published since it
came. Each channel has a path for its stream. Whoever asks for a stream comes to its channel,
whatever the collector has been through by then; and as long as it does not leave, the events of
what it has read and of what waits for it give the texts of all that was put on the channel
since. -/
theorem run_streamed (s : Setup) {before : List Act} {c : Collector}
    (hc : c = ((new s).run before).1) (z : Zone) (ch : Channel) :
    (∀ item, NoControl ((ch.form z).render item).toList ∧
      streamLines (event z ch item) = ["data: ".toList ++ ((ch.form z).render item).toList, []]) ∧
    (∀ items, streamTexts (eventStream z ch items) =
      items.map fun item => some ((ch.form z).render item)) ∧
    (∀ mark seen h id q, Hub.Run (.new mark) seen h → h.queue? id = some q →
      streamTexts (eventStream z ch (Hub.received id seen) ++ eventStream z ch q) =
        (Hub.publishedSince id seen).map fun item => some ((ch.form z).render item)) ∧
    (∀ r : Request, r.method = "GET" → r.path = streamPath ch → r.stream? = some ch) ∧
    ∀ (r : Request) now later, r.method = "GET" → r.stream? = some ch →
      ∃ c' id, c.step (.request r now) = (c', .response ⟨200, .events ch id⟩, []) ∧
        (.leave ch id ∉ later → ∃ q, ((c'.run later).1.channels.hub ch).queue? id = some q ∧
          streamTexts (eventStream z ch ((c'.run later).2.flatMap (·.itemsFor ch id)) ++
              eventStream z ch q) =
            (publishedOn ch (c'.putsAll later)).map fun item => some ((ch.form z).render item)) := by
  have hn : c.Numbered := by
    rw [hc]
    exact (run_puts (.new s) before).numbered
  have htexts : ∀ items items' : List ch.Item,
      streamTexts (eventStream z ch items ++ eventStream z ch items') =
        (items ++ items').map fun item => some ((ch.form z).render item) := by
    intro items items'
    rw [streamTexts_eventStream_append, streamTexts_eventStream, List.map_append]
  refine ⟨fun item => ⟨(ch.form z).noControl_render item, streamLines_event z item⟩,
    streamTexts_eventStream z, ?_, fun r => stream?_of_path, ?_⟩
  · intro mark seen h id q run hq
    rw [htexts, (Hub.Accounted.of_run run).items id q hq]
  · intro r now later hm hr
    have hjoined := c.joined_of_stream now hm hr
    have hstep : c.step (.request r now) = ((c.step (.request r now)).1,
        .response ⟨200, .events ch (c.channels.hub ch).next⟩, []) := by
      rcases serve_stream hr c now with ⟨-, hserved⟩ | ⟨hhead, -⟩
      · simp only [step, hserved]
        rfl
      · rw [hm] at hhead
        exact absurd hhead (by decide)
    refine ⟨_, _, hstep, fun hleave => ?_⟩
    obtain ⟨q, hq, hitems⟩ := heard_puts hn hjoined hleave
    exact ⟨q, hq, by rw [htexts, hitems]⟩

/-- A payload that looks like the end of an event and the beginning of another has been read, and
one whose only member has a carriage return for a name is waiting. -/
theorem run_streamed_of_two :
    ∃ c c' later q,
      c = ((new ⟨.memory (.new 0), .standard, .standard, 1000, 100, .utc⟩).run
        [.relay "netwatch.raw-packets" .null]).1 ∧
      c.step (.request ⟨"GET", "/api/v1/stream/rawPackets".toList, none, .ofString ""⟩
        fun _ => .once ⟨0, 0⟩ 0) = (c', .response ⟨200, .events (.analytics .rawPackets) 0⟩, []) ∧
      later = [.relay "netwatch.raw-packets" (.text "\n\ndata: "),
        .read (.analytics .rawPackets) 0 1,
        .relay "netwatch.raw-packets" (.object [("\r", .text "")])] ∧
      ((c'.run later).1.channels.hub (.analytics .rawPackets)).queue? 0 = some q ∧
      streamTexts (eventStream .utc (.analytics .rawPackets)
          ((c'.run later).2.flatMap (·.itemsFor (.analytics .rawPackets) 0)) ++
            eventStream .utc (.analytics .rawPackets) q) =
        [some "\"\\n\\ndata: \"", some "\x7b\"\\r\":\"\"\x7d"] := by
  let s : Setup := ⟨.memory (.new 0), .standard, .standard, 1000, 100, .utc⟩
  let asked : Request := ⟨"GET", "/api/v1/stream/rawPackets".toList, none, .ofString ""⟩
  let now : Nat → Moment := fun _ => .once ⟨0, 0⟩ 0
  let later : List Act := [.relay "netwatch.raw-packets" (.text "\n\ndata: "),
    .read (.analytics .rawPackets) 0 1,
    .relay "netwatch.raw-packets" (.object [("\r", .text "")])]
  let before : List Act := [.relay "netwatch.raw-packets" .null]
  let c : Collector := ((new s).run before).1
  obtain ⟨-, -, -, hpath, hstream⟩ := @run_streamed s before c rfl .utc (.analytics .rawPackets)
  obtain ⟨c', id, hstep, hread⟩ := hstream asked now later rfl (hpath asked rfl rfl)
  have hjoined : (c.entry (.request asked now)).joined? = some (.analytics .rawPackets, id) := by
    simp only [entry, hstep]
    rfl
  have hfirst : (c.entry (.request asked now)).joined? = some (.analytics .rawPackets, 0) := by
    decide +kernel
  obtain rfl : id = 0 := by simpa [hfirst] using hjoined.symm
  obtain ⟨q, hq, htexts⟩ := hread (by simp [later])
  refine ⟨c, c', later, q, rfl, hstep, rfl, hq, htexts.trans ?_⟩
  obtain rfl : (c.step (.request asked now)).1 = c' := congrArg Prod.fst hstep
  decide +kernel

end Collector

end PacketTelemetry
