/-
Two collectors side by side, alike in all that they have taken in but for its
dates (`Collector.Alike`). Who listens to the one and to the other, and what
waits to be sent, may differ in any way.

What is told to both, or asked of both, they take alike: they answer alike, are
alike after it, and have put out alike (`Collector.Abreast`). There is a lemma
of this kind for every operation, down to the requests over HTTP that open no
stream (`Http.serve_alike`).
-/
import PacketTelemetry.Proofs.Collector.Undated

namespace PacketTelemetry

open Json Time

theorem cases_of_map_eq {ε α β : Type} {f : α → β} {x y : Except ε α} (h : x.map f = y.map f) :
    (∃ e, x = .error e ∧ y = .error e) ∨ ∃ a b, x = .ok a ∧ y = .ok b ∧ f a = f b := by
  cases x with
  | error e =>
    cases y with
    | error e' =>
      obtain rfl : e = e' := Except.error.inj h
      exact .inl ⟨e, rfl, rfl⟩
    | ok b => cases h
  | ok a =>
    cases y with
    | error e' => cases h
    | ok b => exact .inr ⟨a, b, rfl, rfl, Except.ok.inj h⟩

/-! ## But for dates -/

/-- What is put out, but for its times. -/
def Effect.undated : Effect → Effect
  | .sent m => .sent m.undated
  | .published ch item => .published ch (ch.undate item)

theorem undated_effectsOf (w : Sighting × List Alert) :
    (effectsOf w).map Effect.undated =
      effectsOf (⟨w.1.packet.undated, w.1.now.undated⟩, w.2.map (·.undated)) := by
  simp only [effectsOf, List.map_cons, List.map_flatMap, List.flatMap_map, List.map_nil]
  rfl

theorem undated_publishedOn (ch : Channel) (es : List Effect) :
    (publishedOn ch es).map ch.undate = publishedOn ch (es.map Effect.undated) := by
  have hone : ∀ e : Effect,
      (publishedOn ch [e]).map ch.undate = publishedOn ch [e.undated] := by
    intro e
    cases e with
    | sent m => rfl
    | published ch' item =>
      by_cases heq : ch' = ch
      · subst heq
        rw [Effect.undated, publishedOn_self, publishedOn_self]
        rfl
      · rw [Effect.undated, publishedOn_other heq, publishedOn_other heq]
        rfl
  induction es with
  | nil => rfl
  | cons e es ih =>
    have hfirst := publishedOn_append ch [e] es
    have hfirst' := publishedOn_append ch [e.undated] (es.map Effect.undated)
    rw [List.singleton_append] at hfirst hfirst'
    rw [hfirst, List.map_cons, hfirst', List.map_append, hone, ih]

namespace Http

/-- Answers that are the same but for dates. None of them is a stream. -/
inductive Response.Alike : Response → Response → Prop
  | bare (status : Nat) : Alike (.bare status) (.bare status)
  | json (status : Nat) (text : String) : Alike ⟨status, .json text⟩ ⟨status, .json text⟩
  | packet (z : Zone) {s s' : StoredPacket} (h : s.undated = s'.undated) :
    Alike (.ofValue 200 ((StoredPacket.form z).write s))
      (.ofValue 200 ((StoredPacket.form z).write s'))
  | packets (z : Zone) {ss ss' : List StoredPacket}
    (h : ss.map StoredPacket.undated = ss'.map StoredPacket.undated) :
    Alike (.ofValue 200 ((StoredPacket.form z).list.write ss))
      (.ofValue 200 ((StoredPacket.form z).list.write ss'))

theorem Response.Alike.not_events {r r' : Response} (h : r.Alike r') (ch : Channel) (id : Nat) :
    r.content ≠ .events ch id := by
  intro hevents
  cases h <;> cases hevents

end Http

/-- What is given back, the same but for dates. -/
inductive Reply.Alike : Reply → Reply → Prop
  | same (r : Reply) : Alike r r
  | kept {s s' : StoredPacket} (h : s.undated = s'.undated) : Alike (.kept (.ok s)) (.kept (.ok s'))
  | found {ss ss' : List StoredPacket}
    (h : ss.map StoredPacket.undated = ss'.map StoredPacket.undated) :
    Alike (.found (.ok ss)) (.found (.ok ss'))
  | response {r r' : Http.Response} (h : r.Alike r') : Alike (.response r) (.response r')

namespace Collector

/-- Collectors that have taken in the same, but for its dates. -/
structure Alike (c c' : Collector) : Prop where
  store : c.store.undated = c'.store.undated
  detector : c.detector = c'.detector
  roster : c.roster = c'.roster
  topics : c.topics = c'.topics
  latestLimit : c.latestLimit = c'.latestLimit
  zone : c.zone = c'.zone

/-- Two collectors that are alike go on to two others, and put out alike on the way. -/
structure Abreast (c c' d d' : Collector) : Prop where
  alike : Alike d d'
  effects : ∃ es es', Emits c es d ∧ Emits c' es' d' ∧
    es.map Effect.undated = es'.map Effect.undated

theorem Alike.refl (c : Collector) : Alike c c := ⟨rfl, rfl, rfl, rfl, rfl, rfl⟩

/-- Only what has been taken in counts. -/
theorem Alike.of_core {c c' d d' : Collector} (h : Alike c c') (hd : d.core = c.core)
    (hd' : d'.core = c'.core) : Alike d d' := by
  simp only [core, Prod.mk.injEq] at hd hd'
  obtain ⟨hs, hdet, hr, ht, hl, hz⟩ := hd
  obtain ⟨hs', hdet', hr', ht', hl', hz'⟩ := hd'
  refine ⟨?_, ?_, ?_, ?_, ?_, ?_⟩
  · rw [hs, hs', h.store]
  · rw [hdet, hdet', h.detector]
  · rw [hr, hr', h.roster]
  · rw [ht, ht', h.topics]
  · rw [hl, hl', h.latestLimit]
  · rw [hz, hz', h.zone]

namespace Abreast

variable {c c' d d' e e' : Collector}

/-- Nothing is put out. -/
theorem of_silent (h : Alike d d') (ho : d.outbound = c.outbound) (hc : d.channels = c.channels)
    (ho' : d'.outbound = c'.outbound) (hc' : d'.channels = c'.channels) : Abreast c c' d d' :=
  ⟨h, [], [], .nothing ho hc, .nothing ho' hc', rfl⟩

theorem stay (h : Alike c c') : Abreast c c' c c' := of_silent h rfl rfl rfl rfl

theorem trans (h : Abreast c c' d d') (h' : Abreast d d' e e') : Abreast c c' e e' := by
  obtain ⟨es, es', he, he', heq⟩ := h.effects
  obtain ⟨fs, fs', hf, hf', hfeq⟩ := h'.effects
  refine ⟨h'.alike, es ++ fs, es' ++ fs', he.trans hf, he'.trans hf', ?_⟩
  rw [List.map_append, List.map_append, heq, hfeq]

end Abreast

/-! ## Packets -/

variable {c c' : Collector}

/-- A packet is processed alike, at whatever time of day. -/
theorem process_alike (d : Detector) {s s' : StoredPacket} (hs : s.undated = s'.undated)
    {now now' : Moment} (hnow : now.undated = now'.undated) :
    (d.process s now).1 = (d.process s' now').1 ∧
      (d.process s now).2.map (·.undated) = (d.process s' now').2.map (·.undated) := by
  have hprocess := d.process_undated s now
  rw [hs, hnow, d.process_undated s' now'] at hprocess
  obtain ⟨hdetector, halerts⟩ := Prod.ext_iff.1 hprocess
  exact ⟨hdetector.symm, halerts.symm⟩

theorem spread_alike (h : Alike c c') {s s' : StoredPacket} (hs : s.undated = s'.undated)
    {now now' : Moment} (hnow : now.undated = now'.undated) :
    Abreast c c' (c.spread s now).1 (c'.spread s' now').1 ∧
      (c.spread s now).2.map (·.undated) = (c'.spread s' now').2.map (·.undated) := by
  have hprocess := process_alike c'.detector hs hnow
  rw [← h.detector] at hprocess
  obtain ⟨hdetector, halerts⟩ := hprocess
  have hcore : Alike { c with detector := (c.detector.process s now).1 }
      { c' with detector := (c'.detector.process s' now').1 } :=
    ⟨h.store, by rw [hdetector, h.detector], h.roster, h.topics, h.latestLimit, h.zone⟩
  refine ⟨⟨hcore.of_core (c.spread_core s now) (c'.spread_core s' now'), _, _,
    .spread c s now, .spread c' s' now', ?_⟩, ?_⟩
  · rw [undated_effectsOf, undated_effectsOf]
    dsimp only
    rw [hs, hnow, halerts, h.detector]
  · rw [spread_alerts, spread_alerts, halerts, h.detector]

theorem spreadAll_alike (h : Alike c c') {ss ss' : List StoredPacket}
    (hs : ss.map StoredPacket.undated = ss'.map StoredPacket.undated) {now now' : Nat → Moment}
    (hnow : ∀ i, (now i).undated = (now' i).undated) :
    Abreast c c' (c.spreadAll now ss).1 (c'.spreadAll now' ss').1 ∧
      (c.spreadAll now ss).2.map (·.undated) = (c'.spreadAll now' ss').2.map (·.undated) := by
  induction ss generalizing c c' ss' now now' with
  | nil =>
    obtain rfl : ss' = [] := List.map_eq_nil_iff.1 hs.symm
    exact ⟨.stay h, rfl⟩
  | cons s ss ih =>
    obtain ⟨s', ss', rfl, hs', hss'⟩ := List.map_eq_cons_iff.1 hs.symm
    obtain ⟨hfirst, halerts⟩ := spread_alike h hs'.symm (hnow 0)
    obtain ⟨hrest, hmore⟩ := ih hfirst.alike hss'.symm fun i => hnow (i + 1)
    refine ⟨hfirst.trans hrest, ?_⟩
    simp only [spreadAll, List.map_append, halerts, hmore]

theorem store_abreast (h : Alike c c') {s s' : Store} (hs : s.undated = s'.undated) :
    Abreast c c' { c with store := s } { c' with store := s' } :=
  .of_silent ⟨hs, h.detector, h.roster, h.topics, h.latestLimit, h.zone⟩ rfl rfl rfl rfl

/-- What two collectors make of packets that both are told of: the same error, or results that are
alike. -/
inductive Taken (c c' : Collector) {α : Type} (like : α → α → Prop) :
    Except IngestError (Collector × α × List Alert) →
      Except IngestError (Collector × α × List Alert) → Prop
  | error (e : IngestError) : Taken c c' like (.error e) (.error e)
  | ok {d d' : Collector} {a a' : α} {alerts alerts' : List Alert} (ha : like a a')
    (halerts : alerts.map (·.undated) = alerts'.map (·.undated)) (h : Abreast c c' d d') :
    Taken c c' like (.ok (d, a, alerts)) (.ok (d', a', alerts'))

theorem ingest_alike (h : Alike c c') (p : Packet) {now now' : Moment}
    (hnow : now.undated = now'.undated) :
    Taken c c' (fun s s' => s.undated = s'.undated) (c.ingest p now) (c'.ingest p now') := by
  have hsaved := c.store.undated_save now.wall p.normalize
  rw [h.store, c'.store.undated_save now'.wall p.normalize] at hsaved
  unfold ingest
  rcases cases_of_map_eq hsaved with ⟨e, he', he⟩ | ⟨r', r, hr', hr, hsame⟩
  · rw [he, he']
    exact .error _
  · obtain ⟨hstore, hkept⟩ := Prod.ext_iff.1 hsame
    have hstored := store_abreast h hstore.symm
    obtain ⟨hspread, halerts⟩ := spread_alike hstored.alike hkept.symm hnow
    rw [hr, hr']
    exact .ok hkept.symm halerts (hstored.trans hspread)

theorem ingestBatch_alike (h : Alike c c') (b : Batch) {now now' : Nat → Moment}
    (hnow : ∀ i, (now i).undated = (now' i).undated) :
    Taken c c' Eq (c.ingestBatch b now) (c'.ingestBatch b now') := by
  unfold ingestBatch
  cases b.normalize with
  | none => exact .error _
  | some ps =>
    have hsaved := c.store.undated_saveAll (fun i => (now i).wall) ps
    rw [h.store, c'.store.undated_saveAll (fun i => (now' i).wall) ps] at hsaved
    dsimp only
    rcases cases_of_map_eq hsaved with ⟨e, he', he⟩ | ⟨r', r, hr', hr, hsame⟩
    · rw [he, he']
      exact .error _
    · obtain ⟨hstore, hkept⟩ := Prod.ext_iff.1 hsame
      have hstored := store_abreast h hstore.symm
      have hcount : r.2.length = r'.2.length := by
        have hlengths := congrArg List.length hkept
        rw [List.length_map, List.length_map] at hlengths
        exact hlengths.symm
      obtain ⟨hspread, halerts⟩ := spreadAll_alike hstored.alike hkept.symm hnow
      rw [hr, hr']
      exact .ok hcount halerts (hstored.trans hspread)

/-! ## Questions -/

/-- What two collectors find when both are asked: the same error, or packets that are the same but
for dates. -/
inductive Found : Except IngestError (List StoredPacket) →
    Except IngestError (List StoredPacket) → Prop
  | error (e : IngestError) : Found (.error e) (.error e)
  | ok {ss ss' : List StoredPacket}
    (h : ss.map StoredPacket.undated = ss'.map StoredPacket.undated) : Found (.ok ss) (.ok ss')

theorem Found.of_store {found found' : Except StoreError (List StoredPacket)}
    (h : found.map (List.map StoredPacket.undated) = found'.map (List.map StoredPacket.undated)) :
    Found (found.mapError .store) (found'.mapError .store) := by
  rcases cases_of_map_eq h with ⟨e, rfl, rfl⟩ | ⟨ss, ss', rfl, rfl, hsame⟩
  · exact .error _
  · exact .ok hsame

theorem latestByTimestamp_alike (h : Alike c c') (limit : Nat) :
    Found (c.latestByTimestamp limit) (c'.latestByTimestamp limit) := by
  have hfound := c.store.undated_latestByTimestamp limit
  rw [h.store, c'.store.undated_latestByTimestamp limit] at hfound
  exact .of_store hfound.symm

theorem latestById_alike (h : Alike c c') (limit : Nat) :
    Found (c.latestById limit) (c'.latestById limit) := by
  have hfound := c.store.undated_latestById limit
  rw [h.store, c'.store.undated_latestById limit] at hfound
  exact .of_store hfound.symm

/-! ## Heartbeats and datagrams -/

theorem publish_abreast (h : Alike c c') (ch : Channel) (item : ch.Item) :
    Abreast c c' (c.publish ch item) (c'.publish ch item) :=
  ⟨h.of_core rfl rfl, _, _, .publish c ch item, .publish c' ch item, rfl⟩

theorem send_abreast (h : Alike c c') (m : Message) : Abreast c c' (c.send m) (c'.send m) :=
  ⟨h.of_core rfl rfl, _, _, .send c m, .send c' m, rfl⟩

theorem heartbeat_alike (h : Alike c c') (a : Agent) :
    Abreast c c' (c.heartbeat a) (c'.heartbeat a) := by
  refine ⟨?_, _, _, .heartbeat c a, .heartbeat c' a, ?_⟩
  · exact ⟨h.store, h.detector, congrArg (·.report a) h.roster, h.topics, h.latestLimit, h.zone⟩
  · rw [h.roster]

theorem relay_alike (h : Alike c c') (topic : String) (payload : Value) :
    (c.relay topic payload = none ∧ c'.relay topic payload = none) ∨
      ∃ d d', c.relay topic payload = some d ∧ c'.relay topic payload = some d' ∧
        Abreast c c' d d' := by
  unfold relay
  rw [h.topics]
  cases c'.topics.analyticsOf? topic with
  | none => exact .inl ⟨rfl, rfl⟩
  | some a => exact .inr ⟨_, _, rfl, rfl, publish_abreast h (.analytics a) payload⟩

theorem routeLine_alike (h : Alike c c') (line : Except Fault Envelope) :
    (c.routeLine line).2 = (c'.routeLine line).2 ∧
      Abreast c c' (c.routeLine line).1 (c'.routeLine line).1 := by
  cases line with
  | error fault => exact ⟨rfl, .stay h⟩
  | ok e =>
    simp only [routeLine, route, h.topics]
    by_cases ht : e.topic = c'.topics.heartbeats
    · simp only [if_pos ht]
      cases Agent.form.take e.payload with
      | error mismatch => exact ⟨rfl, .stay h⟩
      | ok a => exact ⟨rfl, heartbeat_alike h a⟩
    · simp only [if_neg ht]
      cases c'.topics.analyticsOf? e.topic with
      | none => exact ⟨rfl, .stay h⟩
      | some a => exact ⟨rfl, publish_abreast h (.analytics a) e.payload⟩

theorem routeLines_alike (h : Alike c c') (lines : List (Except Fault Envelope)) :
    (c.routeLines lines).2 = (c'.routeLines lines).2 ∧
      Abreast c c' (c.routeLines lines).1 (c'.routeLines lines).1 := by
  induction lines generalizing c c' with
  | nil => exact ⟨rfl, .stay h⟩
  | cons line lines ih =>
    obtain ⟨houtcome, hfirst⟩ := routeLine_alike h line
    obtain ⟨houtcomes, hrest⟩ := ih hfirst.alike
    exact ⟨by simp only [routeLines, houtcome, houtcomes], hfirst.trans hrest⟩

end Collector

/-! ## Requests -/

namespace Http

/-- The channel whose stream a resource opens. -/
def Resource.stream? : Resource → Option Channel
  | .packetStream => some .packets
  | .stream channel => (Text.Utf8.strict (unescapeOctets channel)).bind streamChannel?
  | _ => none

/-- The channel whose stream a request opens, if only for a moment. -/
def Request.stream? (r : Request) : Option Channel :=
  if r.method = "GET" ∨ r.method = "HEAD" then (Resource.ofPath? r.path).bind (·.stream?) else none

/-- The path of the stream of a channel. -/
def streamPath : Channel → List Char
  | .packets => "/api/v1/packets/stream".toList
  | ch => ("/api/v1/stream/" ++ ch.name).toList

theorem stream?_of_path {r : Request} {ch : Channel} (hm : r.method = "GET")
    (hpath : r.path = streamPath ch) : r.stream? = some ch := by
  rw [Request.stream?, if_pos (.inl hm), hpath]
  rcases ch with _ | _ | _ | a
  · decide +kernel
  · decide +kernel
  · decide +kernel
  · cases a <;> decide +kernel

/-- Who asks for a stream comes to its channel, and leaves at once if no body is wanted. -/
theorem serve_stream {r : Request} {ch : Channel} (hr : r.stream? = some ch) (c : Collector)
    (now : Nat → Moment) :
    r.method ≠ "HEAD" ∧ serve c now r = .stream c ch ∨
      r.method = "HEAD" ∧ serve c now r = Served.headOnly (.stream c ch) := by
  have hask : ∀ {resource : Resource}, resource.stream? = some ch →
      ask c resource = some (.stream c ch) := by
    intro resource hresource
    cases resource with
    | packetStream =>
      cases hresource
      rfl
    | stream channel =>
      obtain ⟨name, hname, hchannel⟩ := Option.bind_eq_some_iff.1 hresource
      simp only [ask, hname, hchannel]
    | _ => cases hresource
  unfold Request.stream? at hr
  split at hr
  · next hm =>
    obtain ⟨resource, hpath, hresource⟩ := Option.bind_eq_some_iff.1 hr
    unfold serve
    rw [hpath]
    dsimp only
    rw [hask hresource]
    rcases hm with hm | hm
    · exact .inl ⟨by rw [hm]; decide, by rw [if_pos hm]; rfl⟩
    · exact .inr ⟨hm, by rw [if_neg (by rw [hm]; decide), if_pos hm]; rfl⟩
  · cases hr

/-- What two collectors that are alike make of a request. -/
structure Served.Alike (c c' : Collector) (s s' : Served) : Prop where
  response : s.response.Alike s'.response
  alerts : s.alerts.map (·.undated) = s'.alerts.map (·.undated)
  abreast : Collector.Abreast c c' s.collector s'.collector

section

variable {c c' : Collector} (h : Collector.Alike c c')

include h

theorem Served.Alike.unchanged {r r' : Response} (hr : r.Alike r') :
    Alike c c' (.unchanged c r) (.unchanged c' r') :=
  ⟨hr, rfl, .stay h⟩

theorem Served.Alike.packets {found found' : Except IngestError (List StoredPacket)}
    (hf : Collector.Found found found') : Alike c c' (.packets c found) (.packets c' found') := by
  cases hf with
  | error e => exact .unchanged h (.json _ _)
  | ok hsame =>
    unfold Served.packets
    rw [h.zone]
    exact .unchanged h (.packets c'.zone hsame)

/-- Who asks for anything but a stream is answered alike. -/
theorem ask_alike {resource : Resource} (hr : resource.stream? = none) :
    Option.Rel (Served.Alike c c') (ask c resource) (ask c' resource) := by
  cases resource with
  | packets =>
    refine .some (.packets h ?_)
    rw [h.latestLimit]
    exact Collector.latestByTimestamp_alike h c'.latestLimit
  | latest count =>
    refine .some ?_
    cases (Text.Utf8.strict (unescapeOctets count)).bind count? with
    | none => exact .unchanged h (.bare 400)
    | some n => exact .packets h (Collector.latestById_alike h n)
  | packetStream => cases hr
  | agents =>
    refine .some (.unchanged h ?_)
    rw [h.roster]
    exact .json _ _
  | stream channel =>
    simp only [ask]
    refine .some ?_
    cases hname : Text.Utf8.strict (unescapeOctets channel) with
    | none => exact .unchanged h (.bare 400)
    | some name =>
      have hchannel : streamChannel? name = none := by
        rw [Resource.stream?, hname] at hr
        exact hr
      simp only [hchannel]
      exact .unchanged h (.bare 404)
  | batch => exact .none
  | heartbeat => exact .none

omit h in
/-- Without their bodies, answers are still alike. -/
theorem Served.Alike.headOnly {s s' : Served} (hs : Alike c c' s s') :
    Alike c c' s.headOnly s'.headOnly := by
  obtain ⟨d, r, alerts⟩ := s
  obtain ⟨d', r', alerts'⟩ := s'
  obtain ⟨hresponse, halerts, habreast⟩ := hs
  cases hresponse with
  | bare status => exact ⟨.bare status, halerts, habreast⟩
  | json status text => exact ⟨.json status "", halerts, habreast⟩
  | packet _ _ => exact ⟨.json 200 "", halerts, habreast⟩
  | packets _ _ => exact ⟨.json 200 "", halerts, habreast⟩

theorem tellPacket_alike {now now' : Moment} (hnow : now.undated = now'.undated) (p : Packet) :
    Served.Alike c c' (tellPacket c now p) (tellPacket c' now' p) := by
  have htaken := Collector.ingest_alike h p hnow
  unfold tellPacket
  generalize c.ingest p now = taken, c'.ingest p now' = taken' at htaken
  cases htaken with
  | error e => exact .unchanged h (.json _ _)
  | @ok _ d' _ _ _ _ hkept halerts habreast =>
    dsimp only
    rw [habreast.alike.zone]
    exact ⟨.packet d'.zone hkept, halerts, habreast⟩

theorem tellBatch_alike {now now' : Nat → Moment}
    (hnow : ∀ i, (now i).undated = (now' i).undated) (b : Batch) :
    Served.Alike c c' (tellBatch c now b) (tellBatch c' now' b) := by
  have htaken := Collector.ingestBatch_alike h b hnow
  unfold tellBatch
  generalize c.ingestBatch b now = taken, c'.ingestBatch b now' = taken' at htaken
  cases htaken with
  | error e => exact .unchanged h (.json _ _)
  | ok _ halerts habreast => exact ⟨.bare 202, halerts, habreast⟩

theorem tellHeartbeat_alike (a : Agent) :
    Served.Alike c c' (tellHeartbeat c a) (tellHeartbeat c' a) := by
  have hbeat := Collector.heartbeat_alike h a
  exact ⟨.bare 200, rfl, hbeat.trans (Collector.send_abreast hbeat.alike (.heartbeat a))⟩

theorem telling_alike {α : Type} (r : Request) (f : Form α) {tell tell' : α → Served}
    (htell : ∀ a, Served.Alike c c' (tell a) (tell' a)) :
    Served.Alike c c' (telling c r f tell) (telling c' r f tell') := by
  unfold telling
  cases r.value f with
  | error status => exact .unchanged h (.bare status)
  | ok a => exact htell a

/-- Whoever tells of something is answered alike. -/
theorem tell_alike {now now' : Nat → Moment} (hnow : ∀ i, (now i).undated = (now' i).undated)
    (r : Request) (resource : Resource) :
    Option.Rel (Served.Alike c c') (tell c now r resource) (tell c' now' r resource) := by
  cases resource with
  | packets => exact .some (telling_alike h r _ (tellPacket_alike h (hnow 0)))
  | batch => exact .some (telling_alike h r _ (tellBatch_alike h hnow))
  | heartbeat => exact .some (telling_alike h r _ (tellHeartbeat_alike h))
  | _ => exact .none

/-- A request that opens no stream is answered alike. -/
theorem serve_alike {now now' : Nat → Moment} (hnow : ∀ i, (now i).undated = (now' i).undated)
    {r : Request} (hr : r.stream? = none) :
    Served.Alike c c' (serve c now r) (serve c' now' r) := by
  have hanswer : ∀ {s s' : Option Served}, Option.Rel (Served.Alike c c') s s' →
      Served.Alike c c' (s.getD (.unchanged c (.bare 405)))
        (s'.getD (.unchanged c' (.bare 405))) := by
    intro s s' hs
    cases hs with
    | none => exact .unchanged h (.bare 405)
    | some hs => exact hs
  unfold Request.stream? at hr
  unfold serve
  cases hpath : Resource.ofPath? r.path with
  | none => exact .unchanged h (.bare 404)
  | some resource =>
    rw [hpath] at hr
    dsimp only
    by_cases hget : r.method = "GET"
    · rw [if_pos (.inl hget)] at hr
      rw [if_pos hget, if_pos hget]
      exact hanswer (ask_alike h hr)
    rw [if_neg hget, if_neg hget]
    by_cases hhead : r.method = "HEAD"
    · rw [if_pos (.inr hhead)] at hr
      rw [if_pos hhead, if_pos hhead]
      have hasked := ask_alike h hr
      generalize ask c resource = asked, ask c' resource = asked' at hasked
      refine hanswer ?_
      cases hasked with
      | none => exact .none
      | some hs => exact .some hs.headOnly
    rw [if_neg hhead, if_neg hhead]
    by_cases hpost : r.method = "POST"
    · rw [if_pos hpost, if_pos hpost]
      exact hanswer (tell_alike h hnow r resource)
    · rw [if_neg hpost, if_neg hpost]
      exact .unchanged h (.bare 405)

end

end Http

end PacketTelemetry
