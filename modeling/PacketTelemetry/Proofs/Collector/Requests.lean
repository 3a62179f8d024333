/-
What a request over HTTP comes to (`Http.Serves`): it changes nothing, or opens
a stream, or tells of something (`Http.Tidings`) that its body could be read
as. Whatever else there is to a request, its path and its media type, is
settled by then.
-/
import PacketTelemetry.Http.Service

namespace PacketTelemetry.Http

/-- What a collector can be told of. -/
inductive Tidings where
  | packet (p : Packet)
  | batch (b : Batch)
  | heartbeat (a : Agent)

/-- What a request tells of. -/
def Request.tidings? (r : Request) : Option Tidings :=
  if r.method = "POST" then
    match Resource.ofPath? r.path with
    | some .packets => (r.value Packet.form).toOption.map .packet
    | some .batch => (r.value Batch.form).toOption.map .batch
    | some .heartbeat => (r.value Agent.form).toOption.map .heartbeat
    | _ => none
  else none

/-- What comes of a request. -/
inductive Serves (c : Collector) (now : Nat → Moment) (r : Request) : Served → Prop
  | unchanged {response : Response} (ht : r.tidings? = none)
      (hc : ∀ ch id, response.content ≠ .events ch id) : Serves c now r (.unchanged c response)
  | stream {ch : Channel} (ht : r.tidings? = none) (hm : r.method ≠ "HEAD") :
      Serves c now r (.stream c ch)
  | headOnly {ch : Channel} (ht : r.tidings? = none) (hm : r.method = "HEAD") :
      Serves c now r (Served.headOnly (.stream c ch))
  | packet {p : Packet} (ht : r.tidings? = some (.packet p)) :
      Serves c now r (tellPacket c (now 0) p)
  | batch {b : Batch} (ht : r.tidings? = some (.batch b)) : Serves c now r (tellBatch c now b)
  | heartbeat {a : Agent} (ht : r.tidings? = some (.heartbeat a)) :
      Serves c now r (tellHeartbeat c a)

/-- Who asks is answered at once, or with a stream. -/
theorem ask_cases {c : Collector} {resource : Resource} {served : Served}
    (h : ask c resource = some served) :
    (∃ response, served = .unchanged c response ∧ ∀ ch id, response.content ≠ .events ch id) ∨
      ∃ ch, served = .stream c ch := by
  have hpackets : ∀ found, ∃ response, Served.packets c found = .unchanged c response ∧
      ∀ ch id, response.content ≠ .events ch id := by
    intro found
    cases found with
    | ok ps => exact ⟨_, rfl, fun _ _ h => by cases h⟩
    | error e => exact ⟨_, rfl, fun _ _ h => by cases h⟩
  have hbare : ∀ status ch id, (Response.bare status).content ≠ .events ch id := by
    intro status ch id h
    cases h
  cases resource with
  | packets =>
    cases h
    exact .inl (hpackets _)
  | latest count =>
    simp only [ask] at h
    split at h <;> cases h
    · exact .inl (hpackets _)
    · exact .inl ⟨_, rfl, hbare 400⟩
  | packetStream =>
    cases h
    exact .inr ⟨_, rfl⟩
  | agents =>
    cases h
    exact .inl ⟨_, rfl, fun _ _ h => by cases h⟩
  | stream channel =>
    simp only [ask] at h
    split at h
    · cases h
      exact .inl ⟨_, rfl, hbare 400⟩
    · split at h <;> cases h
      · exact .inr ⟨_, rfl⟩
      · exact .inl ⟨_, rfl, hbare 404⟩
  | batch => cases h
  | heartbeat => cases h

theorem Serves.telling {α : Type} {c : Collector} {now : Nat → Moment} {r : Request} {f : Json.Form α}
    {tell : α → Served} {tidings : α → Tidings}
    (ht : r.tidings? = (r.value f).toOption.map tidings)
    (htell : ∀ a, r.tidings? = some (tidings a) → Serves c now r (tell a)) :
    Serves c now r (telling c r f tell) := by
  unfold Http.telling
  split
  · next a h => exact htell a (by rw [ht, h]; rfl)
  · next status h => exact .unchanged (by rw [ht, h]; rfl) fun _ _ h => by cases h

/-- Every request comes to one of these. -/
theorem serve_serves (c : Collector) (now : Nat → Moment) (r : Request) :
    Serves c now r (serve c now r) := by
  have hrefused : ∀ status, r.tidings? = none → Serves c now r (.unchanged c (.bare status)) := by
    intro status ht
    exact .unchanged ht fun _ _ h => by cases h
  unfold serve
  split
  · next hpath => exact hrefused 404 (by simp [Request.tidings?, hpath])
  next resource hpath =>
  dsimp only
  split
  · next hm =>
    have ht : r.tidings? = none := by simp [Request.tidings?, hm]
    cases h : ask c resource with
    | none => exact hrefused 405 ht
    | some served =>
      rcases ask_cases h with ⟨response, rfl, hc⟩ | ⟨ch, rfl⟩
      · exact .unchanged ht hc
      · exact .stream ht (by rw [hm]; decide)
  · split
    · next hm =>
      have ht : r.tidings? = none := by simp [Request.tidings?, hm]
      cases h : ask c resource with
      | none => exact hrefused 405 ht
      | some served =>
        rcases ask_cases h with ⟨⟨status, content⟩, rfl, hc⟩ | ⟨ch, rfl⟩
        · cases content with
          | nothing => exact .unchanged ht hc
          | json text =>
            show Serves c now r (.unchanged c ⟨status, .json ""⟩)
            exact .unchanged ht fun _ _ h => by cases h
          | events ch id => exact absurd rfl (hc ch id)
        · exact .headOnly ht hm
    · split
      · next hm =>
        cases resource with
        | packets => exact .telling (by simp [Request.tidings?, hm, hpath]) fun _ ht => .packet ht
        | batch => exact .telling (by simp [Request.tidings?, hm, hpath]) fun _ ht => .batch ht
        | heartbeat =>
          exact .telling (by simp [Request.tidings?, hm, hpath]) fun _ ht => .heartbeat ht
        | _ => exact hrefused 405 (by simp [Request.tidings?, hm, hpath])
      · next hm => exact hrefused 405 (by simp [Request.tidings?, hm])

end PacketTelemetry.Http
