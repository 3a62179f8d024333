/-
What a hub knows of slow subscribers, told of every run: the count kept beside a
queue is its length, and the warnings given are the climbs to the mark
(`Hub.run_warnings`).

The count and the queue are changed apart, one item at a time: both go up when an
item is taken in, both go down when it is taken out, and where nobody is left to
take an item in the count goes up and down again. So the count never runs away
from the queue, and it never jumps over the mark. To compare it with the mark as
it goes up is then to see each climb once.
-/
import PacketTelemetry.Proofs.Live.Delivery

namespace PacketTelemetry

variable {α : Type}

/-! ## The count beside a queue -/

namespace Subscriber

/-- The count kept beside a queue is its length. -/
def Counted (s : Subscriber α) : Prop := s.backlog = s.queue.length

theorem Counted.new (id : Nat) : (Subscriber.new id : Subscriber α).Counted := rfl

/-- Where nobody is there to take an item nothing happens. -/
theorem send_of_gone {s : Subscriber α} (h : s.present = false) (a : α) : s.send a = (s, false) := by
  cases s
  simp_all [send]

theorem send_backlog (a : α) {s : Subscriber α} (h : s.present = true) :
    (s.send a).1.backlog = s.backlog + 1 := by
  simp [send, h]

theorem Counted.send {s : Subscriber α} (hs : s.Counted) (a : α) : (s.send a).1.Counted := by
  cases hp : s.present with
  | true =>
    rw [Counted, send_backlog a hp, send_queue a hp, hs, List.length_append, List.length_singleton]
  | false =>
    rw [send_of_gone hp]
    exact hs

/-- The count of an item that is taken has been counted up for it. -/
theorem Counted.take_backlog {s : Subscriber α} (hs : s.Counted) {a : α} (ha : s.take.2 = some a) :
    s.take.1.backlog + 1 = s.backlog := by
  unfold take at ha ⊢
  split
  · next hq => simp [hq] at ha
  · next b rest hq =>
    have hcount : s.backlog = (b :: rest).length := hq ▸ hs
    simp [hcount]

theorem Counted.take {s : Subscriber α} (hs : s.Counted) : s.take.1.Counted := by
  unfold Subscriber.take
  split
  · exact hs
  · next a rest hq =>
    have hcount : s.backlog = (a :: rest).length := hq ▸ hs
    simp [Counted, hcount]

end Subscriber

/-- A round warns of those who are there and lack one item to the mark. -/
theorem Round.reached_of (mark : Nat) (a : α) (l : List (Subscriber α)) :
    (Round.of mark a l).reached = ((l.filter (·.present)).filter fun s => s.backlog + 1 = mark).length := by
  induction l with
  | nil => rfl
  | cons s l ih =>
    simp only [Round.of, Subscriber.send_taken]
    split
    · next hp =>
      rw [List.filter_cons_of_pos hp, Subscriber.send_backlog a hp, ih]
      by_cases hmark : s.backlog + 1 = mark <;> simp [hmark]
    · next hp => rw [List.filter_cons_of_neg hp, ih]

namespace Hub

/-! ## Climbs -/

/-- How many items a subscriber has still to take of those published since it came. -/
def waiting (id : Nat) (trace : List (Event α)) : Nat :=
  (publishedSince id trace).length - (received id trace).length

/-- The subscribers, still there, whose queues an event takes from below the mark to the mark: none
unless something is published. -/
def reachedBy (mark : Nat) (before : List (Event α)) : Event α → List Nat
  | .published a n => (openIds before).filter fun id =>
      waiting id before < mark ∧ waiting id (before ++ [.published a n]) = mark
  | _ => []

/-- The climbs of a run: each is the place of a publication, and a subscriber whose queue it takes
from below the mark to the mark. -/
def climbs (mark : Nat) (trace : List (Event α)) : List (Nat × Nat) :=
  trace.zipIdx.flatMap fun e => (reachedBy mark (trace.take e.2) e.1).map fun id => (e.2, id)

theorem climbs_snoc (mark : Nat) (trace : List (Event α)) (e : Event α) :
    climbs mark (trace ++ [e]) =
      climbs mark trace ++ (reachedBy mark trace e).map fun id => (trace.length, id) := by
  unfold climbs
  rw [List.zipIdx_append, List.flatMap_append]
  congr 1
  · refine List.flatMap_congr fun p hp => ?_
    have hlt : p.2 < trace.length := List.snd_lt_of_mem_zipIdx hp
    rw [List.take_append_of_le_length (Nat.le_of_lt hlt)]
  · simp

theorem mem_climbs {mark k id : Nat} {events : List (Event α)} :
    (k, id) ∈ climbs mark events ↔
      ∃ e, events[k]? = some e ∧ id ∈ reachedBy mark (events.take k) e := by
  simp only [climbs, List.mem_flatMap, List.mem_map, Prod.mk.injEq, Prod.exists,
    List.mk_mem_zipIdx_iff_getElem?]
  constructor
  · rintro ⟨e, _, he, _, hid, rfl, rfl⟩
    exact ⟨e, he, hid⟩
  · rintro ⟨e, he, hid⟩
    exact ⟨e, k, he, id, hid, rfl, rfl⟩

/-- A beginning of a run is a run. -/
theorem Run.take {start h : Hub α} {trace : List (Event α)} (run : Run start trace h) (k : Nat) :
    ∃ h', Run start (trace.take k) h' := by
  induction run with
  | start => exact ⟨start, by rw [List.take_nil]; exact .start⟩
  | @step trace h h' e before hs ih =>
    by_cases hk : k ≤ trace.length
    · rw [List.take_append_of_le_length hk]
      exact ih
    · rw [List.take_of_length_le (by simp; omega)]
      exact ⟨h', .step before hs⟩

/-! ## What is waiting -/

/-- Nothing but a publication adds to what is waiting. -/
theorem waiting_quiet {trace : List (Event α)} {id : Nat} (hid : id ∈ joinedIds trace) {e : Event α}
    (he : published [e] = []) : waiting id (trace ++ [e]) ≤ waiting id trace := by
  have hsince : publishedSince id (trace ++ [e]) = publishedSince id trace := by
    rw [publishedSince_snoc, if_pos hid, he, List.append_nil]
  rw [waiting, waiting, hsince, received_append, List.length_append]
  omega

namespace Accounted

variable {trace : List (Event α)} {h : Hub α} {id : Nat}

/-- What is waiting for a subscriber is in its queue. -/
theorem length_queue (acc : Accounted trace h) {q : List α} (hq : h.queue? id = some q) :
    q.length = waiting id trace := by
  rw [waiting, ← acc.items id q hq, List.length_append, Nat.add_sub_cancel_left]

/-- A publication adds one item. -/
theorem waiting_published (acc : Accounted trace h) (hid : id ∈ openIds trace) (a : α) (n : Nat) :
    waiting id (trace ++ [.published a n]) = waiting id trace + 1 := by
  obtain ⟨q, hq⟩ := (acc.present id).2 hid
  have hsince : publishedSince id (trace ++ [.published a n]) =
      received id trace ++ (q ++ [a]) := by
    rw [publishedSince_snoc, if_pos (acc.joined hq), ← acc.items id q hq, List.append_assoc]
    rfl
  have hreceived : received id (trace ++ [.published a n]) = received id trace := by
    rw [received_append, received_singleton]
    exact List.append_nil _
  rw [waiting, hsince, hreceived, ← acc.length_queue hq, List.length_append,
    Nat.add_sub_cancel_left, List.length_append, List.length_singleton]

/-- A queue that goes from below the mark to the mark or above is at the mark then. -/
theorem mem_reachedBy (acc : Accounted trace h) {mark : Nat} {e : Event α} :
    id ∈ reachedBy mark trace e ↔ id ∈ openIds trace ∧ waiting id trace < mark ∧
      mark ≤ waiting id (trace ++ [e]) := by
  have hquiet : published [e] = [] → ¬ (id ∈ openIds trace ∧ waiting id trace < mark ∧
      mark ≤ waiting id (trace ++ [e])) := by
    rintro he ⟨hid, hbelow, hreached⟩
    have hle := waiting_quiet (mem_openIds.1 hid).1 he
    omega
  cases e with
  | published a n =>
    simp only [reachedBy, List.mem_filter, decide_eq_true_eq]
    refine and_congr_right fun hid => ?_
    rw [acc.waiting_published hid]
    omega
  | joined _ | received _ _ | polled _ _ | left _ | closed =>
    exact ⟨fun hmem => absurd hmem List.not_mem_nil, fun hrises => absurd hrises (hquiet rfl)⟩

end Accounted

theorem mem_climbs_iff {h : Hub α} {mark mark' k id : Nat} {trace : List (Event α)}
    (run : Run (.new mark') trace h) :
    (k, id) ∈ climbs mark trace ↔ k < trace.length ∧ id ∈ openIds (trace.take k) ∧
      waiting id (trace.take k) < mark ∧ mark ≤ waiting id (trace.take (k + 1)) := by
  obtain ⟨h', hbefore⟩ := run.take k
  rw [mem_climbs]
  constructor
  · rintro ⟨e, he, hid⟩
    rw [List.take_add_one, he]
    exact ⟨(List.getElem?_eq_some_iff.1 he).1, (Accounted.of_run hbefore).mem_reachedBy.1 hid⟩
  · rintro ⟨hk, hrises⟩
    rw [List.take_add_one, List.getElem?_eq_getElem hk] at hrises
    exact ⟨_, List.getElem?_eq_getElem hk, (Accounted.of_run hbefore).mem_reachedBy.2 hrises⟩

/-! ## The tally of a run -/

@[simp] theorem receive_mark (h : Hub α) (id : Nat) : (h.receive id).1.mark = h.mark := by
  unfold receive
  split
  · rfl
  · split <;> rfl

@[simp] theorem receive_warnings (h : Hub α) (id : Nat) :
    (h.receive id).1.warnings = h.warnings := by
  unfold receive
  split
  · rfl
  · split <;> rfl

/-- What is counted in a hub, and the warnings it has given. -/
structure Tallied (mark : Nat) (trace : List (Event α)) (h : Hub α) : Prop where
  marked : h.mark = mark
  counted : ∀ s ∈ h.subscribers, s.Counted
  warnings : h.warnings = (climbs mark trace).length
  distinct : (climbs mark trace).Nodup

namespace Tallied

variable {mark : Nat} {trace : List (Event α)} {h : Hub α}

theorem new (mark : Nat) : Tallied mark [] (Hub.new mark : Hub α) where
  marked := rfl
  counted := by simp [Hub.new]
  warnings := rfl
  distinct := List.nodup_nil

/-- An event that takes no queue to the mark. -/
theorem quiet (tally : Tallied mark trace h) {e : Event α} {h' : Hub α}
    (he : reachedBy mark trace e = []) (hmark : h'.mark = h.mark)
    (hwarnings : h'.warnings = h.warnings) (hcounted : ∀ s ∈ h'.subscribers, s.Counted) :
    Tallied mark (trace ++ [e]) h' := by
  have hclimbs : climbs mark (trace ++ [e]) = climbs mark trace := by
    rw [climbs_snoc, he, List.map_nil, List.append_nil]
  exact ⟨hmark.trans tally.marked, hcounted, by rw [hwarnings, tally.warnings, hclimbs],
    hclimbs ▸ tally.distinct⟩

theorem counted_update (tally : Tallied mark trace h) (id : Nat) {f : Subscriber α → Subscriber α}
    (hf : ∀ s, s.Counted → (f s).Counted) : ∀ s ∈ (h.update id f).subscribers, s.Counted := by
  intro t ht
  obtain ⟨s, hs, rfl⟩ := List.mem_map.1 ht
  split
  · exact hf s (tally.counted s hs)
  · exact tally.counted s hs

theorem counted_receive (tally : Tallied mark trace h) (id : Nat) :
    ∀ s ∈ (h.receive id).1.subscribers, s.Counted := by
  unfold receive
  split
  · exact tally.counted
  · split
    · exact tally.counted_update id fun _ => Subscriber.Counted.take
    · exact tally.counted

/-- Whoever is visited first, a publication warns of those whose queues it takes to the mark. -/
theorem length_reachedBy (tally : Tallied mark trace h) (acc : Accounted trace h) (a : α) (n : Nat) :
    (reachedBy mark trace (.published a n)).length =
      (h.listeners.filter fun s => s.backlog + 1 = mark).length := by
  have hreached := acc.listeners_ids.filter fun id =>
    waiting id trace < mark ∧ waiting id (trace ++ [.published a n]) = mark
  rw [List.filter_map] at hreached
  rw [reachedBy, ← hreached.length_eq, List.length_map]
  congr 1
  refine List.filter_congr fun s hs => ?_
  obtain ⟨hmem, hpresent⟩ := List.mem_filter.1 hs
  have hq : h.queue? s.id = some s.queue :=
    (queue?_eq_some_iff acc.numbered).2 ⟨s, hmem, rfl, hpresent, rfl⟩
  have hbacklog : s.backlog = waiting s.id trace := (tally.counted s hmem).trans (acc.length_queue hq)
  rw [Function.comp_apply, acc.waiting_published ((acc.present _).1 ⟨_, hq⟩), hbacklog]
  exact decide_eq_decide.2 ⟨fun h => h.2, fun h => ⟨by omega, h⟩⟩

theorem publish (tally : Tallied mark trace h) (acc : Accounted trace h)
    {order : List (Subscriber α)} (hp : order.Perm h.subscribers) (a : α) (n : Nat) :
    Tallied mark (trace ++ [.published a n]) ({ h with subscribers := order }.publish a).1 := by
  refine ⟨tally.marked, fun t ht => ?_, ?_, ?_⟩
  · rw [subscribers_publish (acc.numbered.perm hp)] at ht
    obtain ⟨s, hs, rfl⟩ := List.mem_map.1 ht
    exact (tally.counted s (hp.subset (List.mem_filter.1 hs).1)).send a
  · have hwarnings : ({ h with subscribers := order }.publish a).1.warnings =
        h.warnings + (Round.of h.mark a order).reached := rfl
    have hround := ((hp.filter (·.present)).filter fun s => s.backlog + 1 = mark).length_eq
    rw [hwarnings, tally.marked, Round.reached_of, hround, tally.warnings, climbs_snoc,
      List.length_append, List.length_map, tally.length_reachedBy acc]
    rfl
  · rw [climbs_snoc]
    refine List.nodup_append.2 ⟨tally.distinct, ?_, fun c hc d hd => ?_⟩
    · exact ((acc.once.filter _).filter _).map fun _ _ heq => (Prod.mk.inj heq).2
    · -- The earlier climbs are at earlier places.
      rintro rfl
      obtain ⟨e, he, -⟩ := mem_climbs.1 (show (c.1, c.2) ∈ climbs mark trace from hc)
      obtain ⟨_, -, rfl⟩ := List.mem_map.1 hd
      have hlt := (List.getElem?_eq_some_iff.1 he).1
      exact Nat.lt_irrefl _ hlt

theorem step (tally : Tallied mark trace h) (acc : Accounted trace h) {e : Event α} {h' : Hub α}
    (hs : Step h e h') : Tallied mark (trace ++ [e]) h' := by
  cases hs with
  | subscribe _ =>
    refine tally.quiet rfl rfl rfl fun s hs => ?_
    rcases List.mem_append.1 hs with hs | hs
    · exact tally.counted s hs
    · rw [List.mem_singleton.1 hs]
      exact .new _
  | publish _ hp => exact tally.publish acc hp _ _
  | receive => exact tally.quiet rfl (receive_mark _ _) (receive_warnings _ _) (tally.counted_receive _)
  | poll =>
    rw [poll_eq]
    exact tally.quiet rfl (receive_mark _ _) (receive_warnings _ _) (tally.counted_receive _)
  | leave _ => exact tally.quiet rfl rfl rfl (tally.counted_update _ fun _ hs => hs)
  | close => exact tally.quiet rfl rfl rfl tally.counted

theorem of_run (run : Run (.new mark) trace h) : Tallied mark trace h := by
  induction run with
  | start => exact .new mark
  | step before hs ih => exact ih.step (.of_run before) hs

end Tallied

/-! ## Warnings -/

/-- What comes from below the mark to the mark or above stays there from some last step on. -/
theorem last_below {w : Nat → Nat} {mark i j : Nat} (hij : i ≤ j) (hbelow : w i < mark)
    (habove : mark ≤ w j) :
    ∃ k, i ≤ k ∧ k < j ∧ w k < mark ∧ ∀ m, k < m → m ≤ j → mark ≤ w m := by
  induction hij with
  | refl => omega
  | @step j hij ih =>
    by_cases hj : w j < mark
    · refine ⟨j, hij, Nat.lt_succ_self j, hj, fun m hlow hhigh => ?_⟩
      obtain rfl : m = j + 1 := by omega
      exact habove
    · obtain ⟨k, hik, hkj, hk, hstays⟩ := ih (Nat.le_of_not_lt hj)
      refine ⟨k, hik, Nat.lt_succ_of_lt hkj, hk, fun m hlow hhigh => ?_⟩
      rcases Nat.lt_or_eq_of_le hhigh with hlt | rfl
      · exact hstays m hlow (Nat.le_of_lt_succ hlt)
      · exact habove

/-- Who has come and is there later has been there in between. -/
theorem mem_openIds_take {trace : List (Event α)} {id i j k : Nat} (hik : i ≤ k) (hkj : k ≤ j)
    (hi : id ∈ openIds (trace.take i)) (hj : id ∈ openIds (trace.take j)) :
    id ∈ openIds (trace.take k) := by
  rw [mem_openIds] at hi hj ⊢
  refine ⟨?_, fun hleft => hj.2 ?_⟩
  · exact ((List.take_prefix_take_left hik).filterMap _).subset hi.1
  · exact ((List.take_prefix_take_left hkj).filterMap _).subset hleft

/-- **Warnings.** In every run of a hub, whatever its mark and whoever is visited first, the count
kept beside a queue is its length: it is never counted down from nothing, and left alone where
nobody takes the item in. For those who are there that is what they have still to take. The hub has
given one warning for each publication and each subscriber, still there, whose queue it took from
below the mark to the mark. No queue comes from below the mark to the mark or above in another way.
So between two warnings about one subscriber its queue was below the mark, and however it came from
below the mark to where it is at or above it, one warning tells of that: after it the queue was not
below the mark again. -/
theorem run_warnings {mark : Nat} {trace : List (Event α)} {h : Hub α}
    (run : Run (.new mark) trace h) :
    (∀ s ∈ h.subscribers, s.backlog = s.queue.length ∧
      (∀ a, s.take.2 = some a → s.take.1.backlog + 1 = s.backlog) ∧
      (s.present = false → ∀ a, s.send a = (s, false))) ∧
    (∀ id ∈ openIds trace, ∃ s, h.find? id = some s ∧ s.queue.length = waiting id trace) ∧
    h.warnings = (climbs mark trace).length ∧ (climbs mark trace).Nodup ∧
    (∀ k id, (k, id) ∈ climbs mark trace ↔ k < trace.length ∧ id ∈ openIds (trace.take k) ∧
      waiting id (trace.take k) < mark ∧ mark ≤ waiting id (trace.take (k + 1))) ∧
    (∀ id k k', (k, id) ∈ climbs mark trace → (k', id) ∈ climbs mark trace → k < k' →
      ∃ j, k < j ∧ j ≤ k' ∧ waiting id (trace.take j) < mark) ∧
    ∀ id i j, i ≤ j → j ≤ trace.length → id ∈ openIds (trace.take i) →
      id ∈ openIds (trace.take j) → waiting id (trace.take i) < mark →
      mark ≤ waiting id (trace.take j) →
      ∃! k, i ≤ k ∧ k < j ∧ (k, id) ∈ climbs mark trace ∧
        ∀ m, k < m → m ≤ j → mark ≤ waiting id (trace.take m) := by
  have tally := Tallied.of_run run
  refine ⟨fun s hs => ⟨tally.counted s hs, fun a => (tally.counted s hs).take_backlog,
    fun hgone => Subscriber.send_of_gone hgone⟩, fun id hid => ?_, tally.warnings, tally.distinct,
    fun k id => mem_climbs_iff run, fun id k k' _ hk' hlt => ?_,
    fun id i j hij hj hi hopen hbelow habove => ?_⟩
  · obtain ⟨q, hq⟩ := ((Accounted.of_run run).present id).2 hid
    obtain ⟨s, hs, rfl⟩ := Option.map_eq_some_iff.1 hq
    exact ⟨s, hs, (Accounted.of_run run).length_queue hq⟩
  · exact ⟨k', hlt, Nat.le_refl _, ((mem_climbs_iff run).1 hk').2.2.1⟩
  · obtain ⟨k, hik, hkj, hk, hstays⟩ :=
      last_below (w := fun k => waiting id (trace.take k)) hij hbelow habove
    have hclimb : (k, id) ∈ climbs mark trace := (mem_climbs_iff run).2
      ⟨Nat.lt_of_lt_of_le hkj hj, mem_openIds_take hik (Nat.le_of_lt hkj) hi hopen, hk,
        hstays (k + 1) (Nat.lt_succ_self k) hkj⟩
    refine ⟨k, ⟨hik, hkj, hclimb, hstays⟩, ?_⟩
    rintro k' ⟨-, hkj', hclimb', hstays'⟩
    have hk' := ((mem_climbs_iff run).1 hclimb').2.2.1
    -- After the later of the two it stays, and before it it was below.
    rcases Nat.lt_trichotomy k k' with hlt | heq | hgt
    · exact absurd (hstays k' hlt (Nat.le_of_lt hkj')) (Nat.not_le.2 hk')
    · exact heq.symm
    · exact absurd (hstays' k hgt (Nat.le_of_lt hkj)) (Nat.not_le.2 hk)

/-- A mark of two, which a subscriber reaches twice: the third event takes it there, it takes an
item, and the fifth takes it there again. The sixth takes it above, and after it has left nothing
does. -/
theorem run_warnings_of_two :
    ∃ h : Hub Nat,
      Run (.new 2) [.joined 0, .published 5 1, .published 6 1, .received 0 (.item 5),
        .published 7 1, .published 8 1, .left 0, .published 9 0] h ∧
      climbs 2 [Event.joined 0, .published 5 1, .published 6 1, .received 0 (.item 5),
        .published 7 1, .published 8 1, .left 0, .published 9 0] = [(2, 0), (4, 0)] ∧
      h.warnings = 2 := by
  have h₁ : Run (.new 2) [Event.joined 0, .published 5 1, .published 6 1] _ :=
    .step (.step (.step .start (.subscribe rfl)) (.publish rfl (.refl _))) (.publish rfl (.refl _))
  have h₂ : Run (.new 2) [Event.joined 0, .published 5 1, .published 6 1, .received 0 (.item 5),
      .published 7 1, .published 8 1] _ :=
    .step (.step (.step h₁ .receive) (.publish rfl (.refl _))) (.publish rfl (.refl _))
  have run : Run (.new 2) [Event.joined 0, .published 5 1, .published 6 1, .received 0 (.item 5),
      .published 7 1, .published 8 1, .left 0, .published 9 0] _ :=
    .step (.step h₂ (.leave (by decide))) (.publish rfl (.refl _))
  obtain ⟨-, -, hwarnings, -⟩ := run_warnings run
  exact ⟨_, run, by decide, hwarnings.trans (by decide)⟩

end Hub

end PacketTelemetry
