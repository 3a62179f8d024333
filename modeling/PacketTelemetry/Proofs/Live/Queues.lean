/-
The queues of a hub, number by number: what each operation does to the queue
one sees under a number (`Hub.queue?`), and to nobody else's.

A number stands for one subscriber at most (`Hub.Numbered`), which is what
lets a hub strike off by number those it found gone. Every operation keeps
that, and so does a change of the order in which subscribers are visited.
-/
import Mathlib.Data.List.Nodup
import PacketTelemetry.Live.Hub

namespace PacketTelemetry

variable {α : Type}

/-! ## One subscriber, one round -/

namespace Subscriber

@[simp] theorem send_taken (a : α) (s : Subscriber α) : (s.send a).2 = s.present := by
  unfold send
  cases s.present <;> simp

@[simp] theorem send_id (a : α) (s : Subscriber α) : (s.send a).1.id = s.id := by
  unfold send
  dsimp only
  split <;> rfl

@[simp] theorem send_present (a : α) (s : Subscriber α) : (s.send a).1.present = s.present := by
  unfold send
  dsimp only
  split <;> rfl

theorem send_queue (a : α) {s : Subscriber α} (h : s.present = true) :
    (s.send a).1.queue = s.queue ++ [a] := by
  simp [send, h]

@[simp] theorem take_id (s : Subscriber α) : s.take.1.id = s.id := by
  unfold take
  split <;> rfl

@[simp] theorem take_present (s : Subscriber α) : s.take.1.present = s.present := by
  unfold take
  split <;> rfl

@[simp] theorem take_queue (s : Subscriber α) : s.take.1.queue = s.queue.tail := by
  unfold take
  split <;> simp_all

@[simp] theorem take_item (s : Subscriber α) : s.take.2 = s.queue.head? := by
  unfold take
  split <;> simp_all

end Subscriber

namespace Round

theorem subscribers_of (mark : Nat) (a : α) (l : List (Subscriber α)) :
    (Round.of mark a l).subscribers = l.map fun s => (s.send a).1 := by
  induction l with
  | nil => rfl
  | cons s l ih => simp only [Round.of]; split <;> simp [ih]

theorem delivered_of (mark : Nat) (a : α) (l : List (Subscriber α)) :
    (Round.of mark a l).delivered = (l.filter (·.present)).length := by
  induction l with
  | nil => rfl
  | cons s l ih => simp only [Round.of, Subscriber.send_taken]; split <;> simp_all

theorem mem_gone_of {mark : Nat} {a : α} {l : List (Subscriber α)} {id : Nat} :
    id ∈ (Round.of mark a l).gone ↔ ∃ s ∈ l, s.id = id ∧ s.present = false := by
  induction l with
  | nil => simp [Round.of]
  | cons s l ih =>
    simp only [Round.of, Subscriber.send_taken]
    split
    · next hs => simp [ih, hs]
    · next hs =>
      rw [List.mem_cons, ih]
      simp [hs, eq_comm (a := id)]

end Round

/-! ## Numbers -/

/-- What a stream gives for what is found. -/
def Receipt.polled : Receipt α → Option (Option α)
  | .item a => some (some a)
  | .empty => none
  | .closed => some none

namespace Hub

/-- Numbers are distinct, and lower than the next one to be given. -/
structure Numbered (h : Hub α) : Prop where
  distinct : (h.subscribers.map (·.id)).Nodup
  below : ∀ s ∈ h.subscribers, s.id < h.next

/-- Two subscribers of one number are one. -/
theorem Numbered.unique {h : Hub α} (hn : h.Numbered) {s t : Subscriber α} (hs : s ∈ h.subscribers)
    (ht : t ∈ h.subscribers) (heq : s.id = t.id) : s = t :=
  List.inj_on_of_nodup_map hn.distinct hs ht heq

theorem Numbered.of_ids {h h' : Hub α} (hn : h.Numbered)
    (hids : (h'.subscribers.map (·.id)).Sublist (h.subscribers.map (·.id)))
    (hnext : h'.next = h.next) : h'.Numbered := by
  refine ⟨hn.distinct.sublist hids, fun s hs => ?_⟩
  have hmem : s.id ∈ h.subscribers.map (·.id) := hids.subset (List.mem_map_of_mem hs)
  obtain ⟨t, ht, hid⟩ := List.mem_map.1 hmem
  rw [hnext, ← hid]
  exact hn.below t ht

theorem Numbered.new (mark : Nat) : (Hub.new mark : Hub α).Numbered :=
  ⟨by simp [Hub.new], by simp [Hub.new]⟩

theorem Numbered.perm {h : Hub α} (hn : h.Numbered) {order : List (Subscriber α)}
    (hp : order.Perm h.subscribers) : { h with subscribers := order }.Numbered :=
  ⟨(hp.map _).nodup_iff.2 hn.distinct, fun s hs => hn.below s (hp.subset hs)⟩

theorem Numbered.subscribe {h : Hub α} (hn : h.Numbered) : h.subscribe.1.Numbered := by
  refine ⟨?_, fun s hs => ?_⟩
  · simp only [Hub.subscribe, List.map_append, List.map_singleton, Subscriber.new]
    refine List.nodup_append.2 ⟨hn.distinct, by simp, fun i hi j hj => ?_⟩
    obtain ⟨s, hs, rfl⟩ := List.mem_map.1 hi
    have := hn.below s hs
    simp only [List.mem_singleton] at hj
    omega
  · simp only [Hub.subscribe, List.mem_append, List.mem_singleton] at hs ⊢
    rcases hs with hs | rfl
    · exact Nat.lt_succ_of_lt (hn.below s hs)
    · exact Nat.lt_succ_self _

theorem Numbered.update {h : Hub α} (hn : h.Numbered) (id : Nat) {f : Subscriber α → Subscriber α}
    (hf : ∀ s, (f s).id = s.id) : (h.update id f).Numbered := by
  refine hn.of_ids ?_ rfl
  have hids : (h.update id f).subscribers.map (·.id) = h.subscribers.map (·.id) := by
    simp only [Hub.update, List.map_map]
    refine List.map_congr_left fun s _ => ?_
    simp only [Function.comp_apply]
    split
    · exact hf s
    · rfl
  rw [hids]

theorem Numbered.receive {h : Hub α} (hn : h.Numbered) (id : Nat) : (h.receive id).1.Numbered := by
  unfold Hub.receive
  split
  · exact hn
  · split
    · exact hn.update id fun s => s.take_id
    · exact hn

theorem Numbered.leave {h : Hub α} (hn : h.Numbered) (id : Nat) : (h.leave id).Numbered :=
  hn.update id fun _ => rfl

/-- After a round only those stand in a hub who took the item. -/
theorem subscribers_publish {h : Hub α} (hn : h.Numbered) (a : α) :
    (h.publish a).1.subscribers = h.listeners.map fun s => (s.send a).1 := by
  simp only [publish, Round.subscribers_of, listeners, List.filter_map]
  congr 1
  -- A number struck off is that of nobody else, so whoever is there stays.
  refine List.filter_congr fun s hs => ?_
  simp only [Function.comp_apply, Subscriber.send_id, Round.mem_gone_of]
  cases hp : s.present with
  | true =>
    simp only [decide_eq_true_eq, not_exists, not_and]
    intro t ht hid
    rw [hn.unique ht hs hid, hp]
    simp
  | false => simpa using ⟨s, hs, rfl, hp⟩

theorem Numbered.publish {h : Hub α} (hn : h.Numbered) (a : α) : (h.publish a).1.Numbered := by
  refine hn.of_ids ?_ rfl
  rw [subscribers_publish hn, List.map_map]
  have hids : h.listeners.map ((·.id) ∘ fun s => (s.send a).1) = h.listeners.map (·.id) :=
    List.map_congr_left fun s _ => s.send_id a
  rw [hids]
  exact List.filter_sublist.map _

/-! ## The queue under a number -/

/-- What is still to be taken by the subscriber of a number, as long as it is there. -/
def queue? (h : Hub α) (id : Nat) : Option (List α) := (h.find? id).map (·.queue)

theorem mem_of_find? {h : Hub α} {id : Nat} {s : Subscriber α} (hs : h.find? id = some s) :
    s ∈ h.subscribers ∧ s.id = id ∧ s.present = true := by
  have hmem := List.mem_filter.1 (List.mem_of_find?_eq_some hs)
  have hid := List.find?_some hs
  exact ⟨hmem.1, by simpa using hid, hmem.2⟩

theorem queue?_eq_some_iff {h : Hub α} (hn : h.Numbered) {id : Nat} {q : List α} :
    h.queue? id = some q ↔ ∃ s ∈ h.subscribers, s.id = id ∧ s.present = true ∧ s.queue = q := by
  simp only [queue?, Option.map_eq_some_iff]
  constructor
  · rintro ⟨s, hs, rfl⟩
    obtain ⟨hmem, hid, hp⟩ := mem_of_find? hs
    exact ⟨s, hmem, hid, hp, rfl⟩
  · rintro ⟨s, hs, rfl, hp, rfl⟩
    have hl : s ∈ h.listeners := List.mem_filter.2 ⟨hs, hp⟩
    obtain ⟨t, ht⟩ : ∃ t, h.find? s.id = some t :=
      Option.isSome_iff_exists.1 (List.find?_isSome.2 ⟨s, hl, by simp⟩)
    obtain ⟨hmem, hid, -⟩ := mem_of_find? ht
    exact ⟨t, ht, by rw [hn.unique hmem hs hid]⟩

/-- A number that has not been given stands for nobody. -/
theorem queue?_eq_none {h : Hub α} (hn : h.Numbered) {id : Nat} (hid : h.next ≤ id) :
    h.queue? id = none := by
  refine Option.eq_none_iff_forall_ne_some.2 fun q hq => ?_
  obtain ⟨s, hs, rfl, -⟩ := (queue?_eq_some_iff hn).1 hq
  exact absurd (hn.below s hs) (Nat.not_lt.2 hid)

@[simp] theorem queue?_new (mark id : Nat) : (new mark : Hub α).queue? id = none := rfl

/-- Whoever is visited first, the queues are what they are. -/
theorem queue?_perm {h : Hub α} (hn : h.Numbered) {order : List (Subscriber α)}
    (hp : order.Perm h.subscribers) (id : Nat) :
    { h with subscribers := order }.queue? id = h.queue? id := by
  ext q
  rw [queue?_eq_some_iff (hn.perm hp), queue?_eq_some_iff hn]
  simp only [hp.mem_iff]

theorem queue?_subscribe {h : Hub α} (hn : h.Numbered) (id : Nat) :
    h.subscribe.1.queue? id = if id = h.next then some [] else h.queue? id := by
  ext q
  rw [queue?_eq_some_iff hn.subscribe]
  simp only [subscribe, Subscriber.new, List.mem_append, List.mem_singleton, or_and_right,
    exists_or, exists_eq_left]
  rw [← queue?_eq_some_iff hn]
  split
  · next hid =>
    subst hid
    simp [queue?_eq_none hn (Nat.le_refl _)]
  · next hid => simp [Ne.symm hid]

/-- Who is there already is not the one who comes, and keeps its queue. -/
theorem queue?_subscribe_of_some {h : Hub α} (hn : h.Numbered) {id : Nat} {q : List α}
    (hq : h.queue? id = some q) : id ≠ h.next ∧ h.subscribe.1.queue? id = some q := by
  have hne : id ≠ h.next := by
    intro hid
    rw [queue?_eq_none hn (Nat.le_of_eq hid.symm)] at hq
    cases hq
  exact ⟨hne, by rw [queue?_subscribe hn, if_neg hne, hq]⟩

theorem queue?_publish {h : Hub α} (hn : h.Numbered) (a : α) (id : Nat) :
    (h.publish a).1.queue? id = (h.queue? id).map (· ++ [a]) := by
  ext q
  rw [queue?_eq_some_iff (hn.publish a), subscribers_publish hn]
  simp only [Option.map_eq_some_iff, queue?_eq_some_iff hn, List.mem_map, listeners, List.mem_filter]
  constructor
  · rintro ⟨_, ⟨s, ⟨hs, hp⟩, rfl⟩, hid, -, rfl⟩
    exact ⟨s.queue, ⟨s, hs, by simpa using hid, hp, rfl⟩, (s.send_queue a hp).symm⟩
  · rintro ⟨_, ⟨s, hs, hid, hp, rfl⟩, rfl⟩
    exact ⟨_, ⟨s, ⟨hs, hp⟩, rfl⟩, by simpa using hid, by simpa using hp, s.send_queue a hp⟩

/-- Items published one after another. -/
def publishAll (h : Hub α) (items : List α) : Hub α := items.foldl (fun h a => (h.publish a).1) h

@[simp] theorem publishAll_nil (h : Hub α) : h.publishAll [] = h := rfl

@[simp] theorem publishAll_append (h : Hub α) (items items' : List α) :
    h.publishAll (items ++ items') = (h.publishAll items).publishAll items' :=
  List.foldl_append

theorem publishAll_singleton (h : Hub α) (a : α) : h.publishAll [a] = (h.publish a).1 := rfl

theorem Numbered.publishAll {h : Hub α} (hn : h.Numbered) (items : List α) :
    (h.publishAll items).Numbered := by
  induction items generalizing h with
  | nil => exact hn
  | cons a items ih => exact ih (hn.publish a)

theorem queue?_publishAll {h : Hub α} (hn : h.Numbered) (items : List α) (id : Nat) :
    (h.publishAll items).queue? id = (h.queue? id).map (· ++ items) := by
  induction items generalizing h with
  | nil => simp
  | cons a items ih =>
    have hcons : h.publishAll (a :: items) = (h.publish a).1.publishAll items := rfl
    rw [hcons, ih (hn.publish a), queue?_publish hn, Option.map_map]
    congr 1
    funext q
    simp

theorem find?_update (h : Hub α) (id id' : Nat) {f : Subscriber α → Subscriber α}
    (hid : ∀ s, (f s).id = s.id) (hp : ∀ s, (f s).present = s.present) :
    (h.update id f).find? id' = if id' = id then (h.find? id).map f else h.find? id' := by
  have hpred : ((fun s : Subscriber α => decide (s.present = true ∧ decide (s.id = id') = true)) ∘
      fun s => if s.id = id then f s else s) =
        fun s => decide (s.present = true ∧ decide (s.id = id') = true) := by
    funext s
    simp only [Function.comp_apply]
    split
    · rw [hid, hp]
    · rfl
  have hfind : (h.update id f).find? id' =
      (h.find? id').map fun s => if s.id = id then f s else s := by
    simp only [find?, listeners, update, List.find?_filter, List.find?_map, hpred]
  rw [hfind]
  split
  · next heq =>
    subst heq
    refine Option.map_congr fun s hs => ?_
    rw [if_pos (mem_of_find? hs).2.1]
  · next hne =>
    cases hs : h.find? id' with
    | none => rfl
    | some s => rw [Option.map_some, if_neg (by rw [(mem_of_find? hs).2.1]; exact hne)]

theorem queue?_receive (h : Hub α) (id id' : Nat) :
    (h.receive id).1.queue? id' = if id' = id then (h.queue? id).map List.tail else h.queue? id' := by
  unfold receive
  split
  · next hs => split <;> simp_all [queue?]
  next s hs =>
  split
  · next a ha =>
    simp only [queue?, h.find?_update id id' Subscriber.take_id Subscriber.take_present, hs]
    split <;> simp
  · next ha =>
    have hq : s.queue = [] := by simpa using ha
    split <;> simp_all [queue?]

theorem queue?_leave (h : Hub α) (id id' : Nat) :
    (h.leave id).queue? id' = if id' = id then none else h.queue? id' := by
  simp only [queue?, find?, listeners, leave, update]
  induction h.subscribers with
  | nil => simp
  | cons s l ih =>
    by_cases hpr : s.present = true <;> by_cases hs : s.id = id <;> by_cases hs' : s.id = id' <;>
      simp_all

@[simp] theorem queue?_close (h : Hub α) (id : Nat) : h.close.queue? id = h.queue? id := rfl

/-! ## What a subscriber finds -/

/-- What is found in a queue: its first item, or whether there will be one. -/
def found (isOpen : Bool) : List α → Receipt α
  | a :: _ => .item a
  | [] => if isOpen then .empty else .closed

theorem receive_found {h : Hub α} {id : Nat} {q : List α} (hq : h.queue? id = some q) :
    (h.receive id).2 = found h.isOpen q := by
  obtain ⟨s, hs, rfl⟩ := Option.map_eq_some_iff.1 hq
  unfold receive
  rw [hs]
  cases hc : s.queue <;> simp [hc, found]

@[simp] theorem receive_isOpen (h : Hub α) (id : Nat) : (h.receive id).1.isOpen = h.isOpen := by
  unfold receive
  split
  · rfl
  · split <;> rfl

@[simp] theorem receive_next (h : Hub α) (id : Nat) : (h.receive id).1.next = h.next := by
  unfold receive
  split
  · rfl
  · split <;> rfl

theorem poll_eq (h : Hub α) (id : Nat) : h.poll id = ((h.receive id).1, (h.receive id).2.polled) := by
  unfold poll
  split <;> simp_all [Receipt.polled]

theorem receive_of_none {h : Hub α} {id : Nat} (hq : h.queue? id = none) :
    h.receive id = (h, .empty) := by
  unfold receive
  rw [Option.map_eq_none_iff.1 hq]

theorem receiveMany_cons {n id : Nat} {h : Hub α} {a : α} {q : List α}
    (hq : h.queue? id = some (a :: q)) :
    receiveMany (n + 1) h id =
      ((receiveMany n (h.receive id).1 id).1, a :: (receiveMany n (h.receive id).1 id).2.1,
        (receiveMany n (h.receive id).1 id).2.2) := by
  obtain ⟨h', hrec⟩ : ∃ h', h.receive id = (h', .item a) := ⟨_, Prod.ext rfl (receive_found hq)⟩
  simp only [receiveMany, hrec]

theorem receiveMany_nil {n id : Nat} {h : Hub α} (hq : h.queue? id = some []) :
    receiveMany (n + 1) h id = ((h.receive id).1, [], some (found h.isOpen [])) := by
  obtain ⟨h', hrec⟩ : ∃ h', h.receive id = (h', found h.isOpen []) :=
    ⟨_, Prod.ext rfl (receive_found hq)⟩
  cases ho : h.isOpen <;> simp [receiveMany, hrec, found, ho]

theorem Numbered.receiveMany {h : Hub α} (hn : h.Numbered) (n id : Nat) :
    (receiveMany n h id).1.Numbered := by
  induction n generalizing h with
  | zero => exact hn
  | succ n ih =>
    have hr := hn.receive id
    simp only [Hub.receiveMany]
    split
    · next h' a heq => rw [heq] at hr; exact ih hr
    · next h' r _ heq => rw [heq] at hr; exact hr

theorem queue?_receiveMany (n : Nat) (h : Hub α) (id id' : Nat) :
    (receiveMany n h id).1.queue? id' =
      if id' = id then (h.queue? id).map (List.drop n) else h.queue? id' := by
  induction n generalizing h with
  | zero =>
    by_cases hid : id' = id
    · subst hid; cases hq : h.queue? id' <;> simp [receiveMany, hq]
    · simp [receiveMany, hid]
  | succ n ih =>
    match hq : h.queue? id with
    | none =>
      rw [Hub.receiveMany, receive_of_none hq]
      by_cases hid : id' = id
      · subst hid; simp [hq]
      · simp [hid]
    | some [] =>
      rw [receiveMany_nil hq, queue?_receive, hq]
      simp
    | some (a :: q) =>
      rw [receiveMany_cons hq, ih, queue?_receive, queue?_receive, hq]
      by_cases hid : id' = id <;> simp [hid]

/-- Of a queue one takes the first items, as many as one asks for, and then finds out whether
more will come. -/
theorem receiveMany_found {n id : Nat} {h : Hub α} {q : List α} (hq : h.queue? id = some q) :
    (receiveMany n h id).2 = (q.take n, if q.length < n then some (found h.isOpen []) else none) := by
  induction n generalizing h q with
  | zero => simp [receiveMany]
  | succ n ih =>
    cases q with
    | nil => simp [receiveMany_nil hq]
    | cons a q =>
      have hq' : (h.receive id).1.queue? id = some q := by simp [queue?_receive, hq]
      simp [receiveMany_cons hq, ih hq']

/-! ## All that waits -/

/-- All that waits in the queues, whoever is to take it. -/
def queued (h : Hub α) : List α := h.subscribers.flatMap (·.queue)

theorem mem_queued {h : Hub α} {a : α} : a ∈ h.queued ↔ ∃ s ∈ h.subscribers, a ∈ s.queue :=
  List.mem_flatMap

@[simp] theorem queued_subscribe (h : Hub α) : h.subscribe.1.queued = h.queued := by
  simp [queued, subscribe, Subscriber.new]

theorem mem_queued_publish {h : Hub α} {a b : α} (hb : b ∈ (h.publish a).1.queued) :
    b = a ∨ b ∈ h.queued := by
  obtain ⟨t, ht, hb⟩ := mem_queued.1 hb
  have hround := (List.mem_filter.1 ht).1
  rw [Round.subscribers_of] at hround
  obtain ⟨s, hs, rfl⟩ := List.mem_map.1 hround
  have hqueue : b ∈ s.queue ++ [a] := by
    unfold Subscriber.send at hb
    dsimp only at hb
    split at hb
    · exact hb
    · exact List.mem_append_left _ hb
  rcases List.mem_append.1 hqueue with hb | hb
  · exact .inr (mem_queued.2 ⟨s, hs, hb⟩)
  · exact .inl (List.mem_singleton.1 hb)

theorem mem_queued_publishAll {h : Hub α} {items : List α} {b : α}
    (hb : b ∈ (h.publishAll items).queued) : b ∈ items ∨ b ∈ h.queued := by
  induction items generalizing h with
  | nil => exact .inr hb
  | cons a items ih =>
    rcases ih hb with hb | hb
    · exact .inl (List.mem_cons_of_mem _ hb)
    · rcases mem_queued_publish hb with rfl | hb
      · exact .inl List.mem_cons_self
      · exact .inr hb

theorem queued_update_subset (h : Hub α) (id : Nat) {f : Subscriber α → Subscriber α}
    (hf : ∀ s, (f s).queue ⊆ s.queue) : (h.update id f).queued ⊆ h.queued := by
  intro b hb
  obtain ⟨t, ht, hb⟩ := mem_queued.1 hb
  obtain ⟨s, hs, rfl⟩ := List.mem_map.1 ht
  refine mem_queued.2 ⟨s, hs, ?_⟩
  split at hb
  · exact hf s hb
  · exact hb

theorem queued_leave_subset (h : Hub α) (id : Nat) : (h.leave id).queued ⊆ h.queued :=
  h.queued_update_subset id fun _ => List.Subset.refl _

theorem queued_receive_subset (h : Hub α) (id : Nat) : (h.receive id).1.queued ⊆ h.queued := by
  unfold receive
  split
  · exact List.Subset.refl _
  · split
    · refine h.queued_update_subset id fun s => ?_
      rw [s.take_queue]
      exact fun _ => List.mem_of_mem_tail
    · exact List.Subset.refl _

theorem queued_receiveMany_subset (n : Nat) (h : Hub α) (id : Nat) :
    (receiveMany n h id).1.queued ⊆ h.queued := by
  induction n generalizing h with
  | zero => exact List.Subset.refl _
  | succ n ih =>
    have hfirst := h.queued_receive_subset id
    simp only [receiveMany]
    split
    · next h' a heq =>
      rw [heq] at hfirst
      exact List.Subset.trans (ih h') hfirst
    · next h' r _ heq =>
      rw [heq] at hfirst
      exact hfirst

end Hub

end PacketTelemetry
