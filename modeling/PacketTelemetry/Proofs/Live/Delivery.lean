/-
What a hub delivers, told of every run: subscribing, publishing, taking items
one by one or as a stream, leaving, and giving the hub up, in any order.

A run is seen as the list of its events. From it alone one reads what a
subscriber has received (`received`) and what was published after it came
(`publishedSince`). The first of these, with what is still in its queue, is
the second. The order in which a publication visits the subscribers is left
open: each may have its own.
-/
import PacketTelemetry.Proofs.Live.Queues

namespace PacketTelemetry.Hub

variable {α : Type}

/-! ## Runs -/

/-- What is seen of a hub. -/
inductive Event (α : Type) where
  /-- A subscriber came, and got a number. -/
  | joined (id : Nat)
  /-- An item was published, and taken by that many. -/
  | published (a : α) (count : Nat)
  | received (id : Nat) (r : Receipt α)
  | polled (id : Nat) (p : Option (Option α))
  | left (id : Nat)
  /-- The hub was given up. -/
  | closed
deriving Repr

/-- One step of a hub. Nothing is published by a hub that has been given up,
and nobody comes to it; only those leave who have come. -/
inductive Step : Hub α → Event α → Hub α → Prop
  | subscribe {h : Hub α} (hopen : h.isOpen = true) : Step h (.joined h.subscribe.2) h.subscribe.1
  | publish {h : Hub α} {order : List (Subscriber α)} {a : α} (hopen : h.isOpen = true)
      (hp : order.Perm h.subscribers) :
      Step h (.published a ({ h with subscribers := order }.publish a).2)
        ({ h with subscribers := order }.publish a).1
  | receive {h : Hub α} {id : Nat} : Step h (.received id (h.receive id).2) (h.receive id).1
  | poll {h : Hub α} {id : Nat} : Step h (.polled id (h.poll id).2) (h.poll id).1
  | leave {h : Hub α} {id : Nat} (hid : id < h.next) : Step h (.left id) (h.leave id)
  | close {h : Hub α} : Step h .closed h.close

/-- The runs from a hub, with all that is seen of them. -/
inductive Run (start : Hub α) : List (Event α) → Hub α → Prop
  | start : Run start [] start
  | step {trace : List (Event α)} {h h' : Hub α} {e : Event α} :
      Run start trace h → Step h e h' → Run start (trace ++ [e]) h'

/-! ## What is read off a run -/

/-- The numbers given, in order. -/
def joinedIds (trace : List (Event α)) : List Nat :=
  trace.filterMap fun | .joined id => some id | _ => none

/-- The numbers of those who left. -/
def leftIds (trace : List (Event α)) : List Nat :=
  trace.filterMap fun | .left id => some id | _ => none

/-- The numbers of those who came and did not leave. -/
def openIds (trace : List (Event α)) : List Nat :=
  (joinedIds trace).filter fun id => id ∉ leftIds trace

/-- Whether the hub was given up. -/
def closedIn (trace : List (Event α)) : Bool := trace.any fun | .closed => true | _ => false

/-- The items published, in order. -/
def published (trace : List (Event α)) : List α :=
  trace.filterMap fun | .published a _ => some a | _ => none

/-- The items published after the subscriber of a number had come. -/
def publishedSince (id : Nat) : List (Event α) → List α
  | [] => []
  | .joined i :: rest => if i = id then published rest else publishedSince id rest
  | _ :: rest => publishedSince id rest

/-- The item that an event brings to the subscriber of a number. -/
def Event.itemFor? (id : Nat) : Event α → Option α
  | .received i (.item a) => if i = id then some a else none
  | .polled i (some (some a)) => if i = id then some a else none
  | _ => none

/-- The items the subscriber of a number has got, in order. -/
def received (id : Nat) (trace : List (Event α)) : List α := trace.filterMap (·.itemFor? id)

section

variable (trace trace' : List (Event α)) (id : Nat)

@[simp] theorem joinedIds_append :
    joinedIds (trace ++ trace') = joinedIds trace ++ joinedIds trace' :=
  List.filterMap_append

@[simp] theorem leftIds_append : leftIds (trace ++ trace') = leftIds trace ++ leftIds trace' :=
  List.filterMap_append

@[simp] theorem closedIn_append : closedIn (trace ++ trace') = (closedIn trace || closedIn trace') :=
  List.any_append

@[simp] theorem received_append :
    received id (trace ++ trace') = received id trace ++ received id trace' :=
  List.filterMap_append

theorem received_singleton (e : Event α) : received id [e] = (e.itemFor? id).toList := by
  cases h : e.itemFor? id <;> simp [received, h]

end

theorem mem_openIds {trace : List (Event α)} {id : Nat} :
    id ∈ openIds trace ↔ id ∈ joinedIds trace ∧ id ∉ leftIds trace := by
  simp [openIds]

/-- An event adds to what was published since a subscriber came, once it has come. -/
theorem publishedSince_snoc (id : Nat) (trace : List (Event α)) (e : Event α) :
    publishedSince id (trace ++ [e]) =
      if id ∈ joinedIds trace then publishedSince id trace ++ published [e] else [] := by
  induction trace with
  | nil => cases e <;> simp [publishedSince, joinedIds, published]
  | cons d trace ih =>
    cases d with
    | joined i =>
      by_cases hi : i = id
      · simp [publishedSince, joinedIds, published, hi]
      · simp only [List.cons_append, publishedSince, if_neg hi, ih]
        simp [joinedIds, Ne.symm hi]
    | _ => simpa [publishedSince, joinedIds] using ih

/-- What comes to a subscriber when one of them takes an item is the first of its queue. -/
theorem itemFor?_received (h : Hub α) (i id : Nat) :
    (Event.received i (h.receive i).2).itemFor? id =
      if i = id then (h.queue? i).bind List.head? else none := by
  match hq : h.queue? i with
  | none => simp [receive_of_none hq, Event.itemFor?]
  | some [] => cases ho : h.isOpen <;> simp [receive_found hq, found, ho, Event.itemFor?]
  | some (a :: q) => simp [receive_found hq, found, Event.itemFor?]

theorem itemFor?_polled (r : Receipt α) (i id : Nat) :
    (Event.polled i r.polled).itemFor? id = (Event.received i r).itemFor? id := by
  cases r <;> rfl

/-! ## The account of a run -/

/-- What a run and the hub it leads to have to do with each other. -/
structure Accounted (trace : List (Event α)) (h : Hub α) : Prop where
  numbered : h.Numbered
  once : (joinedIds trace).Nodup
  given : ∀ id, id ∈ joinedIds trace ↔ id < h.next
  came : ∀ id ∈ leftIds trace, id < h.next
  unread : ∀ id, h.next ≤ id → received id trace = []
  present : ∀ id, (∃ q, h.queue? id = some q) ↔ id ∈ openIds trace
  items : ∀ id q, h.queue? id = some q → received id trace ++ q = publishedSince id trace
  isOpen : h.isOpen = !closedIn trace

namespace Accounted

variable {trace : List (Event α)} {h : Hub α}

theorem new (mark : Nat) : Accounted [] (Hub.new mark : Hub α) where
  numbered := .new mark
  once := by simp [joinedIds]
  given := by simp [joinedIds, Hub.new]
  came := by simp [leftIds]
  unread := by simp [received]
  present := by simp [openIds, joinedIds]
  items := by simp
  isOpen := rfl

/-- Who has a queue has come. -/
theorem joined (acc : Accounted trace h) {id : Nat} {q : List α} (hq : h.queue? id = some q) :
    id ∈ joinedIds trace :=
  (mem_openIds.1 ((acc.present id).1 ⟨q, hq⟩)).1

/-- Those in the hub who are still there are those who came and did not leave. -/
theorem listeners_ids (acc : Accounted trace h) :
    (h.listeners.map (·.id)).Perm (openIds trace) := by
  refine (List.perm_ext_iff_of_nodup ?_ (acc.once.filter _)).2 fun id => ?_
  · exact acc.numbered.distinct.sublist (List.filter_sublist.map _)
  · rw [← openIds, ← acc.present]
    simp only [queue?_eq_some_iff acc.numbered, listeners, List.mem_map, List.mem_filter]
    constructor
    · rintro ⟨s, ⟨hs, hp⟩, hid⟩
      exact ⟨_, s, hs, hid, hp, rfl⟩
    · rintro ⟨_, s, hs, hid, hp, -⟩
      exact ⟨s, ⟨hs, hp⟩, hid⟩

theorem listenerCount (acc : Accounted trace h) : h.listenerCount = (openIds trace).length := by
  simpa [Hub.listenerCount] using acc.listeners_ids.length_eq

theorem subscribe (acc : Accounted trace h) :
    Accounted (trace ++ [.joined h.next]) h.subscribe.1 := by
  have hnext : h.subscribe.1.next = h.next + 1 := rfl
  have hj : joinedIds [Event.joined (α := α) h.next] = [h.next] := rfl
  have hl : leftIds [Event.joined (α := α) h.next] = [] := rfl
  have hr : ∀ id, received id (trace ++ [Event.joined h.next]) = received id trace := by
    intro id
    simp [received_singleton, Event.itemFor?]
  have hfresh : h.next ∉ joinedIds trace := by
    intro hm
    exact Nat.lt_irrefl _ ((acc.given _).1 hm)
  have hstays : h.next ∉ leftIds trace := by
    intro hm
    exact Nat.lt_irrefl _ (acc.came _ hm)
  refine ⟨acc.numbered.subscribe, ?_, ?_, ?_, ?_, ?_, ?_, ?_⟩
  · rw [joinedIds_append, hj, ← List.concat_eq_append]
    exact acc.once.concat hfresh
  · intro id
    rw [joinedIds_append, hj, List.mem_append, acc.given, List.mem_singleton, hnext]
    omega
  · intro id hid
    rw [leftIds_append, hl, List.append_nil] at hid
    exact Nat.lt_succ_of_lt (acc.came id hid)
  · intro id hid
    rw [hr]
    exact acc.unread id (by omega)
  · intro id
    rw [queue?_subscribe acc.numbered, mem_openIds, joinedIds_append, leftIds_append, hj, hl,
      List.append_nil, List.mem_append, List.mem_singleton]
    split
    · next hid => simpa [hid] using hstays
    · next hid => simpa [hid, mem_openIds] using acc.present id
  · intro id q hq
    rw [queue?_subscribe acc.numbered] at hq
    rw [hr, publishedSince_snoc]
    split at hq
    · next hid =>
      obtain rfl : [] = q := by simpa using hq
      rw [hid, acc.unread _ (Nat.le_refl _), if_neg hfresh]
      rfl
    · next hid =>
      rw [if_pos (acc.joined hq), acc.items id q hq]
      exact (List.append_nil _).symm
  · show h.isOpen = _
    rw [closedIn_append, acc.isOpen, show closedIn [Event.joined h.next] = false from rfl,
      Bool.or_false]

theorem leave (acc : Accounted trace h) {id : Nat} (hid : id < h.next) :
    Accounted (trace ++ [.left id]) (h.leave id) := by
  have hj : joinedIds [Event.left (α := α) id] = [] := rfl
  have hl : leftIds [Event.left (α := α) id] = [id] := rfl
  have hr : ∀ id', received id' (trace ++ [Event.left id]) = received id' trace := by
    intro id'
    simp [received_singleton, Event.itemFor?]
  refine ⟨acc.numbered.leave id, ?_, ?_, ?_, ?_, ?_, ?_, ?_⟩
  · rw [joinedIds_append, hj, List.append_nil]
    exact acc.once
  · intro id'
    rw [joinedIds_append, hj, List.append_nil]
    exact acc.given id'
  · intro id' hid'
    rw [leftIds_append, hl, List.mem_append, List.mem_singleton] at hid'
    rcases hid' with hid' | rfl
    · exact acc.came id' hid'
    · exact hid
  · intro id' hid'
    rw [hr]
    exact acc.unread id' hid'
  · intro id'
    rw [queue?_leave, mem_openIds, joinedIds_append, leftIds_append, hj, hl, List.append_nil,
      List.mem_append, List.mem_singleton]
    split
    · next heq => simp [heq]
    · next hne => simpa [hne, mem_openIds] using acc.present id'
  · intro id' q hq
    rw [queue?_leave] at hq
    split at hq
    · cases hq
    · rw [hr, publishedSince_snoc, if_pos (acc.joined hq), acc.items id' q hq]
      exact (List.append_nil _).symm
  · show h.isOpen = _
    rw [closedIn_append, acc.isOpen, show closedIn [Event.left id] = false from rfl, Bool.or_false]

/-- An event at which nobody comes or leaves: what it brings to a subscriber comes off its
queue, and what it publishes goes onto every queue. -/
theorem quiet (acc : Accounted trace h) {e : Event α} {h' : Hub α} (hj : joinedIds [e] = [])
    (hl : leftIds [e] = []) (hn : h'.Numbered) (hnext : h'.next = h.next)
    (hq : ∀ id, h'.queue? id =
      (h.queue? id).map fun q => q.drop (e.itemFor? id).toList.length ++ published [e])
    (hi : ∀ id a, e.itemFor? id = some a → ∃ q, h.queue? id = some (a :: q))
    (ho : h'.isOpen = (h.isOpen && !closedIn [e])) : Accounted (trace ++ [e]) h' := by
  have hnone : ∀ id, h.queue? id = none → e.itemFor? id = none := by
    intro id hid
    refine Option.eq_none_iff_forall_ne_some.2 fun a ha => ?_
    obtain ⟨q, hq⟩ := hi id a ha
    rw [hid] at hq
    cases hq
  refine ⟨hn, ?_, ?_, ?_, ?_, ?_, ?_, ?_⟩
  · rw [joinedIds_append, hj, List.append_nil]
    exact acc.once
  · intro id
    rw [joinedIds_append, hj, List.append_nil, hnext]
    exact acc.given id
  · intro id hid
    rw [leftIds_append, hl, List.append_nil] at hid
    exact hnext ▸ acc.came id hid
  · intro id hid
    rw [received_append, received_singleton, acc.unread id (hnext ▸ hid),
      hnone id (queue?_eq_none acc.numbered (hnext ▸ hid))]
    rfl
  · intro id
    rw [hq, mem_openIds, joinedIds_append, leftIds_append, hj, hl, List.append_nil, List.append_nil,
      ← mem_openIds, ← acc.present]
    simp
  · intro id q hq'
    rw [hq] at hq'
    obtain ⟨p, hp, rfl⟩ := Option.map_eq_some_iff.1 hq'
    rw [publishedSince_snoc, if_pos (acc.joined hp), ← acc.items id p hp, received_append,
      received_singleton]
    cases ha : e.itemFor? id with
    | none => simp
    | some a =>
      obtain ⟨r, hr⟩ := hi id a ha
      rw [hp] at hr
      cases hr
      simp
  · rw [closedIn_append, ho, acc.isOpen, Bool.not_or]

theorem publish (acc : Accounted trace h) {order : List (Subscriber α)}
    (hp : order.Perm h.subscribers) (a : α) (n : Nat) :
    Accounted (trace ++ [.published a n]) ({ h with subscribers := order }.publish a).1 := by
  have hn := acc.numbered.perm hp
  refine acc.quiet rfl rfl (hn.publish a) rfl (fun id => ?_) (fun id b hb => by cases hb) ?_
  · rw [queue?_publish hn, queue?_perm acc.numbered hp]
    rfl
  · exact (Bool.and_true _).symm

theorem take (acc : Accounted trace h) {e : Event α} (i : Nat) (hj : joinedIds [e] = [])
    (hl : leftIds [e] = []) (hp : published [e] = []) (hc : closedIn [e] = false)
    (hi : ∀ id, e.itemFor? id = (Event.received i (h.receive i).2).itemFor? id) :
    Accounted (trace ++ [e]) (h.receive i).1 := by
  refine acc.quiet hj hl (acc.numbered.receive i) (h.receive_next i) ?_ ?_ ?_
  · intro id
    rw [queue?_receive, hp, hi, itemFor?_received]
    by_cases hid : i = id
    · subst hid
      match h.queue? i with
      | none => simp
      | some [] => simp
      | some (a :: q) => simp
    · simp [hid, Ne.symm hid]
  · intro id a ha
    rw [hi, itemFor?_received] at ha
    split at ha
    · next hid =>
      subst hid
      match hq : h.queue? i with
      | none => simp [hq] at ha
      | some [] => simp [hq] at ha
      | some (b :: q) =>
        obtain rfl : b = a := by simpa [hq] using ha
        exact ⟨q, rfl⟩
    · cases ha
  · rw [receive_isOpen, hc]
    exact (Bool.and_true _).symm

theorem close (acc : Accounted trace h) : Accounted (trace ++ [.closed]) h.close := by
  refine acc.quiet rfl rfl ⟨acc.numbered.distinct, acc.numbered.below⟩ rfl (fun id => ?_)
    (fun id b hb => by cases hb) ?_
  · rw [queue?_close]
    cases h.queue? id <;> simp [Event.itemFor?, published]
  · exact (Bool.and_false _).symm

/-- Every step keeps the account. -/
theorem step (acc : Accounted trace h) {e : Event α} {h' : Hub α} (hs : Step h e h') :
    Accounted (trace ++ [e]) h' := by
  cases hs with
  | subscribe _ => exact acc.subscribe
  | publish _ hp => exact acc.publish hp _ _
  | @receive id => exact acc.take id rfl rfl rfl rfl fun _ => rfl
  | @poll id =>
    rw [poll_eq]
    exact acc.take id rfl rfl rfl rfl fun _ => itemFor?_polled _ _ _
  | leave hid => exact acc.leave hid
  | close => exact acc.close

/-- So does every run. -/
theorem of_run {mark : Nat} (run : Run (.new mark) trace h) : Accounted trace h := by
  induction run with
  | start => exact .new mark
  | step _ hs ih => exact ih.step hs

end Accounted

/-- A publication is taken by those who are there, and strikes off all others. -/
theorem publish_of_step {h h' : Hub α} {a : α} {n : Nat} (hn : h.Numbered)
    (hs : Step h (.published a n) h') :
    n = h.listenerCount ∧ ∀ s ∈ h'.subscribers, s.present = true := by
  cases hs with
  | @publish order _ _ hp =>
    refine ⟨?_, fun s hs => ?_⟩
    · show (Round.of _ a order).delivered = _
      rw [Round.delivered_of]
      exact (hp.filter _).length_eq
    · rw [subscribers_publish (hn.perm hp)] at hs
      obtain ⟨t, ht, rfl⟩ := List.mem_map.1 hs
      rw [Subscriber.send_present]
      exact (List.mem_filter.1 ht).2

/-! ## Delivery -/

/-- **Delivery.** In every run of a hub, whatever its mark and whoever is visited first, a
subscriber that has not left has received the items published after it came, in that order, but
for those in its queue. There it finds them, received or polled; only then does it find whether
more will come, which is not so once the hub was given up. A publication is taken by those who
came and did not leave, and leaves nobody else in the hub. -/
theorem run_delivery {mark : Nat} {trace : List (Event α)} {h : Hub α}
    (run : Run (.new mark) trace h) :
    (joinedIds trace).Nodup ∧
    (∀ id ∈ openIds trace, ∃ q, h.queue? id = some q ∧
      received id trace ++ q = publishedSince id trace ∧
      (h.receive id).2 = found (!closedIn trace) q ∧
      (h.poll id).2 = (found (!closedIn trace) q).polled ∧
      ∀ n, (receiveMany n h id).2 =
        (q.take n, if q.length < n then some (found (!closedIn trace) []) else none)) ∧
    ∀ a n h', Step h (.published a n) h' →
      n = (openIds trace).length ∧ n = h.listenerCount ∧ ∀ s ∈ h'.subscribers, s.present = true := by
  have acc := Accounted.of_run run
  refine ⟨acc.once, fun id hid => ?_, fun a n h' hs => ?_⟩
  · obtain ⟨q, hq⟩ := (acc.present id).2 hid
    refine ⟨q, hq, acc.items id q hq, ?_, ?_, fun n => ?_⟩
    · rw [receive_found hq, acc.isOpen]
    · rw [poll_eq, receive_found hq, acc.isOpen]
    · rw [receiveMany_found hq, acc.isOpen]
  · obtain ⟨hcount, hleft⟩ := publish_of_step acc.numbered hs
    exact ⟨hcount.trans acc.listenerCount, hcount, hleft⟩

/-- A run of two subscribers, in which the second is visited first, and leaves. -/
theorem run_delivery_of_two :
    ∃ h : Hub Nat,
      Run (.new 1) [.joined 0, .published 5 1, .joined 1, .published 6 2, .received 0 (.item 5),
        .left 1, .published 7 1, .closed] h ∧
      h.queue? 0 = some [6, 7] ∧ (h.receive 0).2 = .item 6 := by
  have h₁ : Run (.new 1) [Event.joined 0, .published 5 1, .joined 1] _ :=
    .step (.step (.step .start (.subscribe rfl)) (.publish rfl (.refl _))) (.subscribe rfl)
  have h₂ : Run (.new 1) [Event.joined 0, .published 5 1, .joined 1, .published 6 2,
      .received 0 (.item 5), .left 1] _ :=
    .step (.step (.step h₁ (.publish rfl (.swap _ _ _))) .receive) (.leave (by decide))
  have run : Run (.new 1) [Event.joined 0, .published 5 1, .joined 1, .published 6 2,
      .received 0 (.item 5), .left 1, .published 7 1, .closed] _ :=
    .step (.step h₂ (.publish rfl (.refl _))) .close
  obtain ⟨-, hitems, -⟩ := run_delivery run
  obtain ⟨q, hq, hall, hfound, -⟩ := hitems 0 (by decide)
  obtain rfl : q = [6, 7] := List.append_cancel_left hall
  exact ⟨_, run, hq, hfound⟩

end PacketTelemetry.Hub
