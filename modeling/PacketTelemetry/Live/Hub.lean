/-
Items handed out to everyone who listens: the `Hub`.

A `Subscriber` is the `Slot` of the hub and the `Subscription` at its other end in one. A hub
gives a copy of each published item to every subscriber it has at that time. Each subscriber has a
queue of its own and takes items from it when it likes; nothing is lost and nobody waits.
`backlog` counts what a subscriber has not yet taken, and when an item brings it to the mark the
hub counts a warning. A subscriber that has left is noticed when it is handed the next item, and
struck off once everyone has been visited. Numbers are not used again.
-/
namespace PacketTelemetry

/-- One who listens to a hub. -/
structure Subscriber (α : Type) where
  id : Nat
  /-- Items to be taken, oldest first. -/
  queue : List α
  /-- The count of them that is kept beside the queue. -/
  backlog : Nat
  /-- Whether anyone is still there to take them. -/
  present : Bool
deriving Repr

/-- A point of distribution. -/
structure Hub (α : Type) where
  /-- The backlog that is warned of. -/
  mark : Nat
  /-- The number the next subscriber gets. -/
  next : Nat
  /-- In the order in which they are visited. -/
  subscribers : List (Subscriber α)
  /-- The warnings given: `slow_warnings`. -/
  warnings : Nat
  /-- Whether items can still come. -/
  isOpen : Bool
deriving Repr

/-- What a subscriber finds in its queue. -/
inductive Receipt (α : Type) where
  | item (a : α)
  /-- Nothing yet. -/
  | empty
  /-- Nothing, and nothing to come. -/
  | closed
deriving DecidableEq, Repr

namespace Subscriber

variable {α : Type}

/-- One who has just come. -/
def new (id : Nat) : Subscriber α := ⟨id, [], 0, true⟩

/-- A subscriber is handed an item. Gives whether it took it. The backlog is counted up before,
and down again where nobody is there. -/
def send (a : α) (s : Subscriber α) : Subscriber α × Bool :=
  let s := { s with backlog := s.backlog + 1 }
  if s.present then ({ s with queue := s.queue ++ [a] }, true)
  else ({ s with backlog := s.backlog - 1 }, false)

/-- A subscriber that takes the first item of its queue. -/
def take (s : Subscriber α) : Subscriber α × Option α :=
  match s.queue with
  | [] => (s, none)
  | a :: rest => ({ s with queue := rest, backlog := s.backlog - 1 }, some a)

end Subscriber

/-- What comes of handing an item round. -/
structure Round (α : Type) where
  /-- Those who were visited, in that order. -/
  subscribers : List (Subscriber α)
  /-- How many took the item. -/
  delivered : Nat
  /-- The numbers of those who had left. -/
  gone : List Nat
  /-- How many it brought to the mark. -/
  reached : Nat

/-- An item is handed round. -/
def Round.of {α : Type} (mark : Nat) (a : α) : List (Subscriber α) → Round α
  | [] => ⟨[], 0, [], 0⟩
  | s :: rest =>
    let (after, taken) := s.send a
    let r := Round.of mark a rest
    if taken then
      ⟨after :: r.subscribers, r.delivered + 1, r.gone,
        if after.backlog = mark then r.reached + 1 else r.reached⟩
    else ⟨after :: r.subscribers, r.delivered, s.id :: r.gone, r.reached⟩

namespace Hub

variable {α : Type}

/-- A hub to which nobody listens yet. -/
def new (mark : Nat) : Hub α := ⟨mark, 0, [], 0, true⟩

/-- The hub with one more subscriber, and its number: `Hub::subscribe`. -/
def subscribe (h : Hub α) : Hub α × Nat :=
  ({ h with next := h.next + 1, subscribers := h.subscribers ++ [.new h.next] }, h.next)

/-- Those who are still there. -/
def listeners (h : Hub α) : List (Subscriber α) := h.subscribers.filter (·.present)

/-- How many are still there: `Hub::subscriber_count`. -/
def listenerCount (h : Hub α) : Nat := h.listeners.length

/-- Publishes an item: `Hub::publish`. Gives how many took it; those who had left are struck
off. -/
def publish (h : Hub α) (a : α) : Hub α × Nat :=
  let r := Round.of h.mark a h.subscribers
  ({ h with
      subscribers := r.subscribers.filter fun s => s.id ∉ r.gone
      warnings := h.warnings + r.reached },
    r.delivered)

/-- The subscriber of a number, as long as it is there. -/
def find? (h : Hub α) (id : Nat) : Option (Subscriber α) :=
  h.listeners.find? (·.id = id)

/-- The hub with a subscriber changed. -/
def update (h : Hub α) (id : Nat) (f : Subscriber α → Subscriber α) : Hub α :=
  { h with subscribers := h.subscribers.map fun s => if s.id = id then f s else s }

/-- A subscriber takes the next item from its queue: `Subscription::recv`. One that is not there finds
nothing. -/
def receive (h : Hub α) (id : Nat) : Hub α × Receipt α :=
  match h.find? id with
  | none => (h, .empty)
  | some s =>
    match s.take.2 with
    | some a => (h.update id fun s => s.take.1, .item a)
    | none => (h, if h.isOpen then .empty else .closed)

/-- A subscriber that has been made a stream by `Subscription::into_stream` is polled: `none` where
there is nothing yet, `some none` where the stream is over. -/
def poll (h : Hub α) (id : Nat) : Hub α × Option (Option α) :=
  match h.receive id with
  | (h, .item a) => (h, some (some a))
  | (h, .empty) => (h, none)
  | (h, .closed) => (h, some none)

/-- A subscriber takes items until it has enough or finds none, `fuel` bounding how many. -/
def receiveMany : Nat → Hub α → Nat → Hub α × List α × Option (Receipt α)
  | 0, h, _ => (h, [], none)
  | n + 1, h, id =>
    match h.receive id with
    | (h, .item a) =>
      let (h, items, last) := receiveMany n h id
      (h, a :: items, last)
    | (h, receipt) => (h, [], some receipt)

/-- A subscriber leaves: its `Subscription` is dropped. -/
def leave (h : Hub α) (id : Nat) : Hub α := h.update id fun s => { s with present := false }

/-- The hub is dropped: what is in the queues can still be taken. -/
def close (h : Hub α) : Hub α := { h with isOpen := false }

end Hub

end PacketTelemetry
