/-
A collector without its dates: the times at which packets were received and
alerts raised, wherever they are kept, are all set to one.

Nothing depends on these times. To do something and then forget them is to forget
them and then do it (`Collector.undated_ingest`), so that what they are cannot be
told from what is left. The clock that measures is another matter: arrivals keep
its readings.
-/
import PacketTelemetry.Proofs.Collector.Run

namespace PacketTelemetry

open Time

/-! ## Queues -/

section

variable {α β : Type} (f : α → β)

/-- A subscriber to whom other items were handed. -/
def Subscriber.map (s : Subscriber α) : Subscriber β := ⟨s.id, s.queue.map f, s.backlog, s.present⟩

/-- A hub on which other items were published. -/
def Hub.map (h : Hub α) : Hub β :=
  ⟨h.mark, h.next, h.subscribers.map (·.map f), h.warnings, h.isOpen⟩

theorem Subscriber.send_map (s : Subscriber α) (a : α) :
    (s.map f).send (f a) = ((s.send a).1.map f, (s.send a).2) := by
  cases hp : s.present <;> simp [send, map, hp]

theorem Round.of_map (mark : Nat) (a : α) (l : List (Subscriber α)) :
    Round.of mark (f a) (l.map (·.map f)) =
      { Round.of mark a l with subscribers := (Round.of mark a l).subscribers.map (·.map f) } := by
  induction l with
  | nil => rfl
  | cons s l ih =>
    simp only [List.map_cons, Round.of, Subscriber.send_map, ih]
    split <;> rfl

/-- Items are published alike, whatever they are. -/
theorem Hub.publish_map (h : Hub α) (a : α) :
    (h.map f).publish (f a) = ((h.publish a).1.map f, (h.publish a).2) := by
  simp only [publish, map, Round.of_map, List.filter_map]
  rfl

end

/-! ## Without dates -/

/-- A stored packet but for the time it was received. -/
def StoredPacket.undated (s : StoredPacket) : StoredPacket := { s with receivedAt := ⟨0, 0⟩ }

/-- A moment but for the time of day. -/
def Moment.undated (now : Moment) : Moment := .once ⟨0, 0⟩ now.ticks

/-- A message but for its time. -/
def Message.undated : Message → Message
  | .packet s => .packet s.undated
  | .alert a => .alert a.undated
  | .heartbeat a => .heartbeat a

/-- An item of a channel but for its time. -/
def Channel.undate : (ch : Channel) → ch.Item → ch.Item
  | .packets => StoredPacket.undated
  | .alerts => Alert.undated
  | .agents => id
  | .analytics _ => id

/-- A queue of messages without their times. -/
def Outbound.undated (o : Outbound) : Outbound := { o with queue := o.queue.map Message.undated }

/-- Channels on which all items are without their times. -/
def Channels.undated (cs : Channels) : Channels :=
  { cs with
    packets := cs.packets.map StoredPacket.undated
    alerts := cs.alerts.map Alert.undated }

/-- A memory of packets without their times. -/
def Memory.undated (m : Memory) : Memory := { m with packets := m.packets.map StoredPacket.undated }

/-- A store of packets without their times. -/
def Store.undated : Store → Store
  | .memory m => .memory m.undated
  | .outOfReach onWrite onRead => .outOfReach onWrite onRead

/-- A collector in which nothing has a time. -/
def Collector.undated (c : Collector) : Collector :=
  { c with
    store := c.store.undated
    channels := c.channels.undated
    outbound := c.outbound.undated }

/-! ## Nothing depends on dates -/

theorem Outbound.undated_send (o : Outbound) (m : Message) :
    (o.send m).undated = o.undated.send m.undated := by
  cases ho : o.isOpen <;> simp [send, undated, ho]

theorem Channels.undated_publish (cs : Channels) (ch : Channel) (item : ch.Item) :
    (cs.publish ch item).undated = cs.undated.publish ch (ch.undate item) := by
  rcases ch with _ | _ | _ | a
  · have hhub := congrArg Prod.fst (Hub.publish_map StoredPacket.undated cs.packets item)
    exact congrArg (fun h => { cs.undated with packets := h }) hhub.symm
  · rfl
  · have hhub := congrArg Prod.fst (Hub.publish_map Alert.undated cs.alerts item)
    exact congrArg (fun h => { cs.undated with alerts := h }) hhub.symm
  · cases a <;> rfl

namespace Memory

theorem undated_dropRange (m : Memory) (least bound : Int64) :
    (m.dropRange least bound).undated = m.undated.dropRange least bound := by
  unfold dropRange
  split
  · simp only [undated, List.filter_map]
    rfl
  · rfl

theorem undated_raiseFloor (m : Memory) (newest : Int64) :
    (m.raiseFloor newest).undated = m.undated.raiseFloor newest := by
  have hdrop := m.undated_dropRange m.floor (m.floorFor newest)
  unfold raiseFloor
  dsimp only
  by_cases hlow : m.floor < m.floorFor newest
  · rw [if_pos hlow, if_pos (show m.undated.floor < m.undated.floorFor newest from hlow)]
    exact congrArg (fun m' => { m' with floor := m.floorFor newest }) hdrop
  · rw [if_neg hlow, if_neg (show ¬ m.undated.floor < m.undated.floorFor newest from hlow)]

theorem undated_enforceLimit (m : Memory) (first newest : Int64) :
    (m.enforceLimit first newest).undated = m.undated.enforceLimit first newest := by
  unfold enforceLimit
  by_cases hzero : m.limit = 0
  · rw [if_pos hzero, if_pos (show m.undated.limit = 0 from hzero)]
  · rw [if_neg hzero, if_neg (show m.undated.limit ≠ 0 from hzero)]
    dsimp only
    rw [undated_dropRange, ← undated_raiseFloor]
    rfl

theorem undated_save (m : Memory) (time : Instant) (p : Packet) :
    m.undated.save ⟨0, 0⟩ p = ((m.save time p).1.undated, (m.save time p).2.undated) := by
  unfold save
  simp only [undated_enforceLimit]
  rfl

theorem undated_saveAll (m : Memory) (time : Nat → Instant) (ps : List Packet) :
    m.undated.saveAll (fun _ => ⟨0, 0⟩) ps =
      (m.saveAll time ps).map fun r => (r.1.undated, r.2.map StoredPacket.undated) := by
  have hnumbered : numbered m.next (fun _ => ⟨0, 0⟩) ps =
      (numbered m.next time ps).map StoredPacket.undated :=
    List.ext_getElem (by simp [numbered]) (by simp [numbered, StoredPacket.undated])
  unfold saveAll
  by_cases hempty : ps.isEmpty = true
  · rw [if_pos hempty, if_pos hempty]
    rfl
  by_cases hover : 0 < m.limit ∧ m.limit < ps.length
  · have hover' : 0 < m.undated.limit ∧ m.undated.limit < ps.length := hover
    rw [if_neg hempty, if_neg hempty, if_pos hover, if_pos hover']
    rfl
  · have hover' : ¬ (0 < m.undated.limit ∧ m.undated.limit < ps.length) := hover
    have hnext : m.undated.next = m.next := rfl
    rw [if_neg hempty, if_neg hempty, if_neg hover, if_neg hover', hnext, hnumbered]
    simp only [Except.map, undated_enforceLimit]
    simp only [undated, List.map_append, List.map_reverse]

theorem undated_latestByTimestamp (m : Memory) (limit : Nat) :
    m.undated.latestByTimestamp limit =
      (m.latestByTimestamp limit).map StoredPacket.undated := by
  have hsort : (m.packets.mergeSort laterCaptured).map StoredPacket.undated =
      (m.packets.map StoredPacket.undated).mergeSort laterCaptured :=
    List.map_mergeSort fun _ _ _ _ => rfl
  rw [latestByTimestamp, latestByTimestamp, List.map_take, hsort]
  rfl

theorem undated_latestById (m : Memory) (limit : Nat) :
    m.undated.latestById limit = (m.latestById limit).map StoredPacket.undated := by
  have hsort : (m.packets.mergeSort laterKept).map StoredPacket.undated =
      (m.packets.map StoredPacket.undated).mergeSort laterKept :=
    List.map_mergeSort fun _ _ _ _ => rfl
  rw [latestById, latestById, List.map_take, hsort]
  rfl

end Memory

theorem Store.undated_save (s : Store) (time : Instant) (p : Packet) :
    s.undated.save ⟨0, 0⟩ p = (s.save time p).map fun r => (r.1.undated, r.2.undated) := by
  cases s with
  | memory m => simp only [save, undated, Memory.undated_save m time]; rfl
  | outOfReach => rfl

theorem Store.undated_saveAll (s : Store) (time : Nat → Instant) (ps : List Packet) :
    s.undated.saveAll (fun _ => ⟨0, 0⟩) ps =
      (s.saveAll time ps).map fun r => (r.1.undated, r.2.map StoredPacket.undated) := by
  cases s with
  | memory m =>
    simp only [saveAll, undated, Memory.undated_saveAll m time]
    cases m.saveAll time ps <;> rfl
  | outOfReach => rfl

theorem Store.undated_latestByTimestamp (s : Store) (limit : Nat) :
    s.undated.latestByTimestamp limit =
      (s.latestByTimestamp limit).map (List.map StoredPacket.undated) := by
  cases s with
  | memory m => exact congrArg Except.ok (m.undated_latestByTimestamp limit)
  | outOfReach => rfl

theorem Store.undated_latestById (s : Store) (limit : Nat) :
    s.undated.latestById limit = (s.latestById limit).map (List.map StoredPacket.undated) := by
  cases s with
  | memory m => exact congrArg Except.ok (m.undated_latestById limit)
  | outOfReach => rfl

/-- The watches see no dates, and alerts are dated by the moment. -/
theorem Detector.process_undated (d : Detector) (s : StoredPacket) (now : Moment) :
    d.process s.undated now.undated =
      ((d.process s now).1, (d.process s now).2.map (·.undated)) := by
  have hip : s.undated.srcIp = s.srcIp := rfl
  unfold process
  rw [hip]
  cases s.srcIp with
  | none => rfl
  | some ip =>
    dsimp only
    split
    · rfl
    · simp only [watch, List.map_append, undated_alert]
      rfl

namespace Collector

theorem undated_publish (c : Collector) (ch : Channel) (item : ch.Item) :
    (c.publish ch item).undated = c.undated.publish ch (ch.undate item) := by
  simp only [publish, undated, Channels.undated_publish]

theorem undated_send (c : Collector) (m : Message) :
    (c.send m).undated = c.undated.send m.undated := by
  simp only [send, undated, Outbound.undated_send]

theorem undated_tell (c : Collector) (m : Message) (ch : Channel) (item : ch.Item) :
    ((c.send m).publish ch item).undated =
      (c.undated.send m.undated).publish ch (ch.undate item) := by
  rw [undated_publish, undated_send]

theorem undated_raiseAll (c : Collector) (alerts : List Alert) :
    (alerts.foldl raise c).undated = (alerts.map (·.undated)).foldl raise c.undated := by
  induction alerts generalizing c with
  | nil => rfl
  | cons a alerts ih =>
    have hraise : (c.raise a).undated = c.undated.raise a.undated :=
      c.undated_tell (.alert a) .alerts a
    rw [List.foldl_cons, ih, hraise]
    rfl

theorem spread_eq (c : Collector) (s : StoredPacket) (now : Moment) :
    c.spread s now = ((c.detector.process s now).2.foldl raise
      { (c.send (.packet s)).publish .packets s with detector := (c.detector.process s now).1 },
        (c.detector.process s now).2) := rfl

theorem undated_spread (c : Collector) (s : StoredPacket) (now : Moment) :
    c.undated.spread s.undated now.undated =
      ((c.spread s now).1.undated, (c.spread s now).2.map (·.undated)) := by
  have htold : ((c.send (.packet s)).publish .packets s).undated =
      (c.undated.send (.packet s.undated)).publish .packets s.undated :=
    c.undated_tell (.packet s) .packets s
  have hwatched : c.undated.detector.process s.undated now.undated = _ :=
    c.detector.process_undated s now
  simp only [spread_eq, hwatched, undated_raiseAll]
  refine Prod.ext ?_ rfl
  exact congrArg (fun c' => ((c.detector.process s now).2.map (·.undated)).foldl raise
    { c' with detector := (c.detector.process s now).1 }) htold.symm

/-- To take a packet in and then forget the dates is to forget them and then take it in. -/
theorem undated_ingest (c : Collector) (p : Packet) (now : Moment) :
    c.undated.ingest p now.undated =
      (c.ingest p now).map fun r => (r.1.undated, r.2.1.undated, r.2.2.map (·.undated)) := by
  have hsaved : c.undated.store.save now.undated.wall p.normalize = _ :=
    c.store.undated_save now.wall p.normalize
  unfold ingest
  rw [hsaved]
  cases c.store.save now.wall p.normalize with
  | error e => rfl
  | ok r =>
    have hspread := undated_spread { c with store := r.1 } r.2 now
    exact congrArg (fun r' => Except.ok (r'.1, r.2.undated, r'.2)) hspread

end Collector

end PacketTelemetry
