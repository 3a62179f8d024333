/-
Packets kept in memory: the `MemoryStore`.

Each packet that is kept gets the next number, and they are held newest first. A memory with a
limit keeps the packets with the latest numbers, as many as the limit says: all below a floor are
let go once the floor has risen above them. A batch longer than the limit is refused as a whole.
Numbers are words of 64 bits, and so is what is computed with them.
-/
import PacketTelemetry.Packet.Stored

namespace PacketTelemetry

open Time

/-- Why packets were not kept, or could not be looked up. -/
inductive StoreError where
  /-- A batch of more packets than may be kept at all. -/
  | overLimit (count limit : Nat)
  /-- The store itself refuses, and says why. -/
  | refused (reason : String)
deriving DecidableEq, Repr

/-- The text of an error. -/
def StoreError.message : StoreError → String
  | .overLimit count limit =>
    "scriere respinsa: lot de " ++ toString count ++ " pachete peste limita de retentie " ++
      toString limit
  | .refused reason => "scriere respinsa: " ++ reason

/-- Packets in memory. -/
structure Memory where
  /-- Newest first. -/
  packets : List StoredPacket
  /-- The number the next packet gets. -/
  next : Int64
  /-- The least number that is still kept: `retained_from`. -/
  floor : Int64
  /-- The number of packets that may be kept, zero for any number. -/
  limit : Nat
deriving Repr

namespace Memory

/-- A memory that holds nothing yet. -/
def new (limit : Nat) : Memory := ⟨[], 1, 1, limit⟩

/-- The number of packets that are kept. -/
def count (m : Memory) : Nat := m.packets.length

/-- A memory without the packets numbered from `least` up to, not including, `bound`. -/
def dropRange (m : Memory) (least bound : Int64) : Memory :=
  if least < bound then
    { m with packets := m.packets.filter fun s => !(least ≤ s.id && s.id < bound) }
  else m

/-- The floor below which nothing is kept when `newest` is the latest number. -/
def floorFor (m : Memory) (newest : Int64) : Int64 := newest - Int64.ofNat m.limit + 1

/-- A memory whose floor has risen to where it has to be, and the packets below it gone. -/
def raiseFloor (m : Memory) (newest : Int64) : Memory :=
  let floor := m.floorFor newest
  if m.floor < floor then { m.dropRange m.floor floor with floor } else m

/-- Lets go of what is over the limit, after the packets from `first` to `newest` came in:
`MemoryStore::enforce_retention`. -/
def enforceLimit (m : Memory) (first newest : Int64) : Memory :=
  if m.limit = 0 then m
  else
    let m := m.raiseFloor newest
    m.dropRange first (if m.floor < newest + 1 then m.floor else newest + 1)

/-- Packets numbered one after another, from the first number that `reserve_ids` gives:
`MemoryStore::to_record`. -/
def numbered (first : Int64) (received : Nat → Instant) (ps : List Packet) : List StoredPacket :=
  ps.mapIdx fun i p => ⟨first + Int64.ofNat i, received i, p⟩

/-- Keeps one packet: `save`. -/
def save (m : Memory) (received : Instant) (p : Packet) : Memory × StoredPacket :=
  let s : StoredPacket := ⟨m.next, received, p⟩
  ({ m with packets := s :: m.packets, next := m.next + 1 }.enforceLimit s.id s.id, s)

/-- Keeps all packets of a batch, or none of them: `save_all`. `received` gives the time each came
in. -/
def saveAll (m : Memory) (received : Nat → Instant) (ps : List Packet) :
    Except StoreError (Memory × List StoredPacket) :=
  if ps.isEmpty then .ok (m, [])
  else if 0 < m.limit ∧ m.limit < ps.length then .error (.overLimit ps.length m.limit)
  else
    let saved := numbered m.next received ps
    let next := m.next + Int64.ofNat ps.length
    .ok ({ m with packets := saved.reverse ++ m.packets, next }.enforceLimit m.next (next - 1),
      saved)

/-- Whether a packet stands before another by the time it was captured: the later text first,
those without any last, and of equals the later number (`by_timestamp_desc`). -/
def laterCaptured (a b : StoredPacket) : Bool :=
  match a.packet.timestamp, b.packet.timestamp with
  | some x, some y => y < x || (x = y && b.id ≤ a.id)
  | some _, none => true
  | none, some _ => false
  | none, none => b.id ≤ a.id

/-- Whether a packet stands before another by its number: the later number first. -/
def laterKept (a b : StoredPacket) : Bool := b.id ≤ a.id

/-- The packets captured last, `limit` at the most: `latest_by_timestamp`. -/
def latestByTimestamp (m : Memory) (limit : Nat) : List StoredPacket :=
  (m.packets.mergeSort laterCaptured).take limit

/-- The packets kept last, `limit` at the most: `latest_by_id`. -/
def latestById (m : Memory) (limit : Nat) : List StoredPacket :=
  (m.packets.mergeSort laterKept).take limit

end Memory

end PacketTelemetry
