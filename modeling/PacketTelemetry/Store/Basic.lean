/-
Where packets are kept: in memory, or in a store that cannot be reached.

These are the two ways a `PacketStore` can behave. One that is out of reach keeps nothing and
answers nothing, and gives its reason: one for writing, one for reading.
-/
import PacketTelemetry.Store.Memory

namespace PacketTelemetry

open Time

/-- A place for packets. -/
inductive Store where
  | memory (m : Memory)
  | outOfReach (onWrite onRead : String)
deriving Repr

namespace Store

/-- Keeps one packet. -/
def save (s : Store) (received : Instant) (p : Packet) :
    Except StoreError (Store × StoredPacket) :=
  match s with
  | .memory m => let (m, kept) := m.save received p; .ok (.memory m, kept)
  | .outOfReach onWrite _ => .error (.refused onWrite)

/-- Keeps all packets of a batch, or none of them. -/
def saveAll (s : Store) (received : Nat → Instant) (ps : List Packet) :
    Except StoreError (Store × List StoredPacket) :=
  match s with
  | .memory m => (m.saveAll received ps).map fun (m, kept) => (.memory m, kept)
  | .outOfReach onWrite _ => .error (.refused onWrite)

/-- The packets captured last. -/
def latestByTimestamp (s : Store) (limit : Nat) : Except StoreError (List StoredPacket) :=
  match s with
  | .memory m => .ok (m.latestByTimestamp limit)
  | .outOfReach _ onRead => .error (.refused onRead)

/-- The packets kept last. -/
def latestById (s : Store) (limit : Nat) : Except StoreError (List StoredPacket) :=
  match s with
  | .memory m => .ok (m.latestById limit)
  | .outOfReach _ onRead => .error (.refused onRead)

/-- The number of packets that are kept. -/
def count : Store → Nat
  | .memory m => m.count
  | .outOfReach _ _ => 0

end Store

end PacketTelemetry
