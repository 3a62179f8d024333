/-
Packets made fit to be kept.

`scrub` (`clean`) takes the NUL characters out of a text and leaves the rest of it alone. A packet
of a batch that does not name its agent, host or interface, or names it by white space only, takes
the name the batch gives (`inherit`). That is decided on the names as they were reported, and the
scrubbing comes after it, in `normalize` as in `normalize_batch`.
-/
import PacketTelemetry.Packet.Basic
import PacketTelemetry.Text.Blank

namespace PacketTelemetry

/-- A text without its NUL characters: `clean`. -/
def scrub (s : String) : String := String.ofList (s.toList.filter fun c => c.toNat ≠ 0)

/-- A packet with all its texts scrubbed: `normalize`. -/
def Packet.normalize (p : Packet) : Packet := p.mapTexts scrub

/-- Absent, empty or white space only: `is_blank`. -/
def isUnnamed : Option String → Bool
  | none => true
  | some s => Text.isBlank s

/-- A name, or that of the batch where there is none: `inherit`. -/
def orShared (own shared : Option String) : Option String :=
  if isUnnamed own then shared else own

/-- A packet with the names it takes from its batch. -/
def Packet.inheritFrom (p : Packet) (b : Batch) : Packet :=
  { p with
    agentId := orShared p.agentId b.agentId
    hostName := orShared p.hostName b.hostName
    interfaceName := orShared p.interfaceName b.interfaceName }

/-- The packets of a batch made fit to be kept, or nothing if it has no list of them:
`normalize_batch`. -/
def Batch.normalize (b : Batch) : Option (List Packet) :=
  b.packets.map fun ps => ps.map fun p => (p.inheritFrom b).normalize

end PacketTelemetry
