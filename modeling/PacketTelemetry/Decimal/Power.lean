/-
Powers of two and of ten.
-/
namespace PacketTelemetry.Decimal

/-- A power of two. -/
def twoTo (n : Nat) : Nat := Nat.pow 2 n

/-- A power of ten. -/
def tenTo (n : Nat) : Nat := Nat.pow 10 n

end PacketTelemetry.Decimal
