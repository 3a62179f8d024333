/-
The order of texts is the order of their octets (`encode_lt_encode`): to compare
two texts character by character or octet by octet comes to the same.

It rests on single characters. The first octet tells how many there are of a
character, and more for a larger number; after that the octets are the digits of
the number to the base 64, the highest first.
-/
import PacketTelemetry.Proofs.Text.Octets

namespace PacketTelemetry.Text.Utf8

/-- The first octets tell, where they differ. -/
theorem cons_lt_cons_of_lt {a b : Nat} (hb : b < 256) (h : a < b) (xs ys : List UInt8) :
    UInt8.ofNat a :: xs < UInt8.ofNat b :: ys := by
  refine List.cons_lt_cons_iff.2 (.inl ?_)
  rw [UInt8.lt_iff_toNat_lt, UInt8.toNat_ofNat_of_lt' hb,
    UInt8.toNat_ofNat_of_lt' (Nat.lt_trans h hb)]
  exact h

/-- Else those after them do. -/
theorem cons_lt_cons_of_le {a b : Nat} (hb : b < 256) (hle : a ≤ b) {xs ys : List UInt8}
    (h : a = b → xs < ys) : UInt8.ofNat a :: xs < UInt8.ofNat b :: ys := by
  rcases Nat.lt_or_eq_of_le hle with hlt | heq
  · exact cons_lt_cons_of_lt hb hlt xs ys
  · rw [heq]
    exact List.cons_lt_cons_iff.2 (.inr ⟨rfl, h heq⟩)

/-- The last of the octets is compared by the lowest digit. -/
theorem lastOctet_lt {v w : Nat} (h : v / 64 = w / 64) (hlt : v < w) (xs ys : List UInt8) :
    UInt8.ofNat (v % 64 + 128) :: xs < UInt8.ofNat (w % 64 + 128) :: ys :=
  cons_lt_cons_of_lt (by omega) (by omega) xs ys

/-- The last two are compared by the lowest two digits. -/
theorem lastOctets_lt {v w : Nat} (h : v / 4096 = w / 4096) (hlt : v < w) (xs ys : List UInt8) :
    UInt8.ofNat (v / 64 % 64 + 128) :: UInt8.ofNat (v % 64 + 128) :: xs <
      UInt8.ofNat (w / 64 % 64 + 128) :: UInt8.ofNat (w % 64 + 128) :: ys :=
  cons_lt_cons_of_le (by omega) (by omega) fun _ => lastOctet_lt (by omega) hlt xs ys

/-- Whatever follows, a lower character has the lower octets. -/
theorem encodeChar_append_lt {c d : Char} (h : c < d) (xs ys : List UInt8) :
    String.utf8EncodeChar c ++ xs < String.utf8EncodeChar d ++ ys := by
  have hlt : c.val.toNat < d.val.toNat := h
  have hvalid : d.val.toNat < 0xD800 ∨ 0xDFFF < d.val.toNat ∧ d.val.toNat < 0x110000 := d.valid
  rw [String.utf8EncodeChar.eq_def c, String.utf8EncodeChar.eq_def d]
  dsimp only
  generalize c.val.toNat = v, d.val.toNat = w at hlt hvalid ⊢
  -- One case for each number of octets of the lower character. If the other one has more, the first
  -- octets tell; if it has as many, the highest digits in which the numbers differ.
  split
  · split
    · exact cons_lt_cons_of_lt (by omega) hlt _ _
    · split
      · exact cons_lt_cons_of_lt (by omega) (by omega) _ _
      · split <;> exact cons_lt_cons_of_lt (by omega) (by omega) _ _
  rw [if_neg (show ¬ w ≤ 127 by omega)]
  split
  · split
    · exact cons_lt_cons_of_le (by omega) (by omega) fun _ => lastOctet_lt (by omega) hlt xs ys
    · split <;> exact cons_lt_cons_of_lt (by omega) (by omega) _ _
  rw [if_neg (show ¬ w ≤ 2047 by omega)]
  split
  · split
    · exact cons_lt_cons_of_le (by omega) (by omega) fun _ => lastOctets_lt (by omega) hlt xs ys
    · exact cons_lt_cons_of_lt (by omega) (by omega) _ _
  · rw [if_neg (show ¬ w ≤ 65535 by omega)]
    refine cons_lt_cons_of_le (by omega) (by omega) fun _ => ?_
    exact cons_lt_cons_of_le (by omega) (by omega) fun _ => lastOctets_lt (by omega) hlt xs ys

theorem encode_lt_of_lt {s t : String} (h : s < t) : encode s < encode t := by
  unfold encode
  have hlist : s.toList < t.toList := String.lt_iff.1 h
  generalize s.toList = cs, t.toList = ds at hlist ⊢
  induction ds generalizing cs with
  | nil => exact absurd hlist (List.not_lt_nil cs)
  | cons d ds ih =>
    cases cs with
    | nil =>
      have hsome : String.utf8EncodeChar d ≠ [] := by
        rw [← List.length_pos_iff, String.length_utf8EncodeChar]
        exact d.utf8Size_pos
      obtain ⟨o, os, ho⟩ := List.exists_cons_of_ne_nil hsome
      rw [List.flatMap_nil, List.flatMap_cons, ho]
      exact List.nil_lt_cons o _
    | cons c cs =>
      rw [List.flatMap_cons, List.flatMap_cons]
      rcases List.cons_lt_cons_iff.1 hlist with hlt | ⟨rfl, hlt⟩
      · exact encodeChar_append_lt hlt _ _
      · exact List.append_left_lt (ih cs hlt)

/-- Texts are in the order of their octets. -/
theorem encode_lt_encode {s t : String} : encode s < encode t ↔ s < t := by
  refine ⟨fun h => ?_, encode_lt_of_lt⟩
  rcases Std.lt_trichotomy s t with hlt | rfl | hgt
  · exact hlt
  · exact absurd h (List.lt_irrefl _)
  · exact absurd (encode_lt_of_lt hgt) (List.lt_asymm h)

end PacketTelemetry.Text.Utf8
