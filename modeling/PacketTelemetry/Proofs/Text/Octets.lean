/-
Texts as octets, and octets read as texts.

`encode` gives the octets of a text in UTF-8. No octet of one character is
taken for one of another, nor for a broken piece, so the octets of a text are
read as that text (`lossy_encode`).
-/
import PacketTelemetry.Text.Utf8

namespace PacketTelemetry.Text.Utf8

/-- The octets of a text. -/
def encode (s : String) : List UInt8 := s.toList.flatMap String.utf8EncodeChar

theorem encode_append (s s' : String) : encode (s ++ s') = encode s ++ encode s' := by
  rw [encode, String.toList_append, List.flatMap_append]
  rfl

/-- An octet that a character begun may go on with. -/
theorem step_of_within {p : Begun} {b : Nat} (hlow : p.low ≤ b) (hhigh : b ≤ p.high) :
    step (some p) b =
      if p.owed ≤ 1 then ([some (Char.ofNat (p.number * 64 + (b - 0x80)))], none)
      else ([], some ⟨p.owed - 1, 0x80, 0xBF, p.number * 64 + (b - 0x80)⟩) := by
  rw [step, if_pos ⟨hlow, hhigh⟩]

theorem decodeFrom_cons (at_ : Option Begun) {n : Nat} (hn : n < 256) (rest : List UInt8) :
    decodeFrom at_ (UInt8.ofNat n :: rest) = (step at_ n).1 ++ decodeFrom (step at_ n).2 rest := by
  have hoctet : (UInt8.ofNat n).toNat = n := UInt8.toNat_ofNat_of_lt' hn
  cases at_ <;> rw [decodeFrom, hoctet]

/-- The octets of a character are read as that character. -/
theorem decodeFrom_encodeChar (c : Char) (rest : List UInt8) :
    decodeFrom none (String.utf8EncodeChar c ++ rest) = some c :: decodeFrom none rest := by
  have hvalid : c.val.toNat < 0xD800 ∨ 0xDFFF < c.val.toNat ∧ c.val.toNat < 0x110000 := c.valid
  have hchar : ∀ n, n = c.val.toNat → Char.ofNat n = c := by
    rintro n rfl
    exact Char.ofNat_toNat c
  rw [String.utf8EncodeChar.eq_def]
  dsimp only
  generalize c.val.toNat = v at hvalid hchar ⊢
  -- One case for each number of octets. The arithmetic puts each octet into the range in which it
  -- is looked for, and the number together again.
  split
  · rw [List.cons_append, decodeFrom_cons none (by omega), step, start, if_pos (by omega),
      hchar v rfl]
    rfl
  split
  · rw [List.cons_append, List.cons_append, decodeFrom_cons none (by omega), step, start,
      if_neg (by omega), if_pos (by omega)]
    rw [List.nil_append, decodeFrom_cons _ (by omega),
      step_of_within (by dsimp only; omega) (by dsimp only; omega), if_pos (by dsimp only; omega),
      hchar _ (by dsimp only; omega)]
    rfl
  split
  · rw [List.cons_append, List.cons_append, List.cons_append, decodeFrom_cons none (by omega), step,
      start, if_neg (by omega), if_neg (by omega), if_pos (by omega)]
    rw [List.nil_append, decodeFrom_cons _ (by omega),
      step_of_within (by dsimp only; split <;> omega) (by dsimp only; split <;> omega),
      if_neg (by dsimp only; omega)]
    rw [List.nil_append, decodeFrom_cons _ (by omega),
      step_of_within (by dsimp only; omega) (by dsimp only; omega), if_pos (by dsimp only; omega),
      hchar _ (by dsimp only; omega)]
    rfl
  · rw [List.cons_append, List.cons_append, List.cons_append, List.cons_append,
      decodeFrom_cons none (by omega), step, start, if_neg (by omega), if_neg (by omega),
      if_neg (by omega), if_pos (by omega)]
    rw [List.nil_append, decodeFrom_cons _ (by omega),
      step_of_within (by dsimp only; split <;> omega) (by dsimp only; split <;> omega),
      if_neg (by dsimp only; omega)]
    rw [List.nil_append, decodeFrom_cons _ (by omega),
      step_of_within (by dsimp only; omega) (by dsimp only; omega), if_neg (by dsimp only; omega)]
    rw [List.nil_append, decodeFrom_cons _ (by omega),
      step_of_within (by dsimp only; omega) (by dsimp only; omega), if_pos (by dsimp only; omega),
      hchar _ (by dsimp only; omega)]
    rfl

theorem decode_encode (s : String) : decode (encode s) = s.toList.map some := by
  rw [decode, encode]
  induction s.toList with
  | nil => rfl
  | cons c cs ih => rw [List.flatMap_cons, decodeFrom_encodeChar, ih, List.map_cons]

/-- The octets of a text are read as that text. -/
theorem lossy_encode (s : String) : lossy (encode s) = s := by
  rw [lossy, decode_encode, List.map_map]
  exact (congrArg String.ofList (List.map_id _)).trans String.ofList_toList

/-! ## Line feeds -/

/-- An octet of a character is its number, or none of a number below 128. -/
theorem toNat_of_mem_encodeChar {c : Char} {b : UInt8} (h : b ∈ String.utf8EncodeChar c) :
    b.toNat = c.toNat ∨ 128 ≤ b.toNat := by
  have hoctet : ∀ {n}, n < 256 → b = UInt8.ofNat n → b.toNat = n := by
    rintro n hn rfl
    exact UInt8.toNat_ofNat_of_lt' hn
  rw [String.utf8EncodeChar.eq_def] at h
  show b.toNat = c.val.toNat ∨ _
  dsimp only at h
  generalize c.val.toNat = v at h ⊢
  split at h
  · exact .inl (hoctet (by omega) (List.mem_singleton.1 h))
  refine .inr ?_
  split at h
  · simp only [List.mem_cons, List.not_mem_nil, or_false] at h
    rcases h with h | h <;> rw [hoctet (by omega) h] <;> omega
  split at h
  · simp only [List.mem_cons, List.not_mem_nil, or_false] at h
    rcases h with h | h | h <;> rw [hoctet (by omega) h] <;> omega
  · simp only [List.mem_cons, List.not_mem_nil, or_false] at h
    rcases h with h | h | h | h <;> rw [hoctet (by omega) h] <;> omega

/-- The octet of a line feed stands for nothing else, on its own or as part of a character. -/
theorem count_encodeChar (c : Char) :
    (String.utf8EncodeChar c).count 10 = if c = '\n' then 1 else 0 := by
  split
  · next h =>
    subst h
    decide
  · next h =>
    refine List.count_eq_zero.2 fun hmem => ?_
    rcases toNat_of_mem_encodeChar hmem with hc | hc
    · exact h ((Char.ofNat_toNat c).symm.trans (congrArg Char.ofNat hc.symm))
    · exact absurd hc (by decide)

theorem count_encode (s : String) : (encode s).count 10 = s.toList.count '\n' := by
  rw [encode]
  induction s.toList with
  | nil => rfl
  | cons c cs ih =>
    rw [List.flatMap_cons, List.count_append, count_encodeChar, ih, List.count_cons, Nat.add_comm]
    simp only [beq_iff_eq]

end PacketTelemetry.Text.Utf8
