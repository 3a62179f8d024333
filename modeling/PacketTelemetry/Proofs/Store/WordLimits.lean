/-
What a limit comes to as a word of 64 bits: whether a memory still holds what it
has just given back as kept (`Memory.perform_acknowledged`).

A limit is counted without a sign, and the floor is computed with one. Up to the
largest number a packet can have the two agree, nothing that is computed runs
over, and the packets of a call are the latest by number right after it. A larger
limit is taken for a negative one. The floor it asks for lies above the newest
number, so that each packet is let go by the very call that has kept it.
-/
import PacketTelemetry.Proofs.Store.Retention

namespace PacketTelemetry.Memory

open Time

/-! ## Words -/

/-- What is computed to raise the floor comes to what it would come to with numbers. -/
structure ExactFloor (m : Memory) (newest : Int64) : Prop where
  limit : (Int64.ofNat m.limit).toInt = m.limit
  difference : (newest - Int64.ofNat m.limit).toInt = newest.toInt - m.limit
  floor : (m.floorFor newest).toInt = newest.toInt - m.limit + 1
  bound : (newest + 1).toInt = newest.toInt + 1

theorem exactFloor_of_le {m : Memory} {n : Nat} (hlpos : 0 < m.limit) (hlimit : m.limit ≤ maxNumber)
    (hpos : 0 < n) (hn : n < maxNumber) : ExactFloor m (Int64.ofNat n) := by
  have hnewest : (Int64.ofNat n).toInt = n := toInt_ofNat (by omega)
  refine ⟨toInt_ofNat hlimit, ?_, ?_, ?_⟩
  · rw [Int64.toInt_sub, hnewest, toInt_ofNat hlimit]
    rw [maxNumber_eq] at hn hlimit
    exact Int.bmod_eq_of_le (by omega) (by omega)
  · rw [hnewest]
    exact toInt_floorFor hlimit (by omega) hpos hlpos
  · have hnext : Int64.ofNat n + 1 = Int64.ofNat (n + 1) := (Int64.ofNat_add n 1).symm
    rw [hnext, toInt_ofNat hn, hnewest]
    rfl

/-- A limit above all numbers is taken for a negative one. -/
theorem toInt_ofNat_over {n : Nat} (hover : maxNumber < n) (hword : n < UInt64.size) :
    (Int64.ofNat n).toInt = (n : Int) - UInt64.size := by
  have hsize : UInt64.size = 18446744073709551616 := rfl
  have hwords : Int64.size = 18446744073709551616 := rfl
  rw [Int64.toInt_ofNat', Int.bmod_def, hwords]
  rw [maxNumber_eq] at hover
  omega

/-- The floor it asks for lies above the newest number. -/
theorem toInt_floorFor_over {m : Memory} {n : Nat} (hover : maxNumber < m.limit)
    (hword : m.limit < UInt64.size) (hroom : n + (UInt64.size - m.limit) < maxNumber) :
    (m.floorFor (Int64.ofNat n)).toInt = (n : Int) + (UInt64.size - m.limit : Nat) + 1 := by
  have hsize : UInt64.size = 18446744073709551616 := rfl
  have hone : (1 : Int64).toInt = 1 := rfl
  unfold floorFor
  rw [Int64.toInt_add, Int64.toInt_sub, toInt_ofNat (by omega), toInt_ofNat_over hover hword, hone]
  rw [maxNumber_eq] at hover hroom
  rw [Int.bmod_eq_of_le (n := (n : Int) - _) (by omega) (by omega)]
  rw [Int.bmod_eq_of_le (by omega) (by omega)]
  omega

/-! ## Within numbers -/

/-- Where the latest stand first they are found by number as they stand. -/
theorem latestById_of_descending {m : Memory} (h : m.packets.Pairwise fun a b => b.id ≤ a.id)
    (n : Nat) : m.latestById n = m.packets.take n := by
  unfold latestById
  rw [List.mergeSort_of_pairwise]
  exact h.imp fun hle => decide_eq_true hle

theorem storedAfter_ascending {given : List (Packet × Instant)} (hroom : given.length ≤ maxNumber) :
    (storedAfter 0 given).Pairwise fun a b => a.id ≤ b.id := by
  have hids : ((storedAfter 0 given).map (·.id.toInt)).Pairwise (· < ·) := by
    rw [storedAfter_id (by omega), List.pairwise_map]
    exact List.Pairwise.imp (fun hlt => Int.ofNat_lt.2 hlt) (List.pairwise_lt_range' _)
  refine (List.pairwise_map.1 hids).imp fun hlt => ?_
  exact Int64.le_iff_toInt_le.2 (Int.le_of_lt hlt)

/-- The packets that came last are the latest by number, unless they are more than the limit. -/
theorem latestById_holding {limit : Nat} {given more : List (Packet × Instant)}
    (hroom : (given ++ more).length ≤ maxNumber) (hfit : limit = 0 ∨ more.length ≤ limit) :
    (holding limit (given ++ more)).latestById more.length =
      (storedAfter given.length more).reverse := by
  have hlen : (given ++ more).length = given.length + more.length := List.length_append
  have hlowest : lowest limit (given ++ more).length - 1 ≤ given.length := by
    unfold lowest
    split <;> omega
  rw [latestById_of_descending]
  · rw [holding, List.take_reverse, List.length_drop, List.drop_drop, length_storedAfter,
      show lowest limit (given ++ more).length - 1 +
        ((given ++ more).length - (lowest limit (given ++ more).length - 1) - more.length) =
          given.length by omega,
      drop_storedAfter, List.drop_left, Nat.zero_add]
  · rw [holding, List.pairwise_reverse]
    exact (storedAfter_ascending hroom).sublist (List.drop_sublist _ _)

theorem getLast_storedAfter {n : Nat} {given : List (Packet × Instant)}
    (hne : storedAfter n given ≠ []) :
    ((storedAfter n given).getLast hne).id = Int64.ofNat (n + given.length) := by
  have hpos : 0 < given.length := by
    rw [← length_storedAfter n given]
    exact List.length_pos_iff.2 hne
  simp only [List.getLast_eq_getElem, storedAfter, List.getElem_mapIdx, List.length_mapIdx]
  congr 1
  omega

/-! ## Beyond -/

/-- A memory that has given out `n` numbers and holds nothing. -/
structure Drained (limit n : Nat) (m : Memory) : Prop where
  limit : m.limit = limit
  next : m.next = Int64.ofNat (n + 1)
  packets : m.packets = []

theorem Drained.new (limit : Nat) : Drained limit 0 (new limit) := ⟨rfl, rfl, rfl⟩

/-- Packets up to the newest number go as soon as the floor lies above it. -/
theorem enforceLimit_over {m : Memory} {first newest : Nat} (hover : maxNumber < m.limit)
    (hword : m.limit < UInt64.size) (hroom : newest + (UInt64.size - m.limit) < maxNumber)
    (hids : ∀ s ∈ m.packets, ∃ i, first ≤ i ∧ i ≤ newest ∧ s.id = Int64.ofNat i) :
    (m.enforceLimit (Int64.ofNat first) (Int64.ofNat newest)).packets = [] := by
  have hnext : Int64.ofNat newest + 1 = Int64.ofNat (newest + 1) := (Int64.ofNat_add _ 1).symm
  have hfloor : ¬ (m.raiseFloor (Int64.ofNat newest)).floor < Int64.ofNat newest + 1 := by
    refine Int64.not_lt.2 (Int64.le_trans ?_ (m.floorFor_le_raiseFloor _))
    rw [Int64.le_iff_toInt_le, toInt_floorFor_over hover hword hroom, hnext,
      toInt_ofNat (by omega)]
    omega
  refine List.eq_nil_iff_forall_not_mem.2 fun s hs => ?_
  obtain ⟨i, hlow, hhigh, hid⟩ := hids s ((m.enforceLimit_sublist _ _).subset hs)
  unfold enforceLimit at hs
  rw [if_neg (by omega)] at hs
  dsimp only at hs
  rw [if_neg hfloor] at hs
  refine not_range_of_mem_dropRange hs ⟨?_, ?_⟩
  · rw [hid, ofNat_le_ofNat (by omega) (by omega)]
    exact hlow
  · rw [hid, hnext, ofNat_lt_ofNat (by omega) (by omega)]
    omega

/-- Nothing of what is kept is held. -/
theorem Drained.perform {limit n : Nat} {m : Memory} (h : Drained limit n m)
    (hover : maxNumber < limit) (hword : limit < UInt64.size) (call : Saving)
    (hroom : n + call.given.length + (UInt64.size - limit) < maxNumber) :
    Drained limit (n + call.given.length) (m.perform call).1 := by
  obtain ⟨rfl, hnext, hpackets⟩ := h
  cases call with
  | one time p =>
    refine ⟨perform_limit _ _, ?_, ?_⟩
    · rw [Memory.perform, save_next, hnext]
      exact (Int64.ofNat_add (n + 1) 1).symm
    · simp only [Memory.perform, save, hnext, hpackets]
      refine enforceLimit_over hover hword hroom fun s hs => ?_
      rw [List.mem_singleton] at hs
      exact ⟨n + 1, Nat.le_refl _, Nat.le_refl _, by rw [hs]⟩
  | batch time ps =>
    have hlength : (Saving.batch time ps).given.length = ps.length := List.length_mapIdx
    rw [hlength] at hroom ⊢
    have hfits : ¬ (0 < m.limit ∧ m.limit < ps.length) := by omega
    have hnewest : m.next + Int64.ofNat ps.length - 1 = Int64.ofNat (n + ps.length) := by
      rw [hnext, ← Int64.ofNat_add, Nat.add_right_comm, Int64.ofNat_add (n + ps.length) 1]
      exact Int64.add_sub_cancel _ _
    simp only [Memory.perform, saveAll]
    by_cases hempty : ps.isEmpty = true
    · obtain rfl : ps = [] := by simpa using hempty
      exact ⟨rfl, hnext, hpackets⟩
    · rw [if_neg hempty, if_neg hfits]
      refine ⟨enforceLimit_limit _ _ _, ?_, ?_⟩
      · rw [enforceLimit_next, hnext, ← Int64.ofNat_add, Nat.add_right_comm]
      · dsimp only
        rw [hnewest, hnext, hpackets, List.append_nil, numbered_eq]
        refine enforceLimit_over hover hword hroom fun s hs => ?_
        obtain ⟨i, hlow, hhigh, hid⟩ := mem_storedAfter (List.mem_reverse.1 hs)
        rw [List.length_mapIdx] at hhigh
        exact ⟨i, hlow, hhigh, hid⟩

theorem Drained.performAll {limit n : Nat} {m : Memory} (h : Drained limit n m)
    (hover : maxNumber < limit) (hword : limit < UInt64.size) (calls : List Saving)
    (hroom : n + (accepted limit calls).length + (UInt64.size - limit) < maxNumber) :
    Drained limit (n + (accepted limit calls).length) (m.performAll calls).1 := by
  induction calls generalizing n m with
  | nil => exact h
  | cons call calls ih =>
    cases hfits : call.fits limit with
    | true =>
      have haccepted := accepted_cons_of_fits hfits calls
      rw [haccepted, List.length_append, ← Nat.add_assoc] at hroom ⊢
      exact ih (h.perform hover hword call (by omega)) hroom
    | false =>
      have haccepted := accepted_cons_of_not_fits hfits calls
      have hsame : m.perform call = (m, .error (.overLimit call.given.length m.limit)) :=
        perform_of_not_fits (h.limit ▸ hfits)
      rw [haccepted] at hroom ⊢
      rw [Memory.performAll, hsame]
      exact ih h hroom

/-! ## What has been acknowledged -/

theorem fits_of_perform {m m' : Memory} {call : Saving} {kept : List StoredPacket}
    (h : m.perform call = (m', .ok kept)) : call.fits m.limit = true := by
  by_contra hfits
  rw [perform_of_not_fits (Bool.eq_false_iff.2 hfits)] at h
  cases h

theorem accepted_snoc {limit : Nat} {calls : List Saving} {call : Saving}
    (hfits : call.fits limit = true) :
    accepted limit (calls ++ [call]) = accepted limit calls ++ call.given := by
  simp [accepted, hfits]

/-- The call that keeps packets finds the memory that the calls before it have led to. -/
theorem perform_after {limit : Nat} {calls : List Saving} {call : Saving}
    (hfits : call.fits limit = true)
    (hroom : Room limit (accepted limit (calls ++ [call])).length) :
    ((new limit).performAll calls).1.perform call =
      (holding limit (accepted limit calls ++ call.given),
        .ok (storedAfter (accepted limit calls).length call.given)) := by
  rw [accepted_snoc hfits, List.length_append] at hroom
  have hbefore : (holding limit []).performAll calls = (holding limit ([] ++ accepted limit calls), _) :=
    performAll_holding (hroom.mono (by simp))
  rw [new_eq, hbefore, List.nil_append]
  exact perform_of_fits hfits hroom

/-- **Acknowledged packets.** A memory has been asked to keep packets, any number of times and under
any limit that a word of 64 bits can count, and now gives back packets as kept, `n` being the last
number it has given out. If the limit is a number that a packet can have, nothing that is computed to
raise the floor runs over, and these packets are found as the latest by number, the last of them
first. If the limit is larger it is taken for a negative number. None of the packets is there then,
as long as the floor that this asks for is a number at all. -/
theorem perform_acknowledged {limit n : Nat} (hword : limit < UInt64.size) (calls : List Saving)
    (call : Saving) {m' : Memory} {kept : List StoredPacket}
    (hcall : ((new limit).performAll calls).1.perform call = (m', .ok kept)) (hne : kept ≠ [])
    (hn : n = (accepted limit (calls ++ [call])).length) :
    (limit ≤ maxNumber → n < maxNumber →
      m'.latestById kept.length = kept.reverse ∧ (kept.getLast hne).id = Int64.ofNat n ∧
        (limit ≠ 0 → m'.limit = limit ∧ ExactFloor m' (kept.getLast hne).id)) ∧
    (maxNumber < limit → (Int64.ofNat limit).toInt = (limit : Int) - UInt64.size ∧
      (n + (UInt64.size - limit) < maxNumber →
        m'.packets = [] ∧ m'.latestById kept.length = [])) := by
  have hlimit' : ((new limit).performAll calls).1.limit = limit := performAll_limit _ _
  have hfits : call.fits limit = true := hlimit' ▸ fits_of_perform hcall
  subst hn
  constructor
  · intro hlimit hfew
    have hkept := perform_after hfits (.inr ⟨hlimit, Nat.le_of_lt hfew⟩)
    rw [hcall, Prod.mk.injEq, Except.ok.injEq] at hkept
    obtain ⟨rfl, rfl⟩ := hkept
    have hfit : limit = 0 ∨ call.given.length ≤ limit := by simpa [Saving.fits] using hfits
    have hpos : 0 < call.given.length := by
      rw [← length_storedAfter (accepted limit calls).length call.given]
      exact List.length_pos_iff.2 hne
    rw [accepted_snoc hfits] at hfew ⊢
    have hlast := getLast_storedAfter hne
    rw [← List.length_append] at hlast
    refine ⟨?_, hlast, fun hne' => ⟨rfl, ?_⟩⟩
    · rw [length_storedAfter]
      exact latestById_holding (Nat.le_of_lt hfew) hfit
    · rw [hlast]
      refine exactFloor_of_le (Nat.pos_of_ne_zero hne') hlimit ?_ hfew
      rw [List.length_append]
      omega
  · intro hover
    refine ⟨toInt_ofNat_over hover hword, fun hroom => ?_⟩
    rw [accepted_snoc hfits, List.length_append] at hroom
    have hbefore := (Drained.new limit).performAll hover hword calls (by omega)
    rw [Nat.zero_add] at hbefore
    obtain ⟨-, -, hpackets⟩ := hbefore.perform hover hword call hroom
    rw [hcall] at hpackets
    refine ⟨hpackets, ?_⟩
    rw [latestById, hpackets, List.mergeSort_nil, List.take_nil]

/-- Under a limit of two the packet just kept, which is the third, is the latest. -/
theorem perform_acknowledged_of_two :
    ∃ m' s, ((new 2).performAll [.one ⟨7, 0⟩ .blank, .one ⟨8, 0⟩ .blank]).1.perform
        (.one ⟨9, 0⟩ .blank) = (m', .ok [s]) ∧ s.id = 3 ∧ m'.latestById 1 = [s] := by
  refine ⟨_, _, rfl, rfl, ?_⟩
  exact ((perform_acknowledged (n := 3) (show 2 < UInt64.size by decide)
    [.one ⟨7, 0⟩ .blank, .one ⟨8, 0⟩ .blank] (.one ⟨9, 0⟩ .blank) rfl (by simp) (by decide)).1
      (by decide) (by decide)).1

/-- Under the largest limit there is the very first packet is given back as kept, and is gone. -/
theorem acknowledged_packet_lost :
    ∃ m' s, (new 18446744073709551615).perform (.one ⟨0, 0⟩ .blank) = (m', .ok [s]) ∧
      m'.latestById 1 = [] ∧ (Int64.ofNat 18446744073709551615).toInt = -1 := by
  refine ⟨_, _, rfl, ?_, rfl⟩
  decide +kernel

end PacketTelemetry.Memory
