/-
What a memory keeps, told of every sequence of packets and batches it is given.

A memory is known by its limit and the packets it has accepted (`Memory.holding`):
they are numbered from one on, the next number and the floor follow from how many
there are, and what is kept are the latest of them. Keeping one packet or a whole
batch leads from one such memory to another, so nothing else is ever reached.

What is let go lies between the old floor and the new one. Nothing below the old
floor is there any more, and a batch that is accepted reaches up to the limit at
most, so that none of its own packets is below the new floor.

Numbers are words of 64 bits. As long as they have not run out (`Memory.Room`)
computing with them is computing with numbers; where there is no limit nothing is
computed that could go wrong.
-/
import Mathlib.Data.List.Basic
import PacketTelemetry.Store.Memory

namespace PacketTelemetry.Memory

open Time

/-! ## Numbers -/

/-- The largest number a packet can have. -/
def maxNumber : Nat := Int64.maxValue.toInt.toNat

theorem maxNumber_eq : maxNumber = 9223372036854775807 := rfl

theorem toInt_ofNat {n : Nat} (h : n ≤ maxNumber) : (Int64.ofNat n).toInt = n := by
  rw [maxNumber_eq] at h
  exact Int64.toInt_ofNat_of_lt (by omega)

theorem ofNat_lt_ofNat {a b : Nat} (ha : a ≤ maxNumber) (hb : b ≤ maxNumber) :
    Int64.ofNat a < Int64.ofNat b ↔ a < b := by
  rw [Int64.lt_iff_toInt_lt, toInt_ofNat ha, toInt_ofNat hb, Int.ofNat_lt]

theorem ofNat_le_ofNat {a b : Nat} (ha : a ≤ maxNumber) (hb : b ≤ maxNumber) :
    Int64.ofNat a ≤ Int64.ofNat b ↔ a ≤ b := by
  rw [Int64.le_iff_toInt_le, toInt_ofNat ha, toInt_ofNat hb, Int.ofNat_le]

/-- Packets, each with the time it was received, as they are kept after `n` others. -/
def storedAfter (n : Nat) (given : List (Packet × Instant)) : List StoredPacket :=
  given.mapIdx fun i g => ⟨Int64.ofNat (n + i + 1), g.2, g.1⟩

section

variable (n : Nat) (given given' : List (Packet × Instant))

@[simp] theorem length_storedAfter : (storedAfter n given).length = given.length := by
  simp [storedAfter]

theorem storedAfter_append :
    storedAfter n (given ++ given') =
      storedAfter n given ++ storedAfter (n + given.length) given' := by
  simp only [storedAfter, List.mapIdx_append]
  congr 2
  funext i g
  rw [show n + given.length + i = n + (i + given.length) by omega]

theorem drop_storedAfter (k : Nat) :
    (storedAfter n given).drop k = storedAfter (n + k) (given.drop k) := by
  refine List.ext_getElem (by simp) fun i _ _ => ?_
  simp only [storedAfter, List.getElem_drop, List.getElem_mapIdx, Nat.add_assoc]

/-- Nothing of a packet is lost. -/
theorem storedAfter_given :
    (storedAfter n given).map (fun s => (s.packet, s.receivedAt)) = given :=
  List.ext_getElem (by simp) (by simp [storedAfter])

theorem storedAfter_id {n : Nat} {given : List (Packet × Instant)}
    (hroom : n + given.length ≤ maxNumber) :
    (storedAfter n given).map (·.id.toInt) =
      (List.range' (n + 1) given.length).map fun i : Nat => (i : Int) := by
  refine List.ext_getElem (by simp) fun i hi _ => ?_
  have hi : i < given.length := by simpa using hi
  simp only [storedAfter, List.getElem_map, List.getElem_mapIdx, List.getElem_range']
  rw [toInt_ofNat (by omega)]
  omega

theorem mem_storedAfter {n : Nat} {given : List (Packet × Instant)} {s : StoredPacket}
    (hs : s ∈ storedAfter n given) : ∃ i, n < i ∧ i ≤ n + given.length ∧ s.id = Int64.ofNat i := by
  obtain ⟨i, hi, rfl⟩ := List.mem_mapIdx.1 hs
  exact ⟨n + i + 1, by omega, by omega, rfl⟩

end

/-! ## What is let go -/

section

variable (m : Memory)

@[simp] theorem dropRange_next (least bound : Int64) : (m.dropRange least bound).next = m.next := by
  unfold dropRange
  split <;> rfl

@[simp] theorem dropRange_limit (least bound : Int64) :
    (m.dropRange least bound).limit = m.limit := by
  unfold dropRange
  split <;> rfl

theorem dropRange_sublist (least bound : Int64) :
    (m.dropRange least bound).packets.Sublist m.packets := by
  unfold dropRange
  split
  · exact List.filter_sublist
  · exact .refl _

/-- What is still there lies outside the range. -/
theorem not_range_of_mem_dropRange {m : Memory} {least bound : Int64} {s : StoredPacket}
    (hs : s ∈ (m.dropRange least bound).packets) : ¬ (least ≤ s.id ∧ s.id < bound) := by
  rintro ⟨hlow, hhigh⟩
  unfold dropRange at hs
  rw [if_pos (Int64.lt_of_le_of_lt hlow hhigh)] at hs
  simpa [hlow, hhigh] using (List.mem_filter.1 hs).2

theorem raiseFloor_cases (newest : Int64) :
    (m.floor < m.floorFor newest ∧ m.raiseFloor newest =
        { m.dropRange m.floor (m.floorFor newest) with floor := m.floorFor newest }) ∨
      (m.floorFor newest ≤ m.floor ∧ m.raiseFloor newest = m) := by
  unfold raiseFloor
  dsimp only
  split
  · next hlt => exact .inl ⟨hlt, rfl⟩
  · next hle => exact .inr ⟨Int64.not_lt.1 hle, rfl⟩

/-- The floor is where it has to be, or above. -/
theorem floorFor_le_raiseFloor (newest : Int64) :
    m.floorFor newest ≤ (m.raiseFloor newest).floor := by
  rcases m.raiseFloor_cases newest with ⟨-, h⟩ | ⟨hle, h⟩ <;> rw [h]
  · exact Int64.le_refl _
  · exact hle

@[simp] theorem enforceLimit_next (first newest : Int64) :
    (m.enforceLimit first newest).next = m.next := by
  unfold enforceLimit
  split
  · rfl
  · rcases m.raiseFloor_cases newest with ⟨-, h⟩ | ⟨-, h⟩ <;> simp [h]

@[simp] theorem enforceLimit_limit (first newest : Int64) :
    (m.enforceLimit first newest).limit = m.limit := by
  unfold enforceLimit
  split
  · rfl
  · rcases m.raiseFloor_cases newest with ⟨-, h⟩ | ⟨-, h⟩ <;> simp [h]

/-- Whatever the limit comes to, packets are let go, and nothing else happens to them. -/
theorem enforceLimit_sublist (first newest : Int64) :
    (m.enforceLimit first newest).packets.Sublist m.packets := by
  unfold enforceLimit
  split
  · exact .refl _
  · refine (dropRange_sublist _ _ _).trans ?_
    rcases m.raiseFloor_cases newest with ⟨-, h⟩ | ⟨-, h⟩
    · rw [h]
      exact m.dropRange_sublist _ _
    · rw [h]

end

theorem save_next (m : Memory) (received : Instant) (p : Packet) :
    (m.save received p).1.next = m.next + 1 :=
  enforceLimit_next _ _ _

/-- Packets of a batch that is kept are numbered on. -/
theorem saveAll_ok {m m' : Memory} {received : Nat → Instant} {ps : List Packet}
    {kept : List StoredPacket} (h : m.saveAll received ps = .ok (m', kept)) :
    kept = numbered m.next received ps ∧ m'.next = m.next + Int64.ofNat ps.length := by
  unfold saveAll at h
  split at h
  · next hempty =>
    obtain rfl : ps = [] := by simpa using hempty
    cases h
    exact ⟨rfl, (Int64.add_zero _).symm⟩
  · split at h
    · cases h
    · cases h
      exact ⟨rfl, enforceLimit_next _ _ _⟩

/-! ## The memory that packets lead to -/

/-- The least number that is kept under a limit after so many packets. -/
def lowest (limit n : Nat) : Nat := if limit = 0 then 1 else n - limit + 1

theorem lowest_pos (limit n : Nat) : 0 < lowest limit n := by
  unfold lowest
  split <;> omega

theorem lowest_le (limit n : Nat) : lowest limit n ≤ max 1 n := by
  unfold lowest
  split <;> omega

/-- The memory of a limit, after the packets it has accepted. -/
def holding (limit : Nat) (given : List (Packet × Instant)) : Memory where
  packets := ((storedAfter 0 given).drop (lowest limit given.length - 1)).reverse
  next := Int64.ofNat (given.length + 1)
  floor := Int64.ofNat (lowest limit given.length)
  limit := limit

/-- There are numbers for so many packets, or there is no limit to compute with. -/
def Room (limit n : Nat) : Prop := limit = 0 ∨ limit ≤ maxNumber ∧ n ≤ maxNumber

theorem new_eq (limit : Nat) : new limit = holding limit [] := by
  unfold holding lowest
  split <;> simp_all [new, storedAfter]

theorem Room.mono {limit n n' : Nat} (h : Room limit n) (hn : n' ≤ n) : Room limit n' := by
  rcases h with h | ⟨hlimit, h⟩
  · exact .inl h
  · exact .inr ⟨hlimit, by omega⟩

/-- What is let go lies between two floors. -/
theorem dropRange_packets {m : Memory} {lo hi : Nat} {given : List (Packet × Instant)}
    (hroom : given.length ≤ maxNumber) (hlo : 0 < lo) (hlt : lo < hi) (hhi : hi ≤ given.length)
    (hm : m.packets = ((storedAfter 0 given).drop (lo - 1)).reverse) :
    m.dropRange (Int64.ofNat lo) (Int64.ofNat hi) =
      { m with packets := ((storedAfter 0 given).drop (hi - 1)).reverse } := by
  have hsplit : (storedAfter 0 given).drop (lo - 1) =
      storedAfter (lo - 1) ((given.drop (lo - 1)).take (hi - lo)) ++
        (storedAfter 0 given).drop (hi - 1) := by
    have hlength : ((given.drop (lo - 1)).take (hi - lo)).length = hi - lo := by
      rw [List.length_take, List.length_drop]
      omega
    conv_lhs => rw [drop_storedAfter, ← List.take_append_drop (hi - lo) (given.drop (lo - 1))]
    rw [storedAfter_append, drop_storedAfter, List.drop_drop, hlength, Nat.zero_add, Nat.zero_add,
      show lo - 1 + (hi - lo) = hi - 1 by omega]
  have hgone : (storedAfter (lo - 1) ((given.drop (lo - 1)).take (hi - lo))).filter
      (fun s => !(Int64.ofNat lo ≤ s.id && s.id < Int64.ofNat hi)) = [] := by
    refine List.filter_eq_nil_iff.2 fun s hs => ?_
    obtain ⟨i, hlow, hhigh, hid⟩ := mem_storedAfter hs
    rw [List.length_take] at hhigh
    have hleft : Int64.ofNat lo ≤ s.id := hid ▸ (ofNat_le_ofNat (by omega) (by omega)).2 (by omega)
    have hright : s.id < Int64.ofNat hi := hid ▸ (ofNat_lt_ofNat (by omega) (by omega)).2 (by omega)
    simp [hleft, hright]
  have hstay : ((storedAfter 0 given).drop (hi - 1)).filter
      (fun s => !(Int64.ofNat lo ≤ s.id && s.id < Int64.ofNat hi)) =
        (storedAfter 0 given).drop (hi - 1) := by
    refine List.filter_eq_self.2 fun s hs => ?_
    rw [drop_storedAfter] at hs
    obtain ⟨i, hlow, hhigh, hid⟩ := mem_storedAfter hs
    rw [List.length_drop] at hhigh
    have hright : ¬ s.id < Int64.ofNat hi := by
      rw [hid, ofNat_lt_ofNat (by omega) (by omega)]
      omega
    simp [hright]
  unfold dropRange
  rw [if_pos ((ofNat_lt_ofNat (by omega) (by omega)).2 hlt), hm, hsplit, List.filter_reverse,
    List.filter_append, hgone, hstay, List.nil_append]

theorem dropRange_of_le {m : Memory} {least bound : Int64} (h : bound ≤ least) :
    m.dropRange least bound = m := by
  unfold dropRange
  rw [if_neg (Int64.not_lt.2 h)]

/-- The floor that is asked for, as long as the limit and the number are numbers. -/
theorem toInt_floorFor {m : Memory} {n : Nat} (hlimit : m.limit ≤ maxNumber) (hn : n ≤ maxNumber)
    (hpos : 0 < n) (hlpos : 0 < m.limit) :
    (m.floorFor (Int64.ofNat n)).toInt = (n : Int) - m.limit + 1 := by
  have hone : (1 : Int64).toInt = 1 := rfl
  unfold floorFor
  rw [Int64.toInt_add, Int64.toInt_sub, toInt_ofNat hn, toInt_ofNat hlimit, hone]
  rw [maxNumber_eq] at hn hlimit
  rw [Int.bmod_eq_of_le (n := (n : Int) - m.limit) (by omega) (by omega)]
  exact Int.bmod_eq_of_le (by omega) (by omega)

/-! ## Keeping packets -/

/-- A memory that has taken packets in, and not yet let go of any. -/
def received (limit : Nat) (given more : List (Packet × Instant)) : Memory :=
  { holding limit given with
    packets := (storedAfter given.length more).reverse ++ (holding limit given).packets
    next := Int64.ofNat ((given ++ more).length + 1) }

theorem received_packets (limit : Nat) (given more : List (Packet × Instant)) :
    (received limit given more).packets =
      ((storedAfter 0 (given ++ more)).drop (lowest limit given.length - 1)).reverse := by
  have hle : lowest limit given.length - 1 ≤ (storedAfter 0 given).length := by
    rw [length_storedAfter]
    unfold lowest
    split <;> omega
  rw [storedAfter_append, List.drop_append_of_le_length hle, List.reverse_append, Nat.zero_add]
  rfl

/-- The floor rises to where it has to be, and what is below it goes. -/
theorem raiseFloor_received {limit : Nat} (hlpos : 0 < limit) (hlimit : limit ≤ maxNumber)
    {given more : List (Packet × Instant)} (hmore : more ≠ [])
    (hroom : (given ++ more).length ≤ maxNumber) :
    (received limit given more).raiseFloor (Int64.ofNat (given ++ more).length) =
      holding limit (given ++ more) := by
  have hpos : 0 < more.length := List.length_pos_iff.2 hmore
  have hlen : (given ++ more).length = given.length + more.length := List.length_append
  have hfloorFor := toInt_floorFor (m := received limit given more) hlimit hroom (by omega) hlpos
  have hlowest : lowest limit given.length = given.length - limit + 1 := if_neg (by omega)
  have hlowest' : lowest limit (given ++ more).length = (given ++ more).length - limit + 1 :=
    if_neg (by omega)
  have hfloor : (received limit given more).floor.toInt = lowest limit given.length :=
    toInt_ofNat (by omega)
  have hmlimit : (received limit given more).limit = limit := rfl
  unfold raiseFloor
  dsimp only
  split
  · next hlt =>
    rw [Int64.lt_iff_toInt_lt, hfloor, hfloorFor, hmlimit] at hlt
    have hraised : (received limit given more).floorFor (Int64.ofNat (given ++ more).length) =
        Int64.ofNat (lowest limit (given ++ more).length) := by
      rw [← Int64.toInt_inj, hfloorFor, toInt_ofNat (by omega), hmlimit]
      omega
    rw [hraised, show (received limit given more).floor = Int64.ofNat (lowest limit given.length) from rfl,
      dropRange_packets hroom (by omega) (by omega) (by omega) (received_packets limit given more)]
    rfl
  · next hle =>
    rw [Int64.lt_iff_toInt_lt, hfloor, hfloorFor, hmlimit] at hle
    have hsame : lowest limit (given ++ more).length = lowest limit given.length := by omega
    have hpackets := received_packets limit given more
    unfold holding
    rw [hsame, ← hpackets]
    rfl

/-- Once the floor has risen none of the packets that came in is below it, unless they are more
than the limit. -/
theorem enforceLimit_received {limit : Nat} {given more : List (Packet × Instant)}
    (hmore : more ≠ []) (hfit : limit = 0 ∨ more.length ≤ limit)
    (hroom : Room limit (given ++ more).length) :
    (received limit given more).enforceLimit (Int64.ofNat (given.length + 1))
        (Int64.ofNat (given ++ more).length) =
      holding limit (given ++ more) := by
  unfold enforceLimit
  split
  · next hzero =>
    obtain rfl : limit = 0 := hzero
    have hpackets := received_packets 0 given more
    unfold holding
    rw [show lowest 0 (given ++ more).length = lowest 0 given.length from rfl, ← hpackets]
    rfl
  · next hne =>
    have hne : limit ≠ 0 := hne
    obtain ⟨hlimit, hroom⟩ := hroom.resolve_left hne
    have hfit := hfit.resolve_left hne
    have hlen : (given ++ more).length = given.length + more.length := List.length_append
    have hpos : 0 < more.length := List.length_pos_iff.2 hmore
    have hlowest : lowest limit (given ++ more).length = (given ++ more).length - limit + 1 := if_neg hne
    have hfloor : (holding limit (given ++ more)).floor ≤ Int64.ofNat (given.length + 1) :=
      (ofNat_le_ofNat (by omega) (by omega)).2 (by omega)
    rw [raiseFloor_received (by omega) hlimit hmore hroom]
    refine dropRange_of_le ?_
    split
    · exact hfloor
    · next hle => exact Int64.le_trans (Int64.not_lt.1 hle) hfloor

/-- One packet more is kept under the next number. -/
theorem save_holding {limit : Nat} {given : List (Packet × Instant)}
    (hroom : Room limit (given.length + 1)) (time : Instant) (p : Packet) :
    (holding limit given).save time p =
      (holding limit (given ++ [(p, time)]), ⟨Int64.ofNat (given.length + 1), time, p⟩) := by
  have hfit : limit = 0 ∨ [(p, time)].length ≤ limit := by
    rw [List.length_singleton]
    omega
  have hlen : (given ++ [(p, time)]).length = given.length + 1 := List.length_append
  have hkept := enforceLimit_received (by simp) hfit (hlen ▸ hroom)
  have hreceived : { holding limit given with
      packets := ⟨Int64.ofNat (given.length + 1), time, p⟩ :: (holding limit given).packets
      next := Int64.ofNat (given.length + 1) + 1 } = received limit given [(p, time)] := by
    unfold received
    rw [hlen, Int64.ofNat_add (given.length + 1) 1]
    rfl
  rw [hlen, ← hreceived] at hkept
  unfold save
  rw [← hkept]
  rfl

theorem numbered_eq (n : Nat) (time : Nat → Instant) (ps : List Packet) :
    numbered (Int64.ofNat (n + 1)) time ps =
      storedAfter n (ps.mapIdx fun i p => (p, time i)) := by
  simp only [numbered, storedAfter, List.mapIdx_mapIdx]
  congr 1
  funext i p
  rw [← Int64.ofNat_add, Nat.add_right_comm]
  rfl

/-- A batch that fits is kept as a whole under the next numbers. -/
theorem saveAll_holding {limit : Nat} {given : List (Packet × Instant)} {ps : List Packet}
    (hroom : Room limit (given.length + ps.length)) (hfit : limit = 0 ∨ ps.length ≤ limit)
    (time : Nat → Instant) :
    (holding limit given).saveAll time ps =
      .ok (holding limit (given ++ ps.mapIdx fun i p => (p, time i)),
        storedAfter given.length (ps.mapIdx fun i p => (p, time i))) := by
  have hlen : (given ++ ps.mapIdx fun i p => (p, time i)).length = given.length + ps.length := by
    rw [List.length_append, List.length_mapIdx]
  unfold saveAll
  split
  · next hempty =>
    obtain rfl : ps = [] := by simpa using hempty
    simp [storedAfter]
  split
  · next hover =>
    have hover : 0 < limit ∧ limit < ps.length := hover
    omega
  next hempty _ =>
  have hmore : (ps.mapIdx fun i p => (p, time i)) ≠ [] := by simpa using hempty
  have hkept := enforceLimit_received hmore (by rwa [List.length_mapIdx]) (hlen ▸ hroom)
  have hnext : (holding limit given).next + Int64.ofNat ps.length =
      Int64.ofNat (given.length + ps.length + 1) := by
    show Int64.ofNat (given.length + 1) + Int64.ofNat ps.length = _
    rw [← Int64.ofNat_add, Nat.add_right_comm]
  have hnewest : Int64.ofNat (given.length + ps.length + 1) - 1 =
      Int64.ofNat (given.length + ps.length) := by
    rw [Int64.ofNat_add (given.length + ps.length) 1]
    exact Int64.add_sub_cancel _ _
  rw [hlen] at hkept
  rw [← hkept]
  simp only [hnext, hnewest]
  rw [show (holding limit given).next = Int64.ofNat (given.length + 1) from rfl, numbered_eq]
  unfold received
  rw [hlen]

/-- A batch longer than the limit is refused. -/
theorem saveAll_over {m : Memory} {ps : List Packet} (hlimit : 0 < m.limit)
    (hover : m.limit < ps.length) (time : Nat → Instant) :
    m.saveAll time ps = .error (.overLimit ps.length m.limit) := by
  have hne : ps.isEmpty = false := by
    cases ps with
    | nil => simp at hover
    | cons p ps => rfl
  simp [saveAll, hne, hlimit, hover]

/-! ## Runs -/

/-- What a memory is asked to keep. -/
inductive Saving where
  | one (time : Instant) (p : Packet)
  | batch (time : Nat → Instant) (ps : List Packet)

/-- The packets a memory is asked to keep, each with the time it was received. -/
def Saving.given : Saving → List (Packet × Instant)
  | .one time p => [(p, time)]
  | .batch time ps => ps.mapIdx fun i p => (p, time i)

/-- Whether as many packets may be kept at all. -/
def Saving.fits (limit : Nat) (call : Saving) : Bool := limit = 0 || call.given.length ≤ limit

/-- A memory is asked to keep packets, and gives them back as it keeps them. -/
def perform (m : Memory) : Saving → Memory × Except StoreError (List StoredPacket)
  | .one time p => ((m.save time p).1, .ok [(m.save time p).2])
  | .batch time ps =>
    match m.saveAll time ps with
    | .ok (m, kept) => (m, .ok kept)
    | .error e => (m, .error e)

/-- A memory is asked again and again. -/
def performAll (m : Memory) : List Saving → Memory × List (Except StoreError (List StoredPacket))
  | [] => (m, [])
  | call :: calls =>
    (((m.perform call).1.performAll calls).1,
      (m.perform call).2 :: ((m.perform call).1.performAll calls).2)

@[simp] theorem perform_limit (m : Memory) (call : Saving) : (m.perform call).1.limit = m.limit := by
  cases call with
  | one time p => exact enforceLimit_limit _ _ _
  | batch time ps =>
    simp only [perform]
    cases h : m.saveAll time ps with
    | error e => rfl
    | ok r =>
      unfold saveAll at h
      split at h
      · cases h
        rfl
      · split at h
        · cases h
        · cases h
          exact enforceLimit_limit _ _ _

@[simp] theorem performAll_limit (m : Memory) (calls : List Saving) :
    (m.performAll calls).1.limit = m.limit := by
  induction calls generalizing m with
  | nil => rfl
  | cons call calls ih => rw [performAll, ih, perform_limit]

/-- The packets a memory accepts, in order. -/
def accepted (limit : Nat) (calls : List Saving) : List (Packet × Instant) :=
  (calls.filter (·.fits limit)).flatMap (·.given)

theorem accepted_cons_of_fits {limit : Nat} {call : Saving} (hfits : call.fits limit = true)
    (calls : List Saving) :
    accepted limit (call :: calls) = call.given ++ accepted limit calls := by
  simp [accepted, hfits]

theorem accepted_cons_of_not_fits {limit : Nat} {call : Saving} (hfits : call.fits limit = false)
    (calls : List Saving) : accepted limit (call :: calls) = accepted limit calls := by
  simp [accepted, hfits]

/-- What is to be answered after `n` packets: those asked to be kept, numbered on, or that they are
too many. -/
def answers (limit n : Nat) : List Saving → List (Except StoreError (List StoredPacket))
  | [] => []
  | call :: calls =>
    if call.fits limit then .ok (storedAfter n call.given) ::
      answers limit (n + call.given.length) calls
    else .error (.overLimit call.given.length limit) :: answers limit n calls

/-- Packets that fit are kept. -/
theorem perform_of_fits {limit : Nat} {given : List (Packet × Instant)} {call : Saving}
    (hfits : call.fits limit = true) (hroom : Room limit (given.length + call.given.length)) :
    (holding limit given).perform call =
      (holding limit (given ++ call.given), .ok (storedAfter given.length call.given)) := by
  cases call with
  | one time p => rw [perform, save_holding hroom]; rfl
  | batch time ps =>
    have hfit : limit = 0 ∨ ps.length ≤ limit := by
      simpa [Saving.fits, Saving.given] using hfits
    have hroom : Room limit (given.length + ps.length) := by
      simpa [Saving.given] using hroom
    rw [perform, saveAll_holding hroom hfit]
    rfl

/-- Packets that do not fit change nothing. -/
theorem perform_of_not_fits {m : Memory} {call : Saving} (hfits : call.fits m.limit = false) :
    m.perform call = (m, .error (.overLimit call.given.length m.limit)) := by
  have hover : m.limit ≠ 0 ∧ m.limit < call.given.length := by
    simpa [Saving.fits] using hfits
  cases call with
  | one time p =>
    have hone : m.limit < 1 := hover.2
    omega
  | batch time ps =>
    simp only [Saving.given, List.length_mapIdx] at hover ⊢
    rw [perform, saveAll_over (by omega) hover.2]

/-- What a memory comes to, and what it answers, when it is asked again and again. -/
theorem performAll_holding {limit : Nat} {given : List (Packet × Instant)} {calls : List Saving}
    (hroom : Room limit (given.length + (accepted limit calls).length)) :
    (holding limit given).performAll calls =
      (holding limit (given ++ accepted limit calls), answers limit given.length calls) := by
  induction calls generalizing given with
  | nil => simp [performAll, answers, accepted]
  | cons call calls ih =>
    cases hfits : call.fits limit with
    | true =>
      have haccepted := accepted_cons_of_fits hfits calls
      rw [haccepted, List.length_append, ← Nat.add_assoc] at hroom
      have hfirst := perform_of_fits hfits (hroom.mono (Nat.le_add_right _ _))
      rw [← List.length_append] at hroom
      simp only [performAll, answers, hfirst, ih hroom, hfits, if_true, haccepted,
        List.append_assoc, List.length_append]
    | false =>
      have haccepted := accepted_cons_of_not_fits hfits calls
      rw [haccepted] at hroom
      have hfirst : (holding limit given).perform call =
          (holding limit given, .error (.overLimit call.given.length limit)) :=
        perform_of_not_fits hfits
      simp only [performAll, answers, hfirst, ih hroom, hfits, Bool.false_eq_true, if_false,
        haccepted]

/-- What is given back, where packets were kept. -/
def returned : Except StoreError (List StoredPacket) → List StoredPacket
  | .ok kept => kept
  | .error _ => []

theorem returned_answers (limit n : Nat) (calls : List Saving) :
    (answers limit n calls).flatMap returned = storedAfter n (accepted limit calls) := by
  induction calls generalizing n with
  | nil => rfl
  | cons call calls ih =>
    cases hfits : call.fits limit with
    | true =>
      simp [answers, hfits, ih, returned, accepted, storedAfter_append]
    | false => simp [answers, hfits, ih, returned, accepted]

/-- What is answered when packets are asked to be kept: they are refused if they are more than the
limit, and otherwise given back as they are. -/
def Answered (limit : Nat) (call : Saving) (answer : Except StoreError (List StoredPacket)) : Prop :=
  if 0 < limit ∧ limit < call.given.length then
    answer = .error (.overLimit call.given.length limit)
  else ∃ kept, answer = .ok kept ∧ kept.map (fun s => (s.packet, s.receivedAt)) = call.given

theorem answered_answers (limit n : Nat) (calls : List Saving) :
    List.Forall₂ (Answered limit) calls (answers limit n calls) := by
  induction calls generalizing n with
  | nil => exact .nil
  | cons call calls ih =>
    unfold answers
    split
    · next hfits =>
      have hfit : limit = 0 ∨ call.given.length ≤ limit := by simpa [Saving.fits] using hfits
      refine .cons ?_ (ih _)
      unfold Answered
      rw [if_neg (by omega)]
      exact ⟨_, rfl, storedAfter_given _ _⟩
    · next hfits =>
      have hover : limit ≠ 0 ∧ limit < call.given.length := by simpa [Saving.fits] using hfits
      refine .cons ?_ (ih _)
      unfold Answered
      rw [if_pos (by omega)]

/-- **Retention.** A memory is asked to keep packets and batches, and `n` packets are accepted. They
are given back under the numbers from one to `n`, in order. A batch is refused if and only if there
is a limit and the batch is longer; that uses no numbers. What is kept after that are the packets
from the lowest number up that the limit allows, as they were given back; that number is the floor,
and the next one to be given is `n + 1`. -/
theorem performAll_retention {limit n : Nat} (hlimit : limit ≤ maxNumber) (calls : List Saving)
    (hn : n = (accepted limit calls).length) (hfew : n ≤ maxNumber) {m : Memory}
    {results : List (Except StoreError (List StoredPacket))}
    (hrun : (new limit).performAll calls = (m, results)) {saved : List StoredPacket}
    (hsaved : saved = results.flatMap returned) :
    List.Forall₂ (Answered limit) calls results ∧
    saved.map (fun s => (s.packet, s.receivedAt)) = accepted limit calls ∧
    saved.map (·.id.toInt) = (List.range' 1 n).map (fun i : Nat => (i : Int)) ∧
    m.packets = (saved.drop (lowest limit n - 1)).reverse ∧
    m.packets.reverse.map (·.id.toInt) =
      (List.range' (lowest limit n) (n + 1 - lowest limit n)).map (fun i : Nat => (i : Int)) ∧
    m.count = n + 1 - lowest limit n ∧
    m.next = Int64.ofNat (n + 1) ∧
    m.floor.toInt = lowest limit n := by
  have hroom : Room limit (([] : List (Packet × Instant)).length + (accepted limit calls).length) :=
    .inr ⟨hlimit, by simpa [← hn] using hfew⟩
  rw [new_eq, performAll_holding hroom, List.nil_append, Prod.mk.injEq] at hrun
  obtain ⟨rfl, rfl⟩ := hrun
  subst hn
  rw [returned_answers] at hsaved
  subst hsaved
  have hpos : 0 < lowest limit (accepted limit calls).length := lowest_pos _ _
  have hle : lowest limit (accepted limit calls).length ≤ max 1 (accepted limit calls).length :=
    lowest_le _ _
  have hkept : (holding limit (accepted limit calls)).packets.reverse =
      storedAfter (lowest limit (accepted limit calls).length - 1)
        ((accepted limit calls).drop (lowest limit (accepted limit calls).length - 1)) := by
    rw [holding, List.reverse_reverse, drop_storedAfter, Nat.zero_add]
  have hlength : ((accepted limit calls).drop
      (lowest limit (accepted limit calls).length - 1)).length =
        (accepted limit calls).length + 1 - lowest limit (accepted limit calls).length := by
    rw [List.length_drop]
    omega
  refine ⟨answered_answers _ _ _, storedAfter_given _ _, storedAfter_id (by simpa using hfew), rfl,
    ?_, ?_, rfl, ?_⟩
  · rw [hkept, storedAfter_id (by omega), hlength, Nat.sub_add_cancel hpos]
  · rw [count, ← List.length_reverse, hkept, length_storedAfter, hlength]
  · refine toInt_ofNat ?_
    rw [maxNumber_eq] at hfew ⊢
    omega

/-- Two packets may be kept: one is, then two, a batch of three is refused, and one more is kept. -/
theorem performAll_retention_of_two :
    ∃ m results,
      (new 2).performAll
        [.one ⟨7, 0⟩ .blank, .batch (fun i => ⟨i, 0⟩) [.blank, .blank],
          .batch (fun _ => ⟨0, 0⟩) [.blank, .blank, .blank], .one ⟨9, 0⟩ .blank] = (m, results) ∧
      m.packets = [⟨4, ⟨9, 0⟩, .blank⟩, ⟨3, ⟨1, 0⟩, .blank⟩] ∧ m.next = 5 ∧ m.floor.toInt = 3 := by
  refine ⟨_, _, rfl, ?_⟩
  obtain ⟨-, -, -, hpackets, -, -, hnext, hfloor⟩ := performAll_retention (n := 4)
    (show 2 ≤ maxNumber by decide) [.one ⟨7, 0⟩ .blank, .batch (fun i => ⟨i, 0⟩) [.blank, .blank],
      .batch (fun _ => ⟨0, 0⟩) [.blank, .blank, .blank], .one ⟨9, 0⟩ .blank] rfl (by decide) rfl rfl
  refine ⟨hpackets.trans ?_, hnext, hfloor⟩
  decide

end PacketTelemetry.Memory
