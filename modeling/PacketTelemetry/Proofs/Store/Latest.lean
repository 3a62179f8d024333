/-
The latest packets of a memory, by the time they were captured and by number
(`Memory.latest_exact`): which ones they are, and that nothing else counts, neither
the order in which the packets are held nor how they are sorted.

The comparisons order packets with different numbers completely (`Memory.Orders`).
Where that is so there is only one list of the first `n` of them (`Memory.First.unique`),
and to sort and cut off gives it. Numbers differ as long as not all words of 64 bits
have been given out, whatever the limit comes to: a memory holds part of what it
was given, under consecutive numbers (`Memory.Fed`).
-/
import Mathlib.Data.List.Nodup
import Mathlib.Data.List.Perm.Subperm
import PacketTelemetry.Proofs.Store.Retention
import PacketTelemetry.Proofs.Text.Order

namespace PacketTelemetry.Memory

open Time

/-! ## Orders -/

/-- Whether a time of capture is later than another: octet by octet, and none is before all. -/
def LaterTime : Option String → Option String → Prop
  | some x, some y => Text.Utf8.encode y < Text.Utf8.encode x
  | some _, none => True
  | none, _ => False

/-- The later time of capture first, and at one time the later number. -/
def CapturedLater (a b : StoredPacket) : Prop :=
  LaterTime a.packet.timestamp b.packet.timestamp ∨
    a.packet.timestamp = b.packet.timestamp ∧ b.id < a.id

/-- The later number first. -/
def KeptLater (a b : StoredPacket) : Prop := b.id < a.id

instance : (s t : Option String) → Decidable (LaterTime s t)
  | some _, some _ => inferInstanceAs (Decidable (_ < _))
  | some _, none => .isTrue trivial
  | none, _ => .isFalse id

instance (a b : StoredPacket) : Decidable (CapturedLater a b) := inferInstanceAs (Decidable (_ ∨ _))

instance (a b : StoredPacket) : Decidable (KeptLater a b) := inferInstanceAs (Decidable (_ < _))

theorem LaterTime.trans {s t u : Option String} (hst : LaterTime s t) (htu : LaterTime t u) :
    LaterTime s u := by
  cases s with
  | none => exact hst
  | some x =>
    cases t with
    | none => exact htu.elim
    | some y =>
      cases u with
      | none => trivial
      | some z => exact List.lt_trans htu hst

theorem LaterTime.asymm {s t : Option String} (hst : LaterTime s t) : ¬ LaterTime t s := by
  cases s with
  | none => exact hst.elim
  | some x =>
    cases t with
    | none => exact id
    | some y => exact List.lt_asymm hst

theorem LaterTime.ne {s t : Option String} (hst : LaterTime s t) : s ≠ t := by
  rintro rfl
  exact hst.asymm hst

theorem laterTime_trichotomy (s t : Option String) : LaterTime s t ∨ s = t ∨ LaterTime t s := by
  cases s with
  | none =>
    cases t with
    | none => exact .inr (.inl rfl)
    | some y => exact .inr (.inr trivial)
  | some x =>
    cases t with
    | none => exact .inl trivial
    | some y =>
      rcases Std.lt_trichotomy x y with hlt | rfl | hgt
      · exact .inr (.inr (Text.Utf8.encode_lt_of_lt hlt))
      · exact .inr (.inl rfl)
      · exact .inl (Text.Utf8.encode_lt_of_lt hgt)

/-- What the comparison by the time of capture decides. -/
theorem laterCaptured_iff {a b : StoredPacket} :
    laterCaptured a b = true ↔ LaterTime a.packet.timestamp b.packet.timestamp ∨
      a.packet.timestamp = b.packet.timestamp ∧ b.id ≤ a.id := by
  unfold laterCaptured
  cases a.packet.timestamp <;> cases b.packet.timestamp <;>
    simp [LaterTime, Text.Utf8.encode_lt_encode]

/-- A comparison orders packets: of two with different numbers it puts one before the other. -/
structure Orders (le : StoredPacket → StoredPacket → Bool)
    (before : StoredPacket → StoredPacket → Prop) : Prop where
  trans : ∀ a b c, le a b = true → le b c = true → le a c = true
  total : ∀ a b, (le a b || le b a) = true
  asymm : ∀ {a b}, before a b → ¬ before b a
  decides : ∀ {a b}, a.id ≠ b.id → (le a b = true ↔ before a b)

theorem le_iff_lt_of_ne {a b : Int64} (hne : a ≠ b) : b ≤ a ↔ b < a := by
  rw [Int64.le_iff_lt_or_eq]
  exact or_iff_left (Ne.symm hne)

theorem orders_kept : Orders laterKept KeptLater where
  trans a b c hab hbc := by
    simp only [laterKept, decide_eq_true_eq] at *
    exact Int64.le_trans hbc hab
  total a b := by simpa [laterKept] using Int64.le_total b.id a.id
  asymm := Int64.lt_asymm
  decides hne := by
    rw [laterKept, decide_eq_true_eq, le_iff_lt_of_ne hne]
    rfl

theorem orders_captured : Orders laterCaptured CapturedLater where
  trans a b c hab hbc := by
    rw [laterCaptured_iff] at *
    rcases hab with hab | ⟨hab, hle⟩
    · rcases hbc with hbc | ⟨hbc, -⟩
      · exact .inl (hab.trans hbc)
      · exact .inl (hbc ▸ hab)
    · rw [hab]
      exact hbc.imp_right fun ⟨hbc, hle'⟩ => ⟨hbc, Int64.le_trans hle' hle⟩
  total a b := by
    rw [Bool.or_eq_true, laterCaptured_iff, laterCaptured_iff]
    rcases laterTime_trichotomy a.packet.timestamp b.packet.timestamp with hlt | heq | hgt
    · exact .inl (.inl hlt)
    · exact (Int64.le_total b.id a.id).imp (fun h => .inr ⟨heq, h⟩) fun h => .inr ⟨heq.symm, h⟩
    · exact .inr (.inl hgt)
  asymm := by
    rintro a b (hab | ⟨heq, hlt⟩) (hba | ⟨heq', hlt'⟩)
    · exact hab.asymm hba
    · exact hab.ne heq'.symm
    · exact hba.ne heq.symm
    · exact Int64.lt_asymm hlt hlt'
  decides hne := by
    rw [laterCaptured_iff, le_iff_lt_of_ne hne]
    rfl

/-! ## The first of them -/

/-- The first `n` packets of those kept, in order, or all if they are no more. -/
structure First (before : StoredPacket → StoredPacket → Prop) (kept : List StoredPacket) (n : Nat)
    (out : List StoredPacket) : Prop where
  length : out.length = min n kept.length
  distinct : out.Nodup
  subset : out ⊆ kept
  ordered : out.Pairwise before
  leftOut : ∀ s ∈ out, ∀ t ∈ kept, t ∉ out → ¬ before t s

section

variable {le : StoredPacket → StoredPacket → Bool} {before : StoredPacket → StoredPacket → Prop}
  {kept order out out' : List StoredPacket} {n : Nat}

theorem Orders.connected (h : Orders le before) {a b : StoredPacket} (hne : a.id ≠ b.id) :
    before a b ∨ before b a :=
  (Bool.or_eq_true_iff.1 (h.total a b)).imp (h.decides hne).1 (h.decides hne.symm).1

/-- Packets of one number are one packet, where no two have the same. -/
theorem id_ne_of_ne (hids : (kept.map (·.id)).Nodup) {s t : StoredPacket} (hs : s ∈ kept)
    (ht : t ∈ kept) (hne : s ≠ t) : s.id ≠ t.id :=
  fun heq => hne (List.inj_on_of_nodup_map hids hs ht heq)

/-- Two lists of the first packets have the same members: a packet that is only in one of them would
have to come after one that is only in the other, and before it. -/
theorem First.subset_first (h : Orders le before) (hids : (kept.map (·.id)).Nodup)
    (hout : First before kept n out) (hout' : First before kept n out') : out ⊆ out' := by
  intro t ht
  by_contra htout'
  -- Both are of one length, so if `out` has one more than `out'` it has not all of `out'`.
  obtain ⟨s, hs, hsout⟩ : ∃ s ∈ out', s ∉ out := by
    by_contra hnone
    push Not at hnone
    have hperm := (List.subperm_of_subset hout'.distinct hnone).perm_of_length_le
      (Nat.le_of_eq (hout.length.trans hout'.length.symm))
    exact htout' (hperm.mem_iff.2 ht)
  have hne : s.id ≠ t.id :=
    id_ne_of_ne hids (hout'.subset hs) (hout.subset ht) (ne_of_mem_of_not_mem hs htout')
  rcases h.connected hne with hlt | hgt
  · exact hout.leftOut t ht s (hout'.subset hs) hsout hlt
  · exact hout'.leftOut s hs t (hout.subset ht) htout' hgt

theorem First.unique (h : Orders le before) (hids : (kept.map (·.id)).Nodup)
    (hout : First before kept n out) (hout' : First before kept n out') : out = out' := by
  have hperm : out.Perm out' :=
    (List.subperm_of_subset hout.distinct (hout.subset_first h hids hout')).perm_of_length_le
      (Nat.le_of_eq (hout'.length.trans hout.length.symm))
  exact hperm.eq_of_pairwise (fun _ _ _ _ hab hba => (h.asymm hab hba).elim) hout.ordered
    hout'.ordered

theorem First.perm (hperm : order.Perm kept) (hout : First before order n out) :
    First before kept n out where
  length := hperm.length_eq ▸ hout.length
  distinct := hout.distinct
  subset := fun _ hs => hperm.mem_iff.1 (hout.subset hs)
  ordered := hout.ordered
  leftOut s hs t ht := hout.leftOut s hs t (hperm.mem_iff.2 ht)

theorem Orders.sorted (h : Orders le before) (hids : (order.map (·.id)).Nodup) :
    (order.mergeSort le).Pairwise before := by
  have hle : (order.mergeSort le).Pairwise (fun a b => le a b = true) :=
    List.pairwise_mergeSort h.trans h.total order
  have hne : (order.mergeSort le).Pairwise (fun a b => a.id ≠ b.id) :=
    List.pairwise_map.1 (((List.mergeSort_perm order le).map _).nodup_iff.2 hids)
  exact (hle.and hne).imp fun ⟨hle, hne⟩ => (h.decides hne).1 hle

/-- To sort packets and cut off gives the first of them. -/
theorem Orders.first_take (h : Orders le before) (hids : (order.map (·.id)).Nodup) (n : Nat) :
    First before order n ((order.mergeSort le).take n) where
  length := by rw [List.length_take, List.length_mergeSort]
  distinct := ((List.mergeSort_perm order le).nodup_iff.2 hids.of_map).sublist
    (List.take_sublist _ _)
  subset := fun _ hs => List.mem_mergeSort.1 (List.mem_of_mem_take hs)
  ordered := (h.sorted hids).sublist (List.take_sublist _ _)
  leftOut s hs t ht htake := by
    have hsorted := h.sorted hids
    have hmem : t ∈ order.mergeSort le := List.mem_mergeSort.2 ht
    rw [← List.take_append_drop n (order.mergeSort le)] at hsorted hmem
    have hdrop : t ∈ (order.mergeSort le).drop n := (List.mem_append.1 hmem).resolve_left htake
    exact h.asymm ((List.pairwise_append.1 hsorted).2.2 s hs t hdrop)

/-- The first of the packets kept are found, and nothing else is, from whatever order they are in. -/
theorem Orders.first_iff (h : Orders le before) (hids : (kept.map (·.id)).Nodup)
    (hperm : order.Perm kept) :
    First before kept n out ↔ out = (order.mergeSort le).take n := by
  have hfound : First before kept n ((order.mergeSort le).take n) :=
    (h.first_take ((hperm.map _).nodup_iff.2 hids) n).perm hperm
  exact ⟨fun hout => hout.unique h hids hfound, fun heq => heq ▸ hfound⟩

end

/-! ## Numbers -/

/-- A memory that has been given packets. It holds part of them, under consecutive numbers and the
latest first, and the next number is the one after them. -/
structure Fed (given : List (Packet × Instant)) (m : Memory) : Prop where
  next : m.next = Int64.ofNat (given.length + 1)
  packets : m.packets.Sublist (storedAfter 0 given).reverse

theorem Fed.new (limit : Nat) : Fed [] (new limit) := ⟨rfl, .refl _⟩

/-- Packets that come go before those that are held. -/
theorem Fed.append {given more : List (Packet × Instant)} {m : Memory} (h : Fed given m)
    {packets : List StoredPacket}
    (hpackets : packets.Sublist ((storedAfter given.length more).reverse ++ m.packets)) :
    packets.Sublist (storedAfter 0 (given ++ more)).reverse := by
  rw [storedAfter_append, List.reverse_append, Nat.zero_add]
  exact hpackets.trans (h.packets.append_left _)

theorem Fed.perform {given : List (Packet × Instant)} {m : Memory} (h : Fed given m) {call : Saving}
    (hfits : call.fits m.limit = true) : Fed (given ++ call.given) (m.perform call).1 := by
  cases call with
  | one time p =>
    refine ⟨?_, h.append ((enforceLimit_sublist _ _ _).trans ?_)⟩
    · rw [Memory.perform, save_next, h.next, List.length_append]
      exact (Int64.ofNat_add (given.length + 1) 1).symm
    · rw [h.next]
      exact .refl _
  | batch time ps =>
    have hfit : ¬ (0 < m.limit ∧ m.limit < ps.length) := by
      have hfit : m.limit = 0 ∨ ps.length ≤ m.limit := by
        simpa [Saving.fits, Saving.given] using hfits
      omega
    simp only [Memory.perform, saveAll, Saving.given]
    by_cases hempty : ps.isEmpty = true
    · obtain rfl : ps = [] := by simpa using hempty
      simpa using h
    · rw [if_neg hempty, if_neg hfit]
      refine ⟨?_, h.append ((enforceLimit_sublist _ _ _).trans ?_)⟩
      · rw [enforceLimit_next, h.next, ← Int64.ofNat_add, List.length_append, List.length_mapIdx,
          Nat.add_right_comm]
      · rw [h.next, numbered_eq]

theorem Fed.performAll {given : List (Packet × Instant)} {m : Memory} (h : Fed given m)
    (calls : List Saving) : Fed (given ++ accepted m.limit calls) (m.performAll calls).1 := by
  induction calls generalizing given m with
  | nil => simpa [accepted, Memory.performAll] using h
  | cons call calls ih =>
    cases hfits : call.fits m.limit with
    | true =>
      have hrest := ih (h.perform hfits)
      rwa [perform_limit, List.append_assoc, ← accepted_cons_of_fits hfits] at hrest
    | false =>
      have hrest := ih h
      rw [← accepted_cons_of_not_fits hfits] at hrest
      rwa [Memory.performAll, perform_of_not_fits hfits]

theorem ofNat_inj {a b : Nat} (ha : 0 < a) (ha' : a ≤ UInt64.size) (hb : 0 < b)
    (hb' : b ≤ UInt64.size) (h : Int64.ofNat a = Int64.ofNat b) : a = b := by
  have hsize : UInt64.size = 18446744073709551616 := rfl
  have hwords : Int64.size = 18446744073709551616 := rfl
  have hmod := congrArg Int64.toInt h
  rw [Int64.toInt_ofNat', Int64.toInt_ofNat', Int.bmod_def, Int.bmod_def, hwords] at hmod
  omega

/-- Packets have different numbers until all of them have been given out. -/
theorem nodup_storedAfter {given : List (Packet × Instant)} (hfew : given.length ≤ UInt64.size) :
    ((storedAfter 0 given).map (·.id)).Nodup := by
  have hids : (storedAfter 0 given).map (·.id) =
      (List.range' 1 given.length).map fun i => Int64.ofNat i := by
    refine List.ext_getElem (by simp) fun i _ _ => ?_
    simp [storedAfter, Nat.add_comm]
  rw [hids]
  refine List.Nodup.map_on (fun a ha b hb heq => ?_) List.nodup_range'
  rw [List.mem_range'_1] at ha hb
  exact ofNat_inj (by omega) (by omega) (by omega) (by omega) heq

theorem Fed.nodup {given : List (Packet × Instant)} {m : Memory} (h : Fed given m)
    (hfew : given.length ≤ UInt64.size) : (m.packets.map (·.id)).Nodup := by
  have hall : ((storedAfter 0 given).reverse.map (·.id)).Nodup := by
    rw [List.map_reverse]
    exact List.nodup_reverse.2 (nodup_storedAfter hfew)
  exact hall.sublist (h.packets.map _)

/-! ## The latest packets -/

/-- **The latest packets.** A memory has been asked to keep packets, under any limit, and has accepted
no more than there are numbers. Whatever order it holds them in, the latest `n` by the time they were
captured are the first `n` in the order of that time, with the number to tell between equals, and the
latest `n` by number the first in the order of numbers. There is one such list of each kind. A smaller
`n` gives the beginning of what a larger one gives, and where `n` is not less than the number of
packets each of the two is all of them. -/
theorem latest_exact {limit : Nat} (calls : List Saving)
    (hfew : (accepted limit calls).length ≤ UInt64.size) {m m' : Memory}
    (hm : m = ((new limit).performAll calls).1) (hsame : m'.packets.Perm m.packets) (n : Nat) :
    (∀ out, First CapturedLater m.packets n out ↔ out = m'.latestByTimestamp n) ∧
    (∀ out, First KeptLater m.packets n out ↔ out = m'.latestById n) ∧
    (∀ k, n ≤ k → m'.latestByTimestamp n <+: m'.latestByTimestamp k ∧
      m'.latestById n <+: m'.latestById k) ∧
    (m.count ≤ n → (m'.latestByTimestamp n).Perm m.packets ∧ (m'.latestById n).Perm m.packets) := by
  have hids : (m.packets.map (·.id)).Nodup := hm ▸ ((Fed.new limit).performAll calls).nodup hfew
  refine ⟨fun _ => orders_captured.first_iff hids hsame, fun _ => orders_kept.first_iff hids hsame,
    fun k hk => ⟨List.take_prefix_take_left hk, List.take_prefix_take_left hk⟩, fun hn => ?_⟩
  have hall (le : StoredPacket → StoredPacket → Bool) :
      ((m'.packets.mergeSort le).take n).Perm m.packets := by
    rw [List.take_of_length_le]
    · exact (List.mergeSort_perm _ _).trans hsame
    · rw [List.length_mergeSort, hsame.length_eq]
      exact hn
  exact ⟨hall _, hall _⟩

/-- A packet captured at a time. -/
def capturedAt (time : String) : Packet := { Packet.blank with timestamp := some time }

/-- Four packets to be kept, the third of them captured at no known time. -/
def fourCaptured : List Saving :=
  [.one ⟨7, 0⟩ (capturedAt "10"), .batch (fun i => ⟨i, 0⟩) [capturedAt "10", .blank],
    .one ⟨9, 0⟩ (capturedAt "5")]

/-- Three of them may be kept, and are held the first one first. -/
theorem latest_exact_of_three :
    ∃ m m' : Memory, m = ((new 3).performAll fourCaptured).1 ∧
      m' = { m with packets := m.packets.reverse } ∧
      m'.latestByTimestamp 2 = [⟨4, ⟨9, 0⟩, capturedAt "5"⟩, ⟨2, ⟨0, 0⟩, capturedAt "10"⟩] ∧
      m'.latestById 2 = [⟨4, ⟨9, 0⟩, capturedAt "5"⟩, ⟨3, ⟨1, 0⟩, .blank⟩] := by
  obtain ⟨m, hm⟩ : ∃ m, m = ((new 3).performAll fourCaptured).1 := ⟨_, rfl⟩
  have hsame : ({ m with packets := m.packets.reverse } : Memory).packets.Perm m.packets :=
    List.reverse_perm _
  obtain ⟨hcaptured, hkept, -⟩ := latest_exact fourCaptured (by decide) hm hsame 2
  refine ⟨m, _, hm, rfl, ((hcaptured _).1 ?_).symm, ((hkept _).1 ?_).symm⟩ <;> subst hm
  · exact ⟨by decide, by decide, by decide, by decide, by decide⟩
  · exact ⟨by decide, by decide, by decide, by decide, by decide⟩

end PacketTelemetry.Memory
