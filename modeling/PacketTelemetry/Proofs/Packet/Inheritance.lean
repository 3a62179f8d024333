/-
The labels a packet takes from its batch: its agent, its host and its interface.

To take over labels and to scrub do not go together. Whether a packet has a label
of its own is decided before it is scrubbed, and a NUL character is no white space.
A label of nothing but NUL characters and white space (`Masked`) counts as one and
comes to nothing afterwards, so that the packet is left without, though the batch
has a label for it. All other labels are taken over as if everything had been
scrubbed before (`Batch.normalize_labels`).
-/
import PacketTelemetry.Proofs.Packet.Scrubbing

namespace PacketTelemetry

/-! ## Labels -/

/-- What a packet can take from its batch. -/
inductive Label where
  | agentId | hostName | interfaceName
deriving DecidableEq, Repr

/-- A label of a packet. -/
def Packet.label (p : Packet) : Label → Option String
  | .agentId => p.agentId
  | .hostName => p.hostName
  | .interfaceName => p.interfaceName

/-- A label of a batch. -/
def Batch.label (b : Batch) : Label → Option String
  | .agentId => b.agentId
  | .hostName => b.hostName
  | .interfaceName => b.interfaceName

/-- A packet without its labels. -/
def Packet.unlabelled (p : Packet) : Packet :=
  { p with agentId := none, hostName := none, interfaceName := none }

/-- Its labels and the rest are all there is to a packet. -/
theorem Packet.ext_labels {p q : Packet} (hrest : p.unlabelled = q.unlabelled)
    (hlabels : ∀ l, p.label l = q.label l) : p = q := by
  have hagent : p.agentId = q.agentId := hlabels .agentId
  have hhost : p.hostName = q.hostName := hlabels .hostName
  have hinterface : p.interfaceName = q.interfaceName := hlabels .interfaceName
  cases p
  cases q
  simp only [Packet.unlabelled, Packet.mk.injEq] at hrest hagent hhost hinterface ⊢
  simp only [hrest, hagent, hhost, hinterface, and_self]

/-- A batch scrubbed as a whole, its packets and its labels. -/
def Batch.scrubbed (b : Batch) : Batch where
  agentId := b.agentId.map scrub
  hostName := b.hostName.map scrub
  interfaceName := b.interfaceName.map scrub
  packets := b.packets.map fun ps => ps.map Packet.normalize

/-- The packets of a batch with the labels they take from it. -/
def Batch.inherited (b : Batch) : Option (List Packet) :=
  b.packets.map fun ps => ps.map fun p => p.inheritFrom b

section

variable (p : Packet) (b : Batch) (l : Label)

theorem label_taken :
    (p.inheritFrom b).normalize.label l = (orShared (p.label l) (b.label l)).map scrub := by
  cases l <;> rfl

theorem label_taken_scrubbed : (p.normalize.inheritFrom b.scrubbed).label l =
    orShared ((p.label l).map scrub) ((b.label l).map scrub) := by
  cases l <;> rfl

end

/-! ## One label -/

/-- A label of NUL characters and white space, and not of white space alone. -/
def Masked (own : Option String) : Prop :=
  ∃ s, own = some s ∧ '\x00' ∈ s.toList ∧ ∀ c ∈ s.toList, c = '\x00' ∨ Text.isSpace c = true

theorem isBlank_iff {s : String} :
    Text.isBlank s = true ↔ ∀ c ∈ s.toList, Text.isSpace c = true := by
  rw [Text.isBlank, List.all_eq_true]

theorem isBlank_scrub_iff {s : String} :
    Text.isBlank (scrub s) = true ↔ ∀ c ∈ s.toList, c = '\x00' ∨ Text.isSpace c = true := by
  have hscrubbed : (scrub s).toList = s.toList.filter (· ≠ '\x00') := scrubbed_scrub s
  rw [isBlank_iff, hscrubbed]
  refine forall_congr' fun c => ?_
  rw [List.mem_filter, decide_eq_true_eq, and_imp]
  exact imp_congr_right fun _ => Decidable.or_iff_not_imp_left.symm

/-- A label is masked if scrubbing it is what leaves nothing to be seen. -/
theorem masked_iff {own : Option String} :
    Masked own ↔ isUnnamed own = false ∧ isUnnamed (own.map scrub) = true := by
  cases own with
  | none => simp [Masked, isUnnamed]
  | some s =>
    rw [Option.map_some, isUnnamed, isUnnamed, isBlank_scrub_iff, ← Bool.not_eq_true, isBlank_iff]
    constructor
    · rintro ⟨_, hs, hnul, hall⟩
      cases hs
      exact ⟨fun hblank => absurd (hblank _ hnul) (by decide), hall⟩
    · rintro ⟨hblank, hall⟩
      refine ⟨s, rfl, ?_, hall⟩
      by_contra hnul
      refine hblank fun c hc => (hall c hc).resolve_left fun heq => hnul (heq ▸ hc)

instance (own : Option String) : Decidable (Masked own) := decidable_of_iff _ masked_iff.symm

theorem isUnnamed_scrub {own : Option String} (h : isUnnamed own = true) :
    isUnnamed (own.map scrub) = true := by
  cases own with
  | none => rfl
  | some s => exact isBlank_scrub_iff.2 fun c hc => .inr (isBlank_iff.1 h c hc)

variable {own : Option String} (shared : Option String)

/-- A label that is not masked is taken over as if it had been scrubbed before. -/
theorem scrub_orShared (h : ¬ Masked own) :
    (orShared own shared).map scrub = orShared (own.map scrub) (shared.map scrub) := by
  rw [masked_iff] at h
  unfold orShared
  cases hown : isUnnamed own with
  | true => rw [isUnnamed_scrub hown, if_pos rfl, if_pos rfl]
  | false =>
    have hscrubbed : isUnnamed (own.map scrub) = false := by simpa [hown] using h
    rw [hscrubbed, if_neg (by decide), if_neg (by decide)]

/-- One that is masked is kept. -/
theorem scrub_orShared_of_masked (h : Masked own) :
    (orShared own shared).map scrub = own.map scrub := by
  rw [orShared, (masked_iff.1 h).1, if_neg (by decide)]

/-- Scrubbed before, it would give way to that of the batch. -/
theorem orShared_scrub_of_masked (h : Masked own) :
    orShared (own.map scrub) (shared.map scrub) = shared.map scrub := by
  rw [orShared, (masked_iff.1 h).2, if_pos rfl]

theorem scrub_orShared_iff :
    (orShared own shared).map scrub = orShared (own.map scrub) (shared.map scrub) ↔
      (Masked own → own.map scrub = shared.map scrub) := by
  by_cases h : Masked own
  · rw [scrub_orShared_of_masked shared h, orShared_scrub_of_masked shared h]
    exact ⟨fun heq _ => heq, fun heq => heq h⟩
  · exact ⟨fun _ hmasked => absurd hmasked h, fun _ => scrub_orShared shared h⟩

/-! ## Packets and batches -/

/-- A packet of a batch, and what becomes of it. -/
structure Labelled (b : Batch) (p q : Packet) : Prop where
  rest : q.unlabelled = p.unlabelled.normalize
  own : ∀ l, isUnnamed ((p.label l).map scrub) = false → q.label l = (p.label l).map scrub
  shared : ∀ l, isUnnamed ((p.label l).map scrub) = true → ¬ Masked (p.label l) →
    q.label l = (b.label l).map scrub
  masked : ∀ l, Masked (p.label l) → q.label l = (p.label l).map scrub
  /-- Where nothing can be seen of a label in the end, there was nothing to be taken over, or the own
  one was masked. -/
  unnamed : ∀ l, isUnnamed (q.label l) = true →
    isUnnamed ((b.label l).map scrub) = true ∨ Masked (p.label l)

theorem labelled (b : Batch) (p : Packet) : Labelled b p (p.inheritFrom b).normalize := by
  have hlabel (l : Label) (h : ¬ Masked (p.label l)) : (p.inheritFrom b).normalize.label l =
      orShared ((p.label l).map scrub) ((b.label l).map scrub) := by
    rw [label_taken, scrub_orShared _ h]
  have hmasked (l : Label) (h : Masked (p.label l)) :
      (p.inheritFrom b).normalize.label l = (p.label l).map scrub := by
    rw [label_taken, scrub_orShared_of_masked _ h]
  refine ⟨rfl, fun l hown => ?_, fun l hown h => ?_, hmasked, fun l hnone => ?_⟩
  · have hseen : ¬ Masked (p.label l) := fun h =>
      Bool.false_ne_true (hown.symm.trans (masked_iff.1 h).2)
    rw [hlabel l hseen, orShared, hown, if_neg (by decide)]
  · rw [hlabel l h, orShared, hown, if_pos rfl]
  · by_cases h : Masked (p.label l)
    · exact .inr h
    · rw [hlabel l h, orShared] at hnone
      split at hnone
      · exact .inl hnone
      · next hown => exact absurd hnone hown

/-- Scrubbing and taking over labels go together for a packet if nothing is masked, or nothing is there
to be taken over in its place. -/
theorem normalize_inheritFrom_iff {b : Batch} {p : Packet} :
    (p.inheritFrom b).normalize = p.normalize.inheritFrom b.scrubbed ↔
      ∀ l, Masked (p.label l) → (p.label l).map scrub = (b.label l).map scrub := by
  have hlabels (l : Label) : (p.inheritFrom b).normalize.label l =
      (p.normalize.inheritFrom b.scrubbed).label l ↔
        (Masked (p.label l) → (p.label l).map scrub = (b.label l).map scrub) := by
    rw [label_taken, label_taken_scrubbed, scrub_orShared_iff]
  constructor
  · exact fun heq l => (hlabels l).1 (congrArg (·.label l) heq)
  · exact fun h => Packet.ext_labels rfl fun l => (hlabels l).2 (h l)

/-- **Labels of a batch.** Every packet of a batch is kept, in order, scrubbed and with its labels: its
own where anything can be seen of it after scrubbing, and else that of the batch, scrubbed as well. A
masked label alone is kept although nothing can be seen of it. So to scrub a batch first and to take over
labels then comes to the same if and only if no packet has a masked label for which the batch has
anything else. -/
theorem Batch.normalize_labels {b : Batch} {ps : List Packet} (hps : b.packets = some ps) :
    ∃ qs, b.normalize = some qs ∧ List.Forall₂ (Labelled b) ps qs ∧
      (b.normalize = b.scrubbed.inherited ↔ ∀ p ∈ ps, ∀ l, Masked (p.label l) →
        (p.label l).map scrub = (b.label l).map scrub) := by
  refine ⟨ps.map fun p => (p.inheritFrom b).normalize, ?_, ?_, ?_⟩
  · rw [Batch.normalize, hps, Option.map_some]
  · rw [List.forall₂_map_right_iff, List.forall₂_same]
    exact fun p _ => labelled b p
  · have hinherited : b.scrubbed.inherited =
        some (ps.map fun p => p.normalize.inheritFrom b.scrubbed) := by
      rw [Batch.inherited, Batch.scrubbed, hps, Option.map_some, Option.map_some, List.map_map]
      rfl
    rw [Batch.normalize, hps, Option.map_some, hinherited, Option.some_inj, List.map_inj_left]
    exact forall₂_congr fun p _ => normalize_inheritFrom_iff

/-- A batch of two packets, of which only the second has a label to be seen. -/
def twoPackets : Batch :=
  ⟨some "lo\x00t", none, none, some [{ Packet.blank with agentId := some " \t" },
    { Packet.blank with agentId := some "o\x00wn" }]⟩

/-- Nothing is masked in it. -/
theorem Batch.normalize_labels_of_two :
    ∃ p q, twoPackets.normalize = some [p, q] ∧ p.agentId = some "lot" ∧ q.agentId = some "own" ∧
      twoPackets.normalize = twoPackets.scrubbed.inherited := by
  obtain ⟨qs, hqs, hall, hiff⟩ := Batch.normalize_labels (b := twoPackets) rfl
  obtain _ | ⟨hfirst, _ | ⟨hsecond, _ | _⟩⟩ := hall
  refine ⟨_, _, hqs, hfirst.shared .agentId (by decide) (by decide),
    hsecond.own .agentId (by decide), hiff.2 fun p hp l => ?_⟩
  obtain rfl | rfl : p = _ ∨ p = _ := by simpa using hp
  · cases l <;> decide
  · cases l <;> decide

/-- A batch that has a label for its agent, and a packet with a masked one. -/
def maskedPacket : Batch :=
  ⟨some "lot", none, none, some [{ Packet.blank with agentId := some "\x00" }]⟩

/-- The packet is left without a label. -/
theorem masked_label_not_inherited :
    maskedPacket.normalize = some [{ Packet.blank with agentId := some "" }] ∧
      maskedPacket.scrubbed.inherited = some [{ Packet.blank with agentId := some "lot" }] :=
  ⟨by decide, by decide⟩

end PacketTelemetry
