/-
Messages as they travel: each can be sent as it is (`Message.sendable`), and a
heartbeat says again which agent it came from (`Agent.take_payload`).

The members of a message hold no other values (`Flat`), so that only their names
have to be put in order, and only the numbers of an alert may be too large.
-/
import PacketTelemetry.Broker.Message
import PacketTelemetry.Proofs.Broker.Envelopes

namespace PacketTelemetry

open Json Time

/-! ## Members that hold no others -/

/-- A message in which every number has 64 bits. All but those of alerts have no others. -/
def Message.Whole : Message → Prop
  | .packet _ => True
  | .alert a => IsWhole a.count ∧ IsWhole a.detectedAt.toMillis
  | .heartbeat _ => True

/-- A value that holds no other value, and is no number of more than 64 bits. -/
structure Flat (v : Value) : Prop where
  whole : v.isWhole = true
  ordered : v.isOrdered = true
  depth : v.depth = 0

theorem Flat.readsBack {v : Value} (h : Flat v) (levels : Nat) : ReadsBack levels v :=
  Json.readsBack h.whole h.ordered (h.depth ▸ Nat.zero_le levels)

theorem flat_text (s : String) : Flat (.text s) := ⟨rfl, rfl, rfl⟩

theorem flat_integer {n : Int} (h : IsWhole n) : Flat (.ofInt n) :=
  ⟨Value.isWhole_integer.2 h, rfl, rfl⟩

/-- A form that gives values which hold no others. -/
def FlatForm {α : Type} (f : Form α) : Prop := ∀ a, Flat (f.write a)

theorem flatForm_text : FlatForm Form.text := flat_text

theorem flatForm_int32 : FlatForm Form.int32 := by
  intro n
  refine flat_integer ⟨?_, ?_⟩
  · exact Int.le_trans (by decide) n.minValue_le_toInt
  · exact Int.lt_of_le_of_lt n.toInt_le (by decide)

theorem flatForm_int64 : FlatForm Form.int64 := by
  intro n
  refine flat_integer ⟨?_, ?_⟩
  · exact Int.le_trans (by decide) n.minValue_le_toInt
  · exact Int.lt_of_le_of_lt n.toInt_le (by decide)

theorem FlatForm.optional {α : Type} {f : Form α} (h : FlatForm f) : FlatForm f.optional := by
  intro a
  cases a with
  | none => exact ⟨rfl, rfl, rfl⟩
  | some a => exact h a

theorem flat_packet (p : Packet) : ∀ e ∈ Packet.record.fields p, Flat e.2 := by
  have hall : ∀ m ∈ Packet.members, ∀ p, Flat (m.write p) := by
    have htext := flatForm_text.optional
    have hint32 := flatForm_int32.optional
    have hint64 := flatForm_int64.optional
    unfold Packet.members
    repeat' refine List.forall_mem_cons.2 ⟨?_, ?_⟩
    -- Each member is an optional text or an optional number, and after the last there is none.
    all_goals first
      | exact fun p => htext _
      | exact fun p => hint32 _
      | exact fun p => hint64 _
      | exact fun _ h => nomatch h
  intro e he
  obtain ⟨m, hm, rfl⟩ := List.mem_map.1 he
  exact hall m hm p

theorem flat_members {m : Message} (hm : m.Whole) (z : Zone) : ∀ e ∈ m.members z, Flat e.2 := by
  cases m with
  | packet s =>
    refine List.forall_mem_cons.2 ⟨flatForm_int64 s.id, List.forall_mem_cons.2 ⟨?_, ?_⟩⟩
    · exact flat_text _
    · exact flat_packet s.packet
  | alert a =>
    repeat' refine List.forall_mem_cons.2 ⟨?_, ?_⟩
    · exact flat_text _
    · exact flat_integer hm.1
    · exact flat_text _
    · exact flat_text _
    · exact flat_integer hm.2
    · exact fun _ h => nomatch h
  | heartbeat a =>
    have htext := flatForm_text.optional
    repeat' refine List.forall_mem_cons.2 ⟨?_, ?_⟩
    · exact flat_text _
    · exact htext a.hostName
    · exact htext a.ip
    · exact htext a.status
    · exact htext a.timestamp
    · exact fun _ h => nomatch h

/-- A message can be sent as it is. -/
theorem Message.sendable {m : Message} (hm : m.Whole) (z : Zone) (t : Topics) :
    (m.envelope z t).Sendable := by
  have hflat : ∀ e ∈ sortMembers (m.members z), Flat e.2 := fun e he =>
    flat_members hm z e (Table.mem_of_mem_ofList he)
  refine ⟨?_, ?_, ?_⟩
  · exact Value.isWhole_object.2 fun e he => (hflat e he).whole
  · exact Value.isOrdered_object.2
      ⟨Table.ordered_ofList (m.members z), fun e he => (hflat e he).ordered⟩
  · exact Value.depth_object_le.2 fun e he => (hflat e he).depth ▸ Nat.zero_le _

/-- An agent is known again from the heartbeat it is sent in. -/
theorem Agent.take_payload (z : Zone) (a : Agent) :
    Agent.form.take ((Message.heartbeat a).payload z) = .ok a := by
  have hordered : Table.Ordered (Agent.record.fields a) := by
    have hnames : Table.names (Agent.record.fields a) =
        ["agentId", "hostName", "ip", "status", "timestamp"] := rfl
    rw [Table.Ordered, hnames]
    decide +kernel
  have hsorted : (Message.heartbeat a).payload z = .object (Agent.record.fields a) :=
    congrArg Value.object (Table.ofList_of_ordered hordered)
  have htaken : Filled (·.Takes a) Agent.record.members Agent.record.blank a :=
    .cons (Form.takes_of_take rfl _ _ _ _) (.cons (Form.takes_maybe_text _ _ _ _ _)
      (.cons (Form.takes_maybe_text _ _ _ _ _) (.cons (Form.takes_maybe_text _ _ _ _ _)
        (.cons (Form.takes_maybe_text _ _ _ _ _) (.nil _)))))
  rw [hsorted]
  exact takeObject_fields (by decide) [] htaken rfl

end PacketTelemetry
