/-
Stored packets in JSON, there and back (`StoredPacket.roundTrip`).

A stored packet (`PacketRecord`) is read from the text it was written in and from
its payload, where the members stand in order of their names. What is read has
the same instant where the clocks that dated it were a whole number of minutes
from UTC; by other clocks the text is up to half a minute off, or cannot be read
(`StoredPacket.ofString_render_iff`). Whatever is read as a stored packet is read
as a packet too, and as the same one (`StoredPacket.packet_ofString`).
-/
import PacketTelemetry.Proofs.Broker.Messages
import PacketTelemetry.Proofs.Json.Objects
import PacketTelemetry.Proofs.Time.Rfc3339

namespace PacketTelemetry

open Json Time

/-! ## Packets -/

namespace Packet

theorem members_agree : ∀ m ∈ members, m.Agrees := by
  have htext : Form.text.optional.Agrees := Form.agrees_text.optional
  have hint32 : Form.int32.optional.Agrees := Form.agrees_int32.optional
  have hint64 : Form.int64.optional.Agrees := Form.agrees_int64.optional
  unfold members
  repeat' refine List.forall_mem_cons.2 ⟨?_, ?_⟩
  all_goals first
    | exact htext.member _ _ _ _
    | exact hint32.member _ _ _ _
    | exact hint64.member _ _ _ _
    | exact fun _ h => nomatch h

/-- Each member of a packet sets a field of its own. -/
theorem members_orderless : Orderless members := by
  refine ⟨by decide, ?_⟩
  unfold members
  repeat' refine List.pairwise_cons.2 ⟨?_, ?_⟩
  all_goals repeat' refine List.forall_mem_cons.2 ⟨?_, ?_⟩
  all_goals first
    | exact Form.apart fun _ _ _ => rfl
    | exact fun _ h => nomatch h
    | exact List.Pairwise.nil

theorem members_filled (p : Packet) : Filled (·.Takes p) members .blank p := by
  have htext : Form.text.optional.Lawful := Form.lawful_text.optional fun _ h => nomatch h
  have hint32 : Form.int32.optional.Lawful := Form.lawful_int32.optional fun _ h => nomatch h
  have hint64 : Form.int64.optional.Lawful := Form.lawful_int64.optional fun _ h => nomatch h
  unfold members
  repeat' first
    | refine .cons (Form.takes_of_take (htext _) _ _ _ _) ?_
    | refine .cons (Form.takes_of_take (hint32 _) _ _ _ _) ?_
    | refine .cons (Form.takes_of_take (hint64 _) _ _ _ _) ?_
  exact .nil p

/-- A packet is taken out of the members it was written in. -/
theorem take_fields (p : Packet) :
    takeObject members [] .blank (record.fields p) = .ok p :=
  takeObject_fields members_orderless.nodup [] p.members_filled rfl

end Packet

/-! ## Stored packets -/

namespace StoredPacket

theorem members_agree (z : Zone) : ∀ m ∈ (record z).members, m.Agrees := by
  have hinstant : (instantForm z).Agrees := by
    refine Form.agrees_text.refined Instant.ofRfc3339 (fun _ _ => rfl) (fun _ => rfl) ?_ ?_
    · intro text rest t rest'
      dsimp only
      cases Instant.ofRfc3339 text <;> simp
    · intro v text t
      cases Instant.ofRfc3339 text <;> simp
  refine List.forall_mem_cons.2 ⟨Form.agrees_int64.member _ _ _ _, ?_⟩
  exact List.forall_mem_singleton.2 (hinstant.member _ _ _ _)

theorem members_orderless (z : Zone) : Orderless (record z).members := by
  have hnames : ((record z).members.map (·.name)) = ["id", "receivedAt"] := rfl
  refine ⟨by rw [hnames]; decide, List.pairwise_pair.2 ?_⟩
  exact Form.apart fun _ _ _ => rfl

/-- None of the members of a packet has a name of those two that a stored packet has besides. -/
theorem memberNamed_eq_none {e : String × Value} {m : Member Packet}
    (h : memberNamed e.1 Packet.members = some m) (z : Zone) :
    memberNamed e.1 (record z).members = none := by
  have hnames : ∀ m ∈ Packet.members, m.name ≠ "id" ∧ m.name ≠ "receivedAt" := by decide
  obtain ⟨hid, hreceived⟩ := hnames m (List.mem_of_find?_eq_some h)
  rw [← name_of_memberNamed h]
  refine List.find?_eq_none.2 (List.forall_mem_cons.2 ⟨?_, List.forall_mem_singleton.2 ?_⟩)
  · exact fun h => hid (of_decide_eq_true h).symm
  · exact fun h => hreceived (of_decide_eq_true h).symm

theorem take_perm {z : Zone} {ms ms' : Members} (hperm : ms.Perm ms') {s : StoredPacket}
    (h : (form z).take (.object ms) = .ok s) : (form z).take (.object ms') = .ok s := by
  refine OpenRecord.take_perm (members_orderless z) ?_ hperm h
  intro x ms ms' y hperm hy
  obtain ⟨p, hp, hy⟩ := exists_of_bind_eq_ok hy
  have htaken := (takeObject_perm Packet.members_orderless hperm [] .blank p).1 hp
  show (takeObject Packet.members [] .blank ms').bind _ = _
  rw [htaken]
  exact hy

theorem fields_strange (p : Packet) (z : Zone) :
    ∀ e ∈ Packet.record.fields p, memberNamed e.1 (record z).members = none := by
  intro e he
  obtain ⟨m, hm, rfl⟩ := List.mem_map.1 he
  exact memberNamed_eq_none (memberNamed_of_nodup Packet.members_orderless.nodup hm) z

theorem named_id (z : Zone) : memberNamed "id" (record z).members =
    some (Form.int64.needed "id" (·.id) fun s v => { s with id := v }) := rfl

theorem named_receivedAt (z : Zone) : memberNamed "receivedAt" (record z).members =
    some ((instantForm z).needed "receivedAt" (·.receivedAt)
      fun s v => { s with receivedAt := v }) := rfl

theorem write_eq (z : Zone) (s : StoredPacket) : (record z).write s =
    ("id", Form.int64.write s.id) :: ("receivedAt", .text (s.receivedAt.toRfc3339 z)) ::
      Packet.record.fields s.packet := rfl

variable (z z' : Zone) {s s' : StoredPacket}

theorem takeObject_write :
    takeObject (record z').members [] (record z').blank ((record z).write s) =
      ((instantForm z').take (.text (s.receivedAt.toRfc3339 z))).map
        fun t => ⟨s.id, t, .blank⟩ := by
  rw [write_eq, takeObject_named (named_id z') List.not_mem_nil
      (Form.take_member (Form.lawful_int64 s.id) _ _ _ _ _),
    takeObject_known (named_receivedAt z') (by decide)]
  simp only [takeObject_strangers (fields_strange s.packet z')]
  cases hdate : (instantForm z').take (.text (s.receivedAt.toRfc3339 z)) with
  | error mismatch =>
    simp only [Form.needed, Form.member, hdate]
    rfl
  | ok t =>
    rw [Form.needed, Form.take_member hdate]
    rfl

theorem strangers_write :
    strangers (record z').members ((record z).write s) = Packet.record.fields s.packet := by
  rw [write_eq, strangers_of_named (named_id z'), strangers_of_named (named_receivedAt z')]
  exact List.filter_eq_self.2 fun e he => by rw [fields_strange _ z' e he]; rfl

theorem finish_fields (t : Instant) :
    (record z).finish ⟨s.id, t, .blank⟩ (Packet.record.fields s.packet) =
      .ok { s with receivedAt := t } := by
  show (takeObject Packet.members [] .blank (Packet.record.fields s.packet)).bind _ = _
  rw [s.packet.take_fields]
  rfl

/-- A stored packet is taken out of the members it was written in, with the instant that is read of
its date. -/
theorem take_write_iff : (form z').take (.object ((record z).write s)) = .ok s' ↔
    ∃ t, Instant.ofRfc3339 (s.receivedAt.toRfc3339 z) = some t ∧
      { s with receivedAt := t } = s' := by
  rw [form, OpenRecord.take_object, takeObject_write, strangers_write]
  simp only [instantForm, Form.text, bind, Except.bind]
  cases Instant.ofRfc3339 (s.receivedAt.toRfc3339 z) with
  | none => simp [Except.map]
  | some t => simp [Except.map, finish_fields]

/-! ## Texts and payloads -/

theorem wholeObject_render (s : StoredPacket) :
    wholeObject.form.ofString ((form z).render s) = .ok ((record z).write s) := by
  have hflat : ∀ e ∈ (record z).write s, Flat e.2 :=
    List.forall_mem_cons.2 ⟨flatForm_int64 s.id,
      List.forall_mem_cons.2 ⟨flat_text _, flat_packet s.packet⟩⟩
  exact Json.wholeObject_render fun e he => (hflat e he).readsBack 126

/-- What is read of the text of a stored packet is the stored packet, with the instant that is read
of its date. -/
theorem ofString_render_iff : (form z').ofString ((form z).render s) = .ok s' ↔
    ∃ t, Instant.ofRfc3339 (s.receivedAt.toRfc3339 z) = some t ∧
      { s with receivedAt := t } = s' := by
  rw [← take_write_iff z z']
  refine (OpenRecord.ofString_iff (members_agree z')).trans ⟨?_, fun htake => ?_⟩
  · rintro ⟨ms, hwhole, htake⟩
    cases (wholeObject_render z s).symm.trans hwhole
    exact htake
  · exact ⟨_, wholeObject_render z s, htake⟩

/-- So it is with its payload. -/
theorem take_payload_iff : (form z').take ((Message.packet s).payload z) = .ok s' ↔
    ∃ t, Instant.ofRfc3339 (s.receivedAt.toRfc3339 z) = some t ∧
      { s with receivedAt := t } = s' := by
  have hnodup : (Table.names ((record z).write s)).Nodup := by
    have hnames : Table.names ((record z).write s) =
        "id" :: "receivedAt" :: Packet.members.map (·.name) := rfl
    rw [hnames]
    decide
  have hperm : (sortMembers ((record z).write s)).Perm ((record z).write s) :=
    Table.ofList_perm hnodup
  rw [← take_write_iff z z']
  exact ⟨take_perm hperm, take_perm hperm.symm⟩

/-- As a packet, the text of a stored packet is read without its two own members. -/
theorem packet_render (s : StoredPacket) :
    Packet.form.ofString ((form z).render s) = .ok s.packet := by
  refine Record.ofString_of_wholeObject Packet.members_agree (wholeObject_render z s) ?_
  have hid : memberNamed "id" Packet.members = none := by decide
  have hreceived : memberNamed "receivedAt" Packet.members = none := by decide
  show takeObject Packet.members [] .blank ((record z).write s) = .ok s.packet
  rw [write_eq, takeObject_stranger hid, takeObject_stranger hreceived]
  exact s.packet.take_fields

/-- Whatever is read as a stored packet is read as a packet too, and as the same one. -/
theorem packet_ofString {text : String} (h : (form z).ofString text = .ok s) :
    Packet.form.ofString text = .ok s.packet := by
  obtain ⟨ms, hwhole, htake⟩ := (OpenRecord.ofString_iff (members_agree z)).1 h
  rw [OpenRecord.take_object] at htake
  obtain ⟨x, -, htake⟩ := exists_of_bind_eq_ok htake
  obtain ⟨p, hp, heq⟩ := exists_of_bind_eq_ok htake
  cases heq
  have hsame : (strangers (record z).members ms).filter
      (fun e => (memberNamed e.1 Packet.members).isSome) =
        ms.filter fun e => (memberNamed e.1 Packet.members).isSome := by
    rw [strangers, List.filter_filter]
    refine List.filter_congr fun e _ => ?_
    cases hnamed : memberNamed e.1 Packet.members with
    | none => rfl
    | some m => rw [memberNamed_eq_none hnamed z]; rfl
  refine Record.ofString_of_wholeObject Packet.members_agree hwhole ?_
  show takeObject Packet.members [] .blank ms = .ok p
  rw [← takeObject_filter, ← hsame, takeObject_filter]
  exact hp

/-- Whatever the clocks that dated it, a stored packet is not read with a date that is more than half
a minute off, and all else of it is read as it was. -/
theorem redated (hnanos : s.receivedAt.nanos < Instant.nanosPerSecond)
    (hfirst : leastYear < s.receivedAt.date.year) (hlast : s.receivedAt.date.year < mostYear)
    (h : (form z').ofString ((form z).render s) = .ok s') :
    ∃ seconds : Int, seconds.natAbs ≤ 30 ∧
      s' = { s with receivedAt := s.receivedAt.ahead seconds } := by
  obtain ⟨t, ht, rfl⟩ := (ofString_render_iff _ _).1 h
  rw [Instant.ofRfc3339_toRfc3339 hnanos hfirst hlast] at ht
  split at ht
  · cases ht
    exact ⟨_, natAbs_sub_writtenOffset_le _, rfl⟩
  · cases ht

/-- **There and back.** A stored packet of any year but the first and the last of the calendar is
read again from its text, and taken again out of its payload, exactly where the clocks that dated it
are a whole number of minutes from UTC; written once more by the same clocks it then gives the same
text. By other clocks what is read, if anything is, has a date up to half a minute off. Whatever the
clocks, its text read as a packet gives the packet alone, and so does any text that is read as a
stored packet. -/
theorem roundTrip (hnanos : s.receivedAt.nanos < Instant.nanosPerSecond)
    (hfirst : leastYear < s.receivedAt.date.year) (hlast : s.receivedAt.date.year < mostYear) :
    ((form z').ofString ((form z).render s) = .ok s ↔ 60 ∣ z.offset s.receivedAt) ∧
    ((form z').take ((Message.packet s).payload z) = .ok s ↔ 60 ∣ z.offset s.receivedAt) ∧
    (60 ∣ z.offset s.receivedAt →
      ((form z').ofString ((form z).render s)).map (form z).render = .ok ((form z).render s)) ∧
    (∀ s', (form z').ofString ((form z).render s) = .ok s' →
      ∃ seconds : Int, seconds.natAbs ≤ 30 ∧
        s' = { s with receivedAt := s.receivedAt.ahead seconds }) ∧
    Packet.form.ofString ((form z).render s) = .ok s.packet ∧
    ∀ text s', (form z').ofString text = .ok s' → Packet.form.ofString text = .ok s'.packet := by
  have hdate : (∃ t, Instant.ofRfc3339 (s.receivedAt.toRfc3339 z) = some t ∧
      { s with receivedAt := t } = s) ↔ 60 ∣ z.offset s.receivedAt := by
    rw [← Instant.ofRfc3339_toRfc3339_iff hnanos hfirst hlast z]
    refine ⟨?_, fun h => ⟨_, h, rfl⟩⟩
    rintro ⟨t, ht, heq⟩
    rw [ht]
    exact congrArg (some ·.receivedAt) heq
  have htext := (ofString_render_iff z z').trans hdate
  refine ⟨htext, (take_payload_iff z z').trans hdate, fun hwhole => ?_,
    fun _ => redated z z' hnanos hfirst hlast, packet_render z s, fun _ _ => packet_ofString z'⟩
  exact congrArg (Except.map (form z).render) (htext.2 hwhole)

/-- A packet of the first second of the year 0, which clocks twelve hours behind date into the year
before, and a text with its members in another order and one that belongs to no packet. -/
theorem roundTrip_of_two :
    ∃ s s' z text, s = StoredPacket.mk (-9223372036854775808) ⟨-62167219200, 999999999⟩
        { Packet.blank with ttl := some (-2147483648), payload := some "\u0000\"\u2028" } ∧
      s' = StoredPacket.mk 1 ⟨0, 0⟩ { Packet.blank with ttl := some 7 } ∧
      z = Zone.fixed (-43200) (by decide) ∧
      text = "\x7b\"ttl\":7,\"x\":[\x7b\x7d],\"receivedAt\":\"1970-01-01 02:00:00+02\\u003a00\"," ++
        "\"id\":1\x7d" ∧
      s.receivedAt.toRfc3339 .utc = "0000-01-01T00:00:00.999999999Z" ∧
      s.receivedAt.toRfc3339 z = "-0001-12-31T12:00:00.999999999-12:00" ∧
      (form .utc).ofString ((form z).render s) = .ok s ∧
      ((form .utc).ofString ((form .utc).render s)).map (form .utc).render =
        .ok ((form .utc).render s) ∧
      Packet.form.ofString text = .ok s'.packet := by
  refine ⟨_, _, _, _, rfl, rfl, rfl, rfl, by decide +kernel, by decide +kernel, ?_, ?_, ?_⟩
  · exact (roundTrip _ _ (by decide) (by decide +kernel) (by decide +kernel)).1.2 (by decide)
  · exact (roundTrip .utc .utc (by decide) (by decide +kernel) (by decide +kernel)).2.2.1
      (by decide)
  · exact packet_ofString .utc (eq_ok_of_toOption (by decide +kernel))

/-- Clocks that keep the local time of a place need not be a whole number of minutes from UTC. By
some that are 1:44:24 ahead of it, the first second of the year 1800 is written with the offset
`+01:44`, and read as an instant 24 seconds later. -/
theorem seconds_of_offset_lost :
    ∃ s z, s = StoredPacket.mk 1 ⟨-5364662400, 0⟩ .blank ∧ z = Zone.fixed 6264 (by decide) ∧
      s.receivedAt.nanos < Instant.nanosPerSecond ∧ s.receivedAt.date.year = 1800 ∧
      s.receivedAt.toRfc3339 z = "1800-01-01T01:44:24+01:44" ∧
      (form z).ofString ((form z).render s) = .ok { s with receivedAt := ⟨-5364662376, 0⟩ } ∧
      (form z).ofString ((form z).render s) ≠ .ok s ∧
      (form z).take ((Message.packet s).payload z) ≠ .ok s := by
  have hread : Instant.ofRfc3339 (Instant.toRfc3339 ⟨-5364662400, 0⟩ (.fixed 6264 (by decide))) =
      some ⟨-5364662376, 0⟩ := by decide +kernel
  refine ⟨_, _, rfl, rfl, by decide, by decide +kernel, by decide +kernel,
    (ofString_render_iff _ _).2 ⟨_, hread, rfl⟩, fun h => ?_, fun h => ?_⟩
  · obtain ⟨t, ht, heq⟩ := (ofString_render_iff _ _).1 h
    cases hread.symm.trans ht
    cases heq
  · obtain ⟨t, ht, heq⟩ := (take_payload_iff _ _).1 h
    cases hread.symm.trans ht
    cases heq

end StoredPacket

end PacketTelemetry
