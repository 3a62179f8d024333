/-
Alerts in JSON, there and back, and what else may stand beside their members
(`Alert.read_as_written`).

Which five members an alert has depends on its kind, and so the count of the
other kind is one of the members that count for nothing (`AlertKind.names`).
What is read depends on the members of these five names alone, in whatever order
they stand (`Alert.take_of_sameNamed`). Of the time only the whole milliseconds
are written.
-/
import PacketTelemetry.Proofs.Broker.Messages
import PacketTelemetry.Proofs.Json.Objects
import PacketTelemetry.Proofs.Time.Instants

namespace PacketTelemetry

open Json Time

/-- The names of the members that an alert of some kind is read from. -/
def AlertKind.names (kind : AlertKind) : List String :=
  ["type", kind.countName, "message", "srcIp", "detectedAt"]

/-- The members of some names are the same, and may stand in another order. -/
def SameNamed (names : List String) (ms ms' : Members) : Prop :=
  (ms.filter fun e => names.contains e.1).Perm (ms'.filter fun e => names.contains e.1)

theorem SameNamed.symm {names : List String} {ms ms' : Members} (h : SameNamed names ms ms') :
    SameNamed names ms' ms := List.Perm.symm h

/-- What is looked for among these names stands in both. -/
theorem SameNamed.filter {names : List String} {ms ms' : Members} (h : SameNamed names ms ms')
    {p : String × Value → Bool} (hp : ∀ e, p e = true → e.1 ∈ names) :
    (ms.filter p).Perm (ms'.filter p) := by
  have hsame : ∀ ms : Members, (ms.filter fun e => names.contains e.1).filter p = ms.filter p := by
    intro ms
    rw [List.filter_filter]
    refine List.filter_congr fun e _ => ?_
    cases hpe : p e with
    | false => rfl
    | true => rw [Bool.true_and, List.contains_iff_mem.2 (hp e hpe)]
  rw [← hsame ms, ← hsame ms']
  exact List.Perm.filter p h

theorem takeOne_congr {name : String} {ms ms' : Members}
    (h : (ms.filter (·.1 = name)).Perm (ms'.filter (·.1 = name))) :
    takeOne name ms = takeOne name ms' := by
  unfold takeOne
  split
  · next hnil =>
    rw [hnil] at h
    rw [h.nil_eq.symm]
  · next m hone =>
    rw [hone] at h
    rw [List.perm_singleton.1 h.symm]
  · next hnil hone =>
    split
    · next hnil' =>
      rw [hnil'] at h
      exact absurd h.eq_nil hnil
    · next m' hone' =>
      rw [hone'] at h
      exact absurd (List.perm_singleton.1 h) (hone m')
    · rfl

namespace Alert

/-! ## Members -/

theorem members_agree : ∀ m ∈ record.members, m.Agrees := by
  have hmillis : millisForm.Agrees := by
    refine Form.agrees_int64.refined (fun ms => Instant.ofMillis? ms.toInt) (fun _ _ => rfl)
      (fun _ => rfl) ?_ ?_
    · intro ms rest t rest'
      dsimp only
      cases Instant.ofMillis? ms.toInt <;> simp
    · intro v ms t
      cases Instant.ofMillis? ms.toInt <;> simp
  refine List.forall_mem_cons.2 ⟨Form.agrees_text.member _ _ _ _, ?_⟩
  refine List.forall_mem_cons.2 ⟨Form.agrees_text.member _ _ _ _, ?_⟩
  exact List.forall_mem_singleton.2 (hmillis.member _ _ _ _)

theorem members_orderless : Orderless record.members := by
  refine ⟨by decide, ?_⟩
  repeat' refine List.pairwise_cons.2 ⟨?_, ?_⟩
  all_goals repeat' refine List.forall_mem_cons.2 ⟨?_, ?_⟩
  all_goals first
    | exact Form.apart fun _ _ _ => rfl
    | exact fun _ h => nomatch h
    | exact List.Pairwise.nil

theorem members_names {e : String × Value} {m : Member Alert}
    (h : memberNamed e.1 record.members = some m) : e.1 ∈ ["message", "srcIp", "detectedAt"] := by
  have hnames : ∀ m ∈ record.members, m.name ∈ ["message", "srcIp", "detectedAt"] := by decide
  rw [← name_of_memberNamed h]
  exact hnames m (List.mem_of_find?_eq_some h)

/-- An alert is finished by its kind, and by the count of that kind. -/
theorem finish_iff {x b : Alert} {others : Members} :
    record.finish x others = .ok b ↔ ∃ v kind w count, takeOne "type" others = .ok v ∧
      AlertKind.take v = .ok kind ∧ takeOne kind.countName others = .ok w ∧
      Form.nat64.take w = .ok count ∧ b = { x with kind, count } := by
  constructor
  · intro h
    obtain ⟨v, hv, h⟩ := exists_of_bind_eq_ok h
    obtain ⟨kind, hkind, h⟩ := exists_of_bind_eq_ok h
    obtain ⟨w, hw, h⟩ := exists_of_bind_eq_ok h
    obtain ⟨count, hcount, h⟩ := exists_of_bind_eq_ok h
    exact ⟨v, kind, w, count, hv, hkind, hw, hcount, (Except.ok.inj h).symm⟩
  · rintro ⟨v, kind, w, count, hv, hkind, hw, hcount, rfl⟩
    simp only [record, bind, Except.bind, hv, hkind, hw, hcount]

/-- An alert is taken out of the members of its names, whatever stands beside them. -/
theorem take_of_sameNamed {ms ms' : Members} {b : Alert} (h : SameNamed b.kind.names ms ms')
    (hb : form.take (.object ms) = .ok b) : form.take (.object ms') = .ok b := by
  rw [form, OpenRecord.take_object] at hb ⊢
  obtain ⟨x, hx, hb⟩ := exists_of_bind_eq_ok hb
  obtain ⟨v, kind, w, count, hv, hkind, hw, hcount, rfl⟩ := finish_iff.1 hb
  replace h : SameNamed kind.names ms ms' := h
  have hknown : takeObject record.members [] record.blank ms' = .ok x := by
    rw [← takeObject_filter] at hx ⊢
    refine (takeObject_perm members_orderless (h.filter fun e he => ?_) [] record.blank x).1 hx
    obtain ⟨m, hm⟩ := Option.isSome_iff_exists.1 he
    exact List.mem_cons_of_mem _ (List.mem_cons_of_mem _ (members_names hm))
  have hother : ∀ name ∈ kind.names, takeOne name (strangers record.members ms) =
      takeOne name (strangers record.members ms') := by
    intro name hname
    refine takeOne_congr ?_
    rw [strangers, strangers, List.filter_filter, List.filter_filter]
    refine h.filter fun e he => ?_
    rw [Bool.and_eq_true, decide_eq_true_eq] at he
    exact he.1 ▸ hname
  rw [hother "type" (by simp [AlertKind.names])] at hv
  rw [hother kind.countName (by simp [AlertKind.names])] at hw
  rw [hknown]
  exact finish_iff.2 ⟨v, kind, w, count, hv, hkind, hw, hcount, rfl⟩

theorem nodup_write (a : Alert) : (Table.names (record.write a)).Nodup := by
  have hnames : Table.names (record.write a) = a.kind.names := rfl
  rw [hnames]
  cases a.kind <;> decide

/-! ## Values -/

theorem take_count {n : Nat} (h : n < Decimal.twoTo 64) : Form.nat64.take (.ofNat n) = .ok n := by
  have hmost : (n : Int) ≤ Decimal.twoTo 64 - 1 := by omega
  exact Form.take_integer "a count of 64 bits" Int.toNat Int.ofNat (Int.natCast_nonneg n) hmost

theorem take_millis {ms : Int} {t : Instant} (h : Instant.ofMillis? ms = some t) :
    millisForm.take (.ofInt ms) = .ok t := by
  obtain ⟨rfl, hkept⟩ := Instant.ofMillis?_eq_some_iff.1 h
  obtain ⟨hleast, hmost⟩ := Instant.toMillis_bounds hkept
  have htake := Form.take_integer "a number of 64 bits" Int64.ofInt (·.toInt) hleast hmost
  have hsame : (Int64.ofInt ms).toInt = ms :=
    Int64.toInt_ofInt_of_le hleast (Int.lt_of_le_of_lt hmost (by decide))
  have hword : Form.int64.take (.ofInt ms) = .ok (Int64.ofInt ms) := htake
  simp only [millisForm, hword, bind, Except.bind, hsame, h]

theorem members_filled {a : Alert} {t : Instant}
    (ht : Instant.ofMillis? a.detectedAt.toMillis = some t) :
    Filled (·.Takes a) record.members record.blank
      ⟨.portScan, 0, a.message, a.srcIp, t⟩ :=
  .cons (Form.takes_of_take rfl _ _ _ _) (.cons (Form.takes_of_take rfl _ _ _ _)
    (.cons (Form.take_member (take_millis ht) _ _ _ _ _) (.nil _)))

/-- An alert is taken out of the members it was written in, with the whole milliseconds of its
time. -/
theorem take_write {a : Alert} {t : Instant} (hcount : a.count < Decimal.twoTo 64)
    (ht : Instant.ofMillis? a.detectedAt.toMillis = some t) :
    form.take (.object (record.write a)) = .ok { a with detectedAt := t } := by
  have htype : memberNamed "type" record.members = none := by decide
  have hkind : memberNamed a.kind.countName record.members = none := by
    cases a.kind <;> decide
  have hwrite : record.write a = ("type", .text a.kind.name) ::
      (a.kind.countName, .ofNat a.count) :: record.members.map fun m => (m.name, m.write a) := rfl
  have hown : takeObject record.members [] record.blank (record.write a) =
      .ok ⟨.portScan, 0, a.message, a.srcIp, t⟩ := by
    rw [hwrite, takeObject_stranger htype, takeObject_stranger hkind]
    exact takeObject_fields members_orderless.nodup [] (members_filled ht) rfl
  have hothers : strangers record.members (record.write a) =
      [("type", .text a.kind.name), (a.kind.countName, .ofNat a.count)] := by
    rw [hwrite, strangers_of_unnamed htype, strangers_of_unnamed hkind]
    rfl
  rw [form, OpenRecord.take_object, hown, hothers]
  refine finish_iff.2 ⟨.text a.kind.name, a.kind, .ofNat a.count, a.count, ?_, ?_, ?_,
    take_count hcount, rfl⟩
  · cases a.kind <;> rfl
  · cases a.kind <;> rfl
  · cases a.kind <;> rfl

/-! ## Texts and payloads -/

/-- What is decoded from a text depends on the members of the names of the alert alone. -/
theorem ofString_of_sameNamed {text text' : String} {ms ms' : Members} {b : Alert}
    (htext : wholeObject.form.ofString text = .ok ms)
    (htext' : wholeObject.form.ofString text' = .ok ms') (h : SameNamed b.kind.names ms ms')
    (hb : form.ofString text = .ok b) : form.ofString text' = .ok b := by
  obtain ⟨ms₀, hwhole, htake⟩ := (OpenRecord.ofString_iff members_agree).1 hb
  rw [htext] at hwhole
  cases hwhole
  exact (OpenRecord.ofString_iff members_agree).2 ⟨ms', htext', take_of_sameNamed h htake⟩

variable {a : Alert} {t : Instant}

/-- An alert can be sent if it can be read again. -/
theorem whole_of_ofMillis? (hcount : a.count < Decimal.twoTo 64)
    (ht : Instant.ofMillis? a.detectedAt.toMillis = some t) : (Message.alert a).Whole := by
  obtain ⟨rfl, hkept⟩ := Instant.ofMillis?_eq_some_iff.1 ht
  obtain ⟨hleast, hmost⟩ := Instant.toMillis_bounds hkept
  refine ⟨⟨?_, ?_⟩, ?_, ?_⟩
  · exact Int.le_trans (by decide) (Int.natCast_nonneg _)
  · exact Int.ofNat_lt.2 hcount
  · exact Int.le_trans (by decide) hleast
  · exact Int.lt_of_le_of_lt hmost (by decide)

/-- **There and back.** An alert is read again from its text and taken again out of its payload,
with the whole milliseconds of its time: the same instant if it had no others. Its text has five
members, one of them the count of its kind. Whatever stands beside the members of these names, and
in whatever order they stand, what is read or taken is the same. -/
theorem read_as_written (hcount : a.count < Decimal.twoTo 64)
    (ht : Instant.ofMillis? a.detectedAt.toMillis = some t) (z : Zone) :
    (form.ofString (form.render a) = .ok { a with detectedAt := t } ∧
      form.take ((Message.alert a).payload z) = .ok { a with detectedAt := t }) ∧
    (t.toMillis = a.detectedAt.toMillis ∧
      (a.detectedAt.nanos < Instant.nanosPerSecond →
        t = ⟨a.detectedAt.seconds, a.detectedAt.nanos / 1000000 * 1000000⟩) ∧
      ∀ ms, a.detectedAt = .ofMillis ms → t = a.detectedAt) ∧
    wholeObject.form.ofString (form.render a) = .ok [
      ("type", .text a.kind.name),
      (a.kind.countName, .ofNat a.count),
      ("message", .text a.message),
      ("srcIp", .text a.srcIp),
      ("detectedAt", .ofInt a.detectedAt.toMillis)] ∧
    (∀ text text' ms ms' b, wholeObject.form.ofString text = .ok ms →
      wholeObject.form.ofString text' = .ok ms' → SameNamed b.kind.names ms ms' →
      (form.ofString text = .ok b ↔ form.ofString text' = .ok b)) ∧
    ∀ ms ms' b, SameNamed b.kind.names ms ms' →
      (form.take (.object ms) = .ok b ↔ form.take (.object ms') = .ok b) := by
  have hback : ∀ e ∈ record.write a, ReadsBack 126 e.2 := fun e he =>
    (flat_members (m := .alert a) (whole_of_ofMillis? hcount ht) z e he).readsBack 126
  have hwhole := wholeObject_render hback
  have htake := take_write hcount ht
  have hpayload : SameNamed a.kind.names (record.write a) (sortMembers (record.write a)) :=
    (Table.ofList_perm a.nodup_write).symm.filter _
  obtain ⟨rfl, -⟩ := Instant.ofMillis?_eq_some_iff.1 ht
  refine ⟨⟨?_, ?_⟩, ⟨?_, ?_, ?_⟩, hwhole, ?_, ?_⟩
  · exact (OpenRecord.ofString_iff members_agree).2 ⟨record.write a, hwhole, htake⟩
  · exact take_of_sameNamed hpayload htake
  · exact Instant.toMillis_ofMillis _
  · exact Instant.ofMillis_toMillis
  · rintro ms hms
    rw [hms, Instant.toMillis_ofMillis]
  · intro text text' ms ms' b htext htext' hsame
    exact ⟨ofString_of_sameNamed htext htext' hsame,
      ofString_of_sameNamed htext' htext hsame.symm⟩
  · intro ms ms' b hsame
    exact ⟨take_of_sameNamed hsame, take_of_sameNamed hsame.symm⟩

/-- An alert from before 1970 that keeps its milliseconds, one from a leap second, and a text with
the count of the other kind before that of its own. -/
theorem read_as_written_of_three :
    ∃ a b text, a = Alert.mk .trafficSpike 18446744073709551615 "\n" "\u0000" ⟨-1, 999999999⟩ ∧
      b = Alert.mk .portScan 30 "" "" ⟨59, 1500000000⟩ ∧
      text = "\x7b\"srcIp\":\"\",\"packetCountLast10s\":\"?\",\"detectedAt\":60500," ++
        "\"uniquePortsCount\":30,\"message\":\"\",\"x\":[null],\"type\":\"PORT_SCAN\"\x7d" ∧
      form.ofString (form.render a) = .ok { a with detectedAt := ⟨-1, 999000000⟩ } ∧
      form.ofString (form.render b) = .ok { b with detectedAt := ⟨60, 500000000⟩ } ∧
      form.ofString text = .ok { b with detectedAt := ⟨60, 500000000⟩ } := by
  refine ⟨_, _, _, rfl, rfl, rfl, ?_, ?_, ?_⟩
  · exact (read_as_written (by decide) (by decide +kernel) .utc).1.1
  · exact (read_as_written (by decide) (by decide +kernel) .utc).1.1
  · exact eq_ok_of_toOption (by decide +kernel)

end Alert

end PacketTelemetry
