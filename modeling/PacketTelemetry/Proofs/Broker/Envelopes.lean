/-
Envelopes as they travel: what is sent is what comes in (`Envelope.wire_roundTrip`).

An envelope is written on one line, so that the envelopes of a datagram are
those of its lines, and each line is read again as it was written. What is sent
and received for a second time does not change any more, in whatever form it
came in at first.
-/
import PacketTelemetry.Broker.Envelope
import PacketTelemetry.Proofs.Json.Records
import PacketTelemetry.Proofs.Text.Lines
import PacketTelemetry.Proofs.Text.Octets

namespace PacketTelemetry

open Json

namespace Envelope

/-! ## Datagrams of lines -/

theorem ofDatagram_append (a b : String) :
    ofDatagram (a ++ "\n" ++ b) = ofDatagram a ++ ofDatagram b := by
  unfold ofDatagram
  rw [Text.filledLines_append, List.map_append]

theorem ofDatagram_intercalate (texts : List String) :
    ofDatagram ("\n".intercalate texts) = texts.flatMap ofDatagram := by
  unfold ofDatagram
  rw [Text.filledLines_intercalate, List.map_flatMap]

/-- What a line says, the white space around it aside. -/
def ofLine (line : String) : Except Fault Envelope :=
  form.ofString (String.ofList (Text.trim line.toList))

/-- A line that is not blank is one envelope, or one that cannot be read. -/
theorem ofDatagram_of_not_mem {line : String} (h : '\n' ∉ line.toList) :
    ofDatagram line = if Text.trim line.toList = [] then [] else [ofLine line] := by
  unfold ofDatagram
  rw [Text.filledLines_of_not_mem h]
  split <;> rfl

/-! ## Written envelopes -/

/-- The octets an envelope travels as. -/
def octets (e : Envelope) : List UInt8 := Text.Utf8.encode e.line

/-- An envelope whose payload can be sent as it is: its numbers are whole numbers of 64 bits, and
it leaves one level of those that may be read to the envelope itself. That the members of objects
stand in order is no restriction, since a table of members keeps them so. -/
structure Sendable (e : Envelope) : Prop where
  whole : e.payload.isWhole = true
  ordered : e.payload.isOrdered = true
  depth : e.payload.depth ≤ 126

/-- An envelope is read again as it was written. -/
theorem ofString_render {e : Envelope} (h : e.Sendable) :
    form.ofString (form.render e) = .ok e := by
  have hpayload : Form.any.ReadsBack 126 e.payload :=
    Form.readsBack_any (readsBack h.whole h.ordered h.depth)
  have hcarry : Filled (·.Carries 126 e) record.members record.blank e :=
    .cons ((Form.readsBack_text 126 e.topic).carries _ _ _ _)
      (.cons ((Form.readsBack_optional_text 126 e.key).carries _ _ _ _)
        (.cons (hpayload.carries _ _ _ _) (.nil _)))
  have hread := readsBack_record (r := record) (by decide) hcarry [] behind_nil
  rw [Form.ofString, Form.render, Value.render, Source.ofString, String.toList_ofList]
  simp only [form, Value.chars, maxLevels, hread, bind, Except.bind]
  rfl

/-- The line of an envelope comes before the rest of a datagram. -/
theorem ofDatagram_line_append {e : Envelope} (h : e.Sendable) (data : String) :
    ofDatagram (e.line ++ data) = .ok e :: ofDatagram data := by
  obtain ⟨cs, hcs⟩ : ∃ cs, (form.render e).toList = '\x7b' :: (cs ++ ['\x7d']) := by
    rw [Form.render, Value.render, String.toList_ofList]
    exact exists_object_chars _
  have hfeed : '\n' ∉ (form.render e).toList := fun hmem =>
    absurd (form.noControl_render e '\n' hmem) (by decide)
  have htrim : Text.trim (form.render e).toList = (form.render e).toList := by
    rw [hcs]
    exact Text.trim_of_ends (by decide) (by decide) cs
  have hfilled : Text.trim (form.render e).toList ≠ [] := by
    rw [htrim, hcs]
    exact List.cons_ne_nil _ _
  rw [line, ofDatagram_append, ofDatagram_of_not_mem hfeed, if_neg hfilled, ofLine, htrim,
    String.ofList_toList, ofString_render h]
  rfl

/-- Each envelope takes one line. -/
theorem octets_line (e : Envelope) :
    e.octets.count 10 = 1 ∧ e.octets.getLast? = some 10 := by
  have hfeed : (form.render e).toList.count '\n' = 0 :=
    List.count_eq_zero.2 fun hmem => absurd (form.noControl_render e '\n' hmem) (by decide)
  have hsplit : e.octets = Text.Utf8.encode (form.render e) ++ [10] := by
    rw [octets, line, Text.Utf8.encode_append]
    rfl
  refine ⟨?_, ?_⟩
  · rw [hsplit, List.count_append, Text.Utf8.count_encode, hfeed]
    rfl
  · rw [hsplit, List.getLast?_concat]

/-- Envelopes sent one after another are those that come in, in their order. -/
theorem ofDatagram_octets {es : List Envelope} (h : ∀ e ∈ es, e.Sendable) :
    ofDatagram (Text.Utf8.lossy (es.flatMap octets)) = es.map .ok := by
  have htext : ∃ text, es.flatMap octets = Text.Utf8.encode text ∧
      ofDatagram text = es.map .ok := by
    induction es with
    | nil => exact ⟨"", rfl, rfl⟩
    | cons e es ih =>
      obtain ⟨he, hes⟩ := List.forall_mem_cons.1 h
      obtain ⟨text, hoctets, hread⟩ := ih hes
      refine ⟨e.line ++ text, ?_, ?_⟩
      · rw [List.flatMap_cons, hoctets, Text.Utf8.encode_append]
        rfl
      · rw [ofDatagram_line_append he, hread]
        rfl
  obtain ⟨text, hoctets, hread⟩ := htext
  rw [hoctets, Text.Utf8.lossy_encode, hread]

/-! ## Envelopes that have come in -/

/-- An envelope that has come in can be sent as it is, if its numbers are whole. -/
theorem sendable_of_mem {data : String} {e : Envelope} (h : .ok e ∈ ofDatagram data)
    (hwhole : e.payload.isWhole = true) : e.Sendable := by
  obtain ⟨line, -, hline⟩ := List.mem_map.1 h
  obtain ⟨⟨e', rest⟩, hread, hend⟩ := exists_of_bind_eq_ok hline
  obtain ⟨_, -, heq⟩ := exists_of_bind_eq_ok hend
  cases heq
  have hblank : record.blank.payload.Fits 126 := ⟨rfl, Nat.zero_le _⟩
  have hfits : e.payload.Fits 126 := by
    refine keeps_of_read (P := fun e => e.payload.Fits 126) hblank ?_ hread
    -- Only the last member changes the payload, and it is read with a level less.
    refine List.forall_mem_cons.2 ⟨?_, List.forall_mem_cons.2 ⟨?_, List.forall_mem_cons.2 ⟨?_, ?_⟩⟩⟩
    · intro y s y' s' hy hfits
      obtain ⟨a, -, rfl⟩ := exists_of_member_read hy
      exact hfits
    · intro y s y' s' hy hfits
      obtain ⟨a, -, rfl⟩ := exists_of_member_read hy
      exact hfits
    · intro y s y' s' hy _
      obtain ⟨a, ha, rfl⟩ := exists_of_member_read hy
      exact readValue_fits ha
    · exact fun _ h => nomatch h
  exact ⟨hwhole, hfits.ordered, hfits.depth⟩

/-- **There and back.** Envelopes take a line each, and are read from a datagram of these lines as
they were sent, in their order. An envelope that was read from any datagram is the same once more
when it is sent and read, and takes the same octets. -/
theorem wire_roundTrip :
    (∀ es : List Envelope, (∀ e ∈ es, e.Sendable) →
      (∀ e ∈ es, e.octets.count 10 = 1 ∧ e.octets.getLast? = some 10) ∧
      ofDatagram (Text.Utf8.lossy (es.flatMap octets)) = es.map .ok) ∧
    ∀ data e, .ok e ∈ ofDatagram data → e.payload.isWhole = true →
      ofDatagram (Text.Utf8.lossy e.octets) = [.ok e] ∧
      (ofDatagram (Text.Utf8.lossy e.octets)).map (·.map octets) = [.ok e.octets] := by
  refine ⟨fun es h => ⟨fun e _ => octets_line e, ofDatagram_octets h⟩, ?_⟩
  intro data e he hwhole
  have hsame : ofDatagram (Text.Utf8.lossy e.octets) = [.ok e] := by
    have hsent := ofDatagram_octets (List.forall_mem_singleton.2 (sendable_of_mem he hwhole))
    rwa [List.flatMap_singleton] at hsent
  exact ⟨hsame, by rw [hsame]; rfl⟩

/-- An envelope with all that has to be escaped, one that is hardly anything, and one that comes in
as an array, with blanks, an escape that is not needed and a name that stands twice. -/
theorem wire_roundTrip_of_three :
    ∃ e₁ e₂ data,
      e₁ = Envelope.mk "\u0000\n\u2028" none
        (.object [("", .array [.null, .ofInt (-9223372036854775808)]), ("b", .text "\"\\/")]) ∧
      e₂ = ⟨"", some "", .ofInt 18446744073709551615⟩ ∧
      data = " [ \"\\u0074\" , null ,\t\x7b\"b\":1, \"a\":2,\"b\":3\x7d ]\r\n" ∧
      ofDatagram (Text.Utf8.lossy ([e₁, e₂].flatMap octets)) = [.ok e₁, .ok e₂] ∧
      ∃ e₃, .ok e₃ ∈ ofDatagram data ∧
        e₃.line = "\x7b\"topic\":\"t\",\"key\":null,\"payload\":\x7b\"a\":2,\"b\":3\x7d\x7d\n" ∧
        ofDatagram (Text.Utf8.lossy e₃.octets) = [.ok e₃] := by
  refine ⟨_, _, _, rfl, rfl, rfl, (wire_roundTrip.1 _ ?_).2, ?_⟩
  · refine List.forall_mem_cons.2 ⟨?_, List.forall_mem_singleton.2 ?_⟩
    · exact ⟨by decide +kernel, by decide +kernel, by decide +kernel⟩
    · exact ⟨by decide +kernel, by decide +kernel, by decide +kernel⟩
  · have hread : (ofDatagram " [ \"\\u0074\" , null ,\t\x7b\"b\":1, \"a\":2,\"b\":3\x7d ]\r\n").map
        (fun x => x.toOption.map fun e => (e.line, e.payload.isWhole)) =
        [some ("\x7b\"topic\":\"t\",\"key\":null,\"payload\":\x7b\"a\":2,\"b\":3\x7d\x7d\n",
          true)] := by decide +kernel
    obtain ⟨x, hx, hsome⟩ := List.map_eq_singleton_iff.1 hread
    cases x with
    | error fault => cases hsome
    | ok e₃ =>
      have hmem := hx ▸ List.mem_singleton_self (Except.ok e₃)
      obtain ⟨hline, hwhole⟩ := Prod.ext_iff.1 (Option.some.inj hsome)
      exact ⟨e₃, hmem, hline, (wire_roundTrip.2 _ e₃ hmem hwhole).1⟩

end Envelope

end PacketTelemetry
