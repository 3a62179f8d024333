/-
Datagrams as sequences of lines: all that counts of a datagram is which lines of
use there are in it, and in which order (`Collector.receiveDatagram_lines`).

Two datagrams with a line feed between them come to what the one comes to and
then the other, whatever they end and begin with, since their filled lines are
the same (`Text.filledLines_append`). So it cannot be told how lines were put
together to datagrams. Lines of no use change nothing where they stand
(`Wasted`), and might as well be left out.
-/
import PacketTelemetry.Proofs.Broker.Envelopes
import PacketTelemetry.Proofs.Collector.Refusals

namespace PacketTelemetry

open Json

/-! ## Lines of no use -/

/-- A line of a datagram that is of no use: it is blank, or no envelope, or a heartbeat that is not
an agent's. -/
inductive Wasted (t : Topics) (line : String) : Prop
  | blank (h : Text.trim line.toList = [])
  | unreadable {fault : Fault} (h : Envelope.ofLine line = .error fault)
  | refused {e : Envelope} {mismatch : Mismatch} (h : Envelope.ofLine line = .ok e)
      (ht : e.topic = t.heartbeats) (hp : Agent.form.take e.payload = .error mismatch)

/-- Lines of which some that are of no use have been left out. -/
inductive Thinned (t : Topics) : List String → List String → Prop
  | nil : Thinned t [] []
  | kept {lines lines' : List String} (line : String) (h : Thinned t lines lines') :
      Thinned t (line :: lines) (line :: lines')
  | dropped {lines lines' : List String} {line : String} (hline : '\n' ∉ line.toList)
      (hw : Wasted t line) (h : Thinned t lines lines') : Thinned t (line :: lines) lines'

theorem Thinned.refl (t : Topics) (lines : List String) : Thinned t lines lines := by
  induction lines with
  | nil => exact .nil
  | cons line lines ih => exact .kept line ih

theorem usableLines_of_wasted {t : Topics} {line : String} (hline : '\n' ∉ line.toList)
    (hw : Wasted t line) : usableLines t line = [] := by
  unfold usableLines
  rw [Envelope.ofDatagram_of_not_mem hline]
  split
  · rfl
  next hfilled =>
  cases hw with
  | blank h => exact absurd h hfilled
  | unreadable h => simp [h, unusable]
  | refused h ht hp => simp [h, unusable, ht, hp, Except.isOk, Except.toBool]

theorem usableLines_intercalate (t : Topics) (lines : List String) :
    usableLines t ("\n".intercalate lines) = lines.flatMap (usableLines t) := by
  unfold usableLines
  rw [Envelope.ofDatagram_intercalate, List.filter_flatMap]

theorem Thinned.usableLines {t : Topics} {lines lines' : List String} (h : Thinned t lines lines') :
    lines.flatMap (usableLines t) = lines'.flatMap (usableLines t) := by
  induction h with
  | nil => rfl
  | kept line _ ih => rw [List.flatMap_cons, List.flatMap_cons, ih]
  | dropped hline hw _ ih =>
    rw [List.flatMap_cons, usableLines_of_wasted hline hw, ih, List.nil_append]

namespace Collector

/-! ## Datagrams one after another -/

/-- Datagrams come in one after another. Gives where their good lines went. -/
def receiveAll (c : Collector) : List String → Collector × List Routed
  | [] => (c, [])
  | data :: rest =>
    let (c, first) := c.receiveDatagram data
    let (c, later) := c.receiveAll rest
    (c, first ++ later)

theorem routeLines_append (c : Collector) (lines lines' : List (Except Fault Envelope)) :
    c.routeLines (lines ++ lines') =
      (((c.routeLines lines).1.routeLines lines').1,
        (c.routeLines lines).2 ++ ((c.routeLines lines).1.routeLines lines').2) := by
  induction lines generalizing c with
  | nil => rfl
  | cons line lines ih => simp only [List.cons_append, routeLines, ih]

theorem receiveDatagram_append (c : Collector) (a b : String) :
    c.receiveDatagram (a ++ "\n" ++ b) =
      (((c.receiveDatagram a).1.receiveDatagram b).1,
        (c.receiveDatagram a).2 ++ ((c.receiveDatagram a).1.receiveDatagram b).2) := by
  simp only [receiveDatagram, routeDatagram, Envelope.ofDatagram_append, routeLines_append,
    List.filterMap_append]

/-- One after another, datagrams come to what they come to at once. -/
theorem receiveAll_eq (c : Collector) (datagrams : List String) :
    c.receiveAll datagrams = c.receiveDatagram ("\n".intercalate datagrams) := by
  induction datagrams generalizing c with
  | nil => rfl
  | cons data rest ih =>
    cases rest with
    | nil => simp [receiveAll]
    | cons data' rest =>
      rw [String.intercalate_cons_cons, receiveDatagram_append, ← ih]
      rfl

/-- Lines that are put together to datagrams in one way or another, and of which some that are of no
use have been left out. -/
theorem receiveAll_thinned {c : Collector} {groups groups' : List (List String)}
    (h : Thinned c.topics groups.flatten groups'.flatten) :
    c.receiveAll (groups.map "\n".intercalate) = c.receiveAll (groups'.map "\n".intercalate) := by
  have hlines : ∀ groups : List (List String),
      usableLines c.topics ("\n".intercalate (groups.map "\n".intercalate)) =
        groups.flatten.flatMap (usableLines c.topics) := by
    intro groups
    rw [usableLines_intercalate, List.flatMap_map, List.flatten_eq_flatMap, List.flatMap_assoc]
    simp only [usableLines_intercalate, id_eq]
  rw [receiveAll_eq, receiveAll_eq]
  refine receiveDatagram_usable ?_
  rw [hlines, hlines, h.usableLines]

/-- **Line by line.** Of two datagrams with a line feed between them the envelopes are those of the
one and then those of the other, and they come to what the one comes to and then the other. Lines
of no use can be left out of a datagram. Neither does it matter to how many datagrams the lines are
put together, and which ones to each. -/
theorem receiveDatagram_lines (c : Collector) :
    (∀ a b, Envelope.ofDatagram (a ++ "\n" ++ b) =
      Envelope.ofDatagram a ++ Envelope.ofDatagram b) ∧
    (∀ a b, c.receiveDatagram (a ++ "\n" ++ b) =
      (((c.receiveDatagram a).1.receiveDatagram b).1,
        (c.receiveDatagram a).2 ++ ((c.receiveDatagram a).1.receiveDatagram b).2)) ∧
    (∀ lines lines', Thinned c.topics lines lines' →
      c.receiveDatagram ("\n".intercalate lines) = c.receiveDatagram ("\n".intercalate lines')) ∧
    ∀ groups groups' : List (List String), Thinned c.topics groups.flatten groups'.flatten →
      c.receiveAll (groups.map "\n".intercalate) = c.receiveAll (groups'.map "\n".intercalate) := by
  refine ⟨Envelope.ofDatagram_append, c.receiveDatagram_append, ?_, fun _ _ => receiveAll_thinned⟩
  intro lines lines' h
  refine receiveDatagram_usable ?_
  rw [usableLines_intercalate, usableLines_intercalate, h.usableLines]

/-- Of four lines only one is of use: the others are a blank one, one that is no envelope, and a
heartbeat without a name. -/
theorem receiveDatagram_lines_of_four :
    ∃ c useless useful, c = new ⟨.memory (.new 0), .standard, .standard, 1000, 100, .utc⟩ ∧
      useless = "\x7b\"topic\":\"netwatch.agent-heartbeat\",\"payload\":\x7b\x7d\x7d\r" ∧
      useful = "\x7b\"topic\":\"netwatch.agent-heartbeat\",\"payload\":[\"a\",null,null,null,null]\x7d" ∧
      c.receiveDatagram ("\n".intercalate [" \t\r", "nothing", useless, useful]) =
        c.receiveDatagram ("\n".intercalate [useful]) := by
  refine ⟨_, _, _, rfl, rfl, rfl, (receiveDatagram_lines _).2.2.1 _ _ ?_⟩
  have hfault : Envelope.ofLine "nothing" = .error .malformed := by cbv
  have hread : Envelope.ofLine
      "\x7b\"topic\":\"netwatch.agent-heartbeat\",\"payload\":\x7b\x7d\x7d\r" =
        .ok ⟨"netwatch.agent-heartbeat", none, .object []⟩ := by cbv
  have htake : Agent.form.take (.object []) = .error (.missing "agentId") := by cbv
  refine .dropped (by decide +kernel) (.blank (by decide +kernel)) ?_
  refine .dropped (by decide +kernel) (.unreadable hfault) ?_
  exact .dropped (by decide +kernel) (.refused hread rfl htake) (.refl _ _)

end Collector

end PacketTelemetry
