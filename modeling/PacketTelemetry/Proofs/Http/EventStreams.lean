/-
Streams of events, as they are read again (`streamTexts_eventStream`).

Whoever reads a stream sees lines: a line feed ends one, and so does a carriage
return, with a line feed behind it or without (`cutLines`). A blank line ends an
event (`cutEvents`). So a text inside an event is safe if it has neither of the
two, and what is written in a form has no control characters at all
(`Form.noControl_render`): each item is a line of its own and a blank line,
whatever stands in it and whatever comes after it.
-/
import Mathlib.Data.List.Basic
import PacketTelemetry.Http.Service
import PacketTelemetry.Proofs.Json.Records

namespace PacketTelemetry.Http

open Json Time

/-! ## Reading a stream -/

/-- The lines that are ended, after what there is of the first. `returned` tells that a carriage
return has just ended a line, and a line feed goes with it. -/
def cutLines (returned : Bool) (line : List Char) : List Char → List (List Char)
  | [] => []
  | '\n' :: cs => if returned then cutLines false [] cs else line :: cutLines false [] cs
  | '\r' :: cs => line :: cutLines true [] cs
  | c :: cs => cutLines false (line ++ [c]) cs

/-- The lines of the events that are ended, after those there are of the first. -/
def cutEvents (event : List (List Char)) : List (List Char) → List (List (List Char))
  | [] => []
  | [] :: lines => event :: cutEvents [] lines
  | line :: lines => cutEvents (event ++ [line]) lines

/-- The lines of a stream. -/
def streamLines (stream : String) : List (List Char) := cutLines false [] stream.toList

/-- The text an event carries, if it is one line of data. -/
def eventText? : List (List Char) → Option String
  | [line] => (line.dropPrefix? "data: ".toList).map String.ofList
  | _ => none

/-- The texts of the events of a stream. -/
def streamTexts (stream : String) : List (Option String) :=
  (cutEvents [] (streamLines stream)).map eventText?

/-- The events of items, one after another. -/
def eventStream (z : Zone) (ch : Channel) (items : List ch.Item) : String :=
  String.join (items.map (event z ch))

/-! ## Lines -/

/-- A text without control characters is not cut before the line feed behind it. -/
theorem cutLines_text {cs : List Char} (h : NoControl cs) (line rest : List Char) :
    cutLines false line (cs ++ '\n' :: rest) = (line ++ cs) :: cutLines false [] rest := by
  induction cs generalizing line with
  | nil => rw [List.nil_append, List.append_nil, cutLines, if_neg Bool.false_ne_true]
  | cons c cs ih =>
    have hc : 0x20 ≤ c.toNat := h c List.mem_cons_self
    have hfeed : c ≠ '\n' := by
      rintro rfl
      exact absurd hc (by decide)
    have hreturn : c ≠ '\r' := by
      rintro rfl
      exact absurd hc (by decide)
    have hrest : NoControl cs := fun d hd => h d (List.mem_cons_of_mem c hd)
    have hkept : cutLines false line (c :: (cs ++ '\n' :: rest)) =
        cutLines false (line ++ [c]) (cs ++ '\n' :: rest) := by
      rw [cutLines] <;> assumption
    rw [List.cons_append, hkept, ih hrest, List.append_assoc, List.singleton_append]

variable (z : Zone) {ch : Channel}

/-- The line of data of an item. -/
def dataLine (z : Zone) (item : ch.Item) : List Char :=
  "data: ".toList ++ ((ch.form z).render item).toList

theorem streamLines_event_append (item : ch.Item) (rest : String) :
    streamLines (event z ch item ++ rest) = dataLine z item :: [] :: streamLines rest := by
  have hline : NoControl (dataLine z item) :=
    NoControl.append (by decide) ((ch.form z).noControl_render item)
  have hchars : ∀ a b c d : String,
      (a ++ b ++ c ++ d).toList = (a.toList ++ b.toList) ++ (c.toList ++ d.toList) := by
    simp only [String.toList_append, List.append_assoc, implies_true]
  rw [streamLines, event, hchars]
  exact cutLines_text hline [] ('\n' :: rest.toList)

/-- An event is a line of data and a blank line. -/
theorem streamLines_event (item : ch.Item) :
    streamLines (event z ch item) = [dataLine z item, []] := by
  have hlines := streamLines_event_append z item ""
  rwa [String.append_empty] at hlines

/-! ## Events -/

theorem eventText?_dataLine (item : ch.Item) :
    eventText? [dataLine z item] = some ((ch.form z).render item) := by
  have hdrop : (dataLine z item).dropPrefix? "data: ".toList =
      some ((ch.form z).render item).toList :=
    List.dropPrefix?_append_of_beq _ (beq_self_eq_true _)
  rw [eventText?, hdrop, Option.map_some, String.ofList_toList]

theorem streamTexts_event_append (item : ch.Item) (rest : String) :
    streamTexts (event z ch item ++ rest) = some ((ch.form z).render item) :: streamTexts rest := by
  rw [streamTexts, streamLines_event_append, ← eventText?_dataLine z]
  rfl

/-- Events are read one by one, and what comes after them as if it stood alone. -/
theorem streamTexts_eventStream_append (items : List ch.Item) (rest : String) :
    streamTexts (eventStream z ch items ++ rest) =
      items.map (fun item => some ((ch.form z).render item)) ++ streamTexts rest := by
  induction items with
  | nil => simp [eventStream]
  | cons item items ih =>
    have hfirst : eventStream z ch (item :: items) = event z ch item ++ eventStream z ch items :=
      String.join_cons
    rw [hfirst, String.append_assoc, streamTexts_event_append, ih]
    rfl

/-- From the events of items their texts are read, each whole and in its place. -/
theorem streamTexts_eventStream (items : List ch.Item) :
    streamTexts (eventStream z ch items) =
      items.map fun item => some ((ch.form z).render item) := by
  have htexts := streamTexts_eventStream_append z items ""
  rw [String.append_empty] at htexts
  exact htexts.trans (List.append_nil _)

end PacketTelemetry.Http
