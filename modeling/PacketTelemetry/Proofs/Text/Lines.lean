/-
The filled lines of a text that is put together from others: between any two
of them a line feed makes a seam, and across it the lines of the one follow
those of the other (`filledLines_append`).

That is so whatever stands at the seam. A carriage return before it is white
space, which is taken off the line in any case, and what is empty there is no
filled line.
-/
import PacketTelemetry.Text.Lines

namespace PacketTelemetry.Text

/-! ## White space at the ends -/

theorem trimStart_of_head {c : Char} (hc : isSpace c = false) (cs : List Char) :
    trimStart (c :: cs) = c :: cs := by
  simp [trimStart, hc]

/-- White space at the end of a text comes off with the rest of it. -/
theorem trim_append_space (cs : List Char) {c : Char} (hc : isSpace c = true) :
    trim (cs ++ [c]) = trim cs := by
  have hend : ∀ cs : List Char, trimEnd (cs ++ [c]) = trimEnd cs := by
    intro cs
    simp [trimEnd, trimStart, hc]
  have hstart : trimStart (cs ++ [c]) = trimStart cs ++ [c] ∨
      trimStart (cs ++ [c]) = [] ∧ trimStart cs = [] := by
    simp only [trimStart, List.dropWhile_append]
    split
    · next h => exact .inr ⟨by simp [hc], by simpa using h⟩
    · exact .inl rfl
  unfold trim
  rcases hstart with h | ⟨h, h'⟩
  · rw [h, hend]
  · rw [h, h']

theorem trim_dropReturn (line : List Char) : trim (dropReturn line) = trim line := by
  unfold dropReturn
  split
  · next rest h =>
    have hline : line = rest.reverse ++ ['\r'] := by
      rw [← List.reverse_reverse line, h, List.reverse_cons]
    rw [hline, trim_append_space rest.reverse (by decide)]
  · rfl

/-- A text that neither begins nor ends with white space is left as it is. -/
theorem trim_of_ends {first last : Char} (hfirst : isSpace first = false)
    (hlast : isSpace last = false) (cs : List Char) :
    trim (first :: (cs ++ [last])) = first :: (cs ++ [last]) := by
  rw [trim, trimStart_of_head hfirst, trimEnd, ← List.cons_append, List.reverse_append,
    List.reverse_singleton, List.singleton_append, trimStart_of_head hlast, List.reverse_cons,
    List.reverse_reverse]

/-! ## Seams -/

/-- Lines that hold more than white space, without the white space around them. -/
def filled (lines : List (List Char)) : List (List Char) :=
  (lines.map trim).filter fun line => !line.isEmpty

theorem filled_cons (line : List Char) (lines : List (List Char)) :
    filled (line :: lines) = filled [line] ++ filled lines :=
  List.filter_append [trim line] (lines.map trim)

theorem filled_singleton (line : List Char) :
    filled [line] = if trim line = [] then [] else [trim line] := by
  cases h : trim line <;> simp [filled, h]

/-- What has been read of a line counts if it is filled. -/
theorem filled_linesFrom_nil (line : List Char) :
    filled (linesFrom line []) = filled [line.reverse] := by
  cases line with
  | nil => rfl
  | cons c line => rfl

theorem filled_linesFrom_append (line a b : List Char) :
    filled (linesFrom line (a ++ '\n' :: b)) =
      filled (linesFrom line a) ++ filled (linesFrom [] b) := by
  induction a generalizing line with
  | nil =>
    have hreturn : filled [dropReturn line.reverse] = filled [line.reverse] := by
      rw [filled_singleton, filled_singleton, trim_dropReturn]
    have hfeed : linesFrom line ('\n' :: b) = dropReturn line.reverse :: linesFrom [] b := rfl
    rw [List.nil_append, hfeed, filled_cons, hreturn, filled_linesFrom_nil]
  | cons c a ih =>
    rw [List.cons_append, linesFrom, linesFrom]
    split
    · rw [filled_cons, ih, filled_cons _ (linesFrom [] a), List.append_assoc]
    · exact ih (c :: line)

/-- Without a line feed there is one line at the most. -/
theorem filled_linesFrom_of_not_mem {line cs : List Char} (h : '\n' ∉ cs) :
    filled (linesFrom line cs) = filled [line.reverse ++ cs] := by
  induction cs generalizing line with
  | nil => rw [filled_linesFrom_nil, List.append_nil]
  | cons c cs ih =>
    simp only [List.mem_cons, not_or] at h
    obtain ⟨hc, hcs⟩ := h
    rw [linesFrom, if_neg (Ne.symm hc), ih hcs, List.reverse_cons, List.append_assoc]
    rfl

theorem filledLines_append (a b : String) :
    filledLines (a ++ "\n" ++ b) = filledLines a ++ filledLines b := by
  have hseam : (a ++ "\n" ++ b).toList = a.toList ++ '\n' :: b.toList := by
    simp [String.toList_append]
  show filled (linesFrom [] (a ++ "\n" ++ b).toList) = _
  rw [hseam]
  exact filled_linesFrom_append [] a.toList b.toList

theorem filledLines_of_not_mem {text : String} (h : '\n' ∉ text.toList) :
    filledLines text = if trim text.toList = [] then [] else [trim text.toList] := by
  show filled (linesFrom [] text.toList) = _
  rw [filled_linesFrom_of_not_mem h, filled_singleton]
  rfl

/-- Texts with line feeds between them. -/
theorem filledLines_intercalate (texts : List String) :
    filledLines ("\n".intercalate texts) = texts.flatMap filledLines := by
  induction texts with
  | nil => rfl
  | cons text texts ih =>
    cases texts with
    | nil => simp
    | cons text' texts =>
      rw [String.intercalate_cons_cons, filledLines_append, ih]
      rfl

end PacketTelemetry.Text
