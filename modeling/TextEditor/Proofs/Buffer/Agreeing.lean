import TextEditor.Proofs.Buffer.FlatText

/-!
# Buffers that differ in how much they have loaded

Two buffers agree when each, with certain lines put after its own, gives the same lines. An edit of
a line that both have works on the front of these lines only, so that it leaves the buffers in
agreement, with the same lines put after them as before.

Main statements: `Agree.line_eq`, what both have is the same, and one lemma for each edit.
-/

namespace TextEditor

/-- Every text has a line. -/
theorem Text.length_le_length_flattenLines (texts : List Text) :
    texts.length ≤ (flattenLines texts).length := by
  induction texts with
  | nil => exact Nat.le_refl 0
  | cons text texts ih =>
      have hpos := List.length_pos_iff.2 (splitLines_ne_nil text)
      rw [flattenLines, List.flatMap_cons, List.length_append, List.length_cons]
      unfold flattenLines at ih
      omega

/-- What is put behind the last line adds no line. -/
theorem length_extendLast (tail : Text) (lines : List Text) :
    (extendLast tail lines).length = lines.length := by
  induction lines with
  | nil => rfl
  | cons line lines ih =>
      cases lines with
      | nil => rfl
      | cons next lines => exact congrArg (· + 1) ih

namespace LineBuffer

variable {a b : LineBuffer} {more others : List Text} {index : Nat}

/-- The lines of two buffers are the same once those that each has still to load are put after
them. -/
structure Agree (a b : LineBuffer) (more others : List Text) : Prop where
  lines : a.lines ++ more = b.lines ++ others
  highlighter : a.highlighter = b.highlighter

namespace Agree

/-- A line that both buffers have is the same in both. -/
theorem line_eq (h : Agree a b more others) (ha : index < a.length) (hb : index < b.length) :
    a.line index = b.line index := by
  have hget := congrArg (fun lines => lines[index]?) h.lines
  simp only [List.getElem?_append_left (show index < a.lines.length from ha),
    List.getElem?_append_left (show index < b.lines.length from hb)] at hget
  show (a.lines[index]?).getD [] = (b.lines[index]?).getD []
  rw [hget]

/-- A line that both buffers have is equally long in both. -/
theorem lineSize_eq (h : Agree a b more others) (ha : index < a.length) (hb : index < b.length) :
    a.lineSize index = b.lineSize index :=
  congrArg Text.size (h.line_eq ha hb)

/-! ## The ways to change the lists -/

/-- Agreement outlives a change of a line that both buffers have. -/
theorem setLine (h : Agree a b more others) (ha : index < a.length) (hb : index < b.length)
    (text : Text) : Agree (a.setLine index text) (b.setLine index text) more others := by
  refine ⟨?_, h.highlighter⟩
  show a.lines.set index text ++ more = b.lines.set index text ++ others
  rw [← List.set_append_left _ _ ha, h.lines, List.set_append_left _ _ hb]

/-- Agreement outlives lines put in behind a line that both buffers have. -/
theorem insertLinesAfter (h : Agree a b more others) (ha : index < a.length)
    (hb : index < b.length) (texts : List Text) :
    Agree (a.insertLinesAfter index texts) (b.insertLinesAfter index texts) more others := by
  have hfront (buffer : LineBuffer) (rest : List Text) (hindex : index < buffer.length) :
      (buffer.insertLinesAfter index texts).lines ++ rest =
        insertItems (buffer.lines ++ rest) (index + 1) (Text.flattenLines texts) := by
    have hle : index + 1 ≤ buffer.lines.length := hindex
    rw [lines_insertLinesAfter, clampLine_of_lt hindex, insertItems, insertItems,
      List.take_append_of_le_length hle, List.drop_append_of_le_length hle, List.append_assoc]
  exact ⟨by rw [hfront a more ha, hfront b others hb, h.lines], h.highlighter⟩

/-- Agreement outlives the removal of a line that both buffers have. -/
theorem eraseLine (h : Agree a b more others) (ha : index < a.length) (hb : index < b.length) :
    Agree (a.eraseLine index) (b.eraseLine index) more others := by
  refine ⟨?_, h.highlighter⟩
  show a.lines.eraseIdx index ++ more = b.lines.eraseIdx index ++ others
  rw [← List.eraseIdx_append_of_lt_length ha, h.lines, List.eraseIdx_append_of_lt_length hb]

/-- Agreement is on lines, so that it outlives another highlighter. -/
theorem setHighlighter (h : Agree a b more others) (highlighter : Highlighter) :
    Agree (a.setHighlighter highlighter) (b.setHighlighter highlighter) more others :=
  ⟨h.lines, rfl⟩

/-! ## Edits -/

/-- An insertion tells the same position in both buffers. -/
theorem insert (h : Agree a b more others) (ha : index < a.length) (hb : index < b.length)
    (column : Nat) (text : Text) :
    (a.insert index column text).1 = (b.insert index column text).1 ∧
      Agree (a.insert index column text).2 (b.insert index column text).2 more others := by
  unfold LineBuffer.insert
  simp only [clampLine_of_lt ha, clampLine_of_lt hb, h.line_eq ha hb]
  split
  · exact ⟨rfl, h.setLine ha hb _⟩
  · refine ⟨rfl, (h.setLine ha hb _).insertLinesAfter ?_ ?_ _⟩
    · rw [length_setLine]
      exact ha
    · rw [length_setLine]
      exact hb

/-- Agreement outlives a removal within a line that both buffers have. -/
theorem removeRange (h : Agree a b more others) (ha : index < a.length) (hb : index < b.length)
    (start stop : Nat) :
    Agree (a.removeRange index start stop).2 (b.removeRange index start stop).2 more others := by
  unfold LineBuffer.removeRange
  simp only [clampLine_of_lt ha, clampLine_of_lt hb, h.line_eq ha hb]
  split
  · exact h
  · exact h.setLine ha hb _

/-- Agreement outlives a split of a line that both buffers have. -/
theorem splitLine (h : Agree a b more others) (ha : index < a.length) (hb : index < b.length)
    (column : Nat) (lead : Text) :
    Agree (a.splitLine index column lead).2 (b.splitLine index column lead).2 more others := by
  unfold LineBuffer.splitLine
  simp only [clampLine_of_lt ha, clampLine_of_lt hb, h.line_eq ha hb]
  refine (h.setLine ha hb _).insertLinesAfter ?_ ?_ _
  · rw [length_setLine]
    exact ha
  · rw [length_setLine]
    exact hb

end Agree

/-! ## Lengths after edits -/

variable {buffer : LineBuffer}

/-- A removal stays within its line, so that the number of lines is the same. -/
@[simp] theorem length_removeRange (buffer : LineBuffer) (line start stop : Nat) :
    (buffer.removeRange line start stop).2.length = buffer.length := by
  unfold removeRange
  simp only
  split
  · rfl
  · exact length_setLine ..

/-- Each of some texts that are put after a line takes a line at least. -/
theorem add_length_lt_length_insertLinesAfter (h : index < buffer.length) (texts : List Text) :
    index + texts.length < (buffer.insertLinesAfter index texts).length := by
  have hlines := Text.length_le_length_flattenLines texts
  rw [length_insertLinesAfter]
  omega

/-- An insertion tells a line that is there, and takes no line away. -/
theorem line_insert_lt (h : index < buffer.length) (column : Nat) (text : Text) :
    (buffer.insert index column text).1.line < (buffer.insert index column text).2.length ∧
      buffer.length ≤ (buffer.insert index column text).2.length := by
  unfold insert
  simp only [clampLine_of_lt h]
  split
  · rw [length_setLine]
    exact ⟨h, Nat.le_refl _⟩
  · have hline : index < (buffer.setLine index
        ((buffer.line index).before column ++ (Text.splitLines text).headD [])).length := by
      rw [length_setLine]
      exact h
    have hlt := add_length_lt_length_insertLinesAfter hline (extendLast
      ((buffer.line index).after column) (Text.splitLines text).tail)
    rw [length_extendLast] at hlt
    refine ⟨hlt, ?_⟩
    rw [length_insertLinesAfter, length_setLine]
    exact Nat.le_add_right _ _

/-- The line behind the cut is there. -/
theorem line_splitLine_lt (h : index < buffer.length) (column : Nat) (lead : Text) :
    (buffer.splitLine index column lead).1 < (buffer.splitLine index column lead).2.length := by
  unfold splitLine
  simp only [clampLine_of_lt h]
  have hline : index < (buffer.setLine index ((buffer.line index).before column)).length := by
    rw [length_setLine]
    exact h
  exact add_length_lt_length_insertLinesAfter hline [lead ++ (buffer.line index).after column]

/-- Joining a line with the next, as the lines that it leaves. -/
theorem joinWithNext_of_lt (h : index + 1 < buffer.length) :
    buffer.joinWithNext index = some (buffer.lineSize index,
      (buffer.eraseLine (index + 1)).setLine index
        (buffer.line index ++ buffer.line (index + 1))) := if_pos h

/-- The last line is joined with nothing. -/
theorem joinWithNext_of_not_lt (h : ¬ index + 1 < buffer.length) :
    buffer.joinWithNext index = none := if_neg h

/-- Without one of its lines a buffer is shorter by one. -/
theorem length_eraseLine (h : index < buffer.length) :
    (buffer.eraseLine index).length = buffer.length - 1 :=
  List.length_eraseIdx_of_lt h

/-- Where both buffers have the next line, joining tells the same size in both and leaves the line
that it joined. -/
theorem Agree.joinWithNext (h : Agree a b more others) (ha : index + 1 < a.length)
    (hb : index + 1 < b.length) :
    ∃ size x y, a.joinWithNext index = some (size, x) ∧ b.joinWithNext index = some (size, y) ∧
      Agree x y more others ∧ index < x.length ∧ index < y.length := by
  have ha' : index < (a.eraseLine (index + 1)).length := by
    rw [length_eraseLine ha]
    omega
  have hb' : index < (b.eraseLine (index + 1)).length := by
    rw [length_eraseLine hb]
    omega
  rw [joinWithNext_of_lt ha, joinWithNext_of_lt hb]
  refine ⟨_, _, _, rfl, ?_, (h.eraseLine ha hb).setLine ha' hb' _, ?_, ?_⟩
  · rw [h.lineSize_eq (Nat.lt_of_succ_lt ha) (Nat.lt_of_succ_lt hb),
      h.line_eq (Nat.lt_of_succ_lt ha) (Nat.lt_of_succ_lt hb), h.line_eq ha hb]
  · rw [length_setLine]
    exact ha'
  · rw [length_setLine]
    exact hb'

end LineBuffer

end TextEditor
