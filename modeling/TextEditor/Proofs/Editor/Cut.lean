import TextEditor.Proofs.Editor.Balanced

/-!
# The document around the cursor

A document with a cursor in it, as four pieces: the lines above the cursor's line, the two parts of
that line, and the lines below. An edit at the cursor changes the pieces near the cut and leaves the
others alone, so that what it does is said by the pieces before it and after it.

Main statements: `Sound.at_cut`, `At.serialize_eq`, and `at_jumpTo`, which says where the cursor
is once the lines are known.
-/

namespace TextEditor

/-- A document that is cut at a cursor. -/
structure Cut where
  above : List Text
  /-- The cursor's line before the cursor. -/
  before : Text
  /-- The cursor's line behind the cursor. -/
  behind : Text
  below : List Text
  deriving DecidableEq, Repr

namespace Cut

/-- The lines of the document. -/
def lines (cut : Cut) : List Text :=
  cut.above ++ (cut.before ++ cut.behind) :: cut.below

/-- All that stands before the cursor. -/
def textBefore (cut : Cut) : Text := cut.above.flatMap (· ++ ['\n']) ++ cut.before

/-- All that stands behind the cursor. -/
def textBehind (cut : Cut) : Text := cut.behind ++ cut.below.flatMap ('\n' :: ·)

end Cut

namespace LineBuffer

variable {buffer : LineBuffer} {above below : List Text}

/-- A stretch is taken out of a line. -/
theorem lines_removeRange {s u v : Text} (h : buffer.lines = above ++ (s ++ (u ++ v)) :: below) :
    (buffer.removeRange above.length s.size (s.size + u.size)).2.lines =
      Cut.lines ⟨above, s, v, below⟩ := by
  have hline := line_of_lines_eq h
  have hlt : above.length < buffer.length := by
    rw [length_of_lines_eq h]
    omega
  have hstart : (s ++ (u ++ v)).floor s.size = s.size :=
    Text.floor_eq_of_isBoundary (Text.isBoundary_append_size _ _)
  have hstop : (s ++ (u ++ v)).floor (s.size + u.size) = s.size + u.size :=
    Text.floor_eq_of_isBoundary (Text.isBoundary_append_size_add (Text.isBoundary_append_size _ _))
  simp only [removeRange, clampLine_of_lt hlt, hline, hstart, hstop,
    Nat.min_eq_left (Nat.le_add_right _ _)]
  split
  · next hsame =>
      obtain rfl : u = [] := Text.size_eq_zero_iff.1 (by omega)
      exact h
  · rw [lines_setLine, h, Text.before_append_size, Text.after_append_size_add,
      Text.after_append_size, List.set_append_right _ _ (Nat.le_refl _), Nat.sub_self,
      List.set_cons_zero]
    rfl

/-- A line and the one below it become one. -/
theorem joinWithNext_of_lines {x y : Text} (h : buffer.lines = above ++ x :: y :: below) :
    ∃ joined, buffer.joinWithNext above.length = some (x.size, joined) ∧
      joined.lines = Cut.lines ⟨above, x, y, below⟩ := by
  have hnext : buffer.lines = (above ++ [x]) ++ y :: below := by simp [h]
  have hline := line_of_lines_eq h
  have hline' := line_of_lines_eq hnext
  have hlt : above.length + 1 < buffer.length := by
    rw [length_of_lines_eq h, List.length_cons]
    omega
  rw [List.length_append, List.length_singleton] at hline'
  have hjoin := joinWithNext_of_lt hlt
  rw [lineSize, hline, hline'] at hjoin
  refine ⟨_, hjoin, ?_⟩
  rw [lines_setLine_eraseLine hlt, h]
  simp [Cut.lines]

end LineBuffer

/-- A bracket of the pairs is the last character of a text, and what closes it the first of
another. -/
def CharPair.Enclose (pairs : List CharPair) (before behind : Text) : Prop :=
  ∃ opener closer, before.getLast? = some opener ∧ behind.head? = some closer ∧ opener ≠ closer ∧
    (opener, closer) ∈ pairs

/-- The cursor is between the brackets of a pair just when they enclose the cut. -/
theorem CharPair.isSome_around?_iff {pairs : List CharPair} {before behind : Text} :
    (around? pairs (before ++ behind) before.size).isSome = true ↔ Enclose pairs before behind := by
  rw [around?, Text.charsAround, Text.before_append_size, Text.after_append_size]
  cases hbefore : before.getLast? with
  | none => simp [Enclose, hbefore]
  | some opener =>
      cases hbehind : behind.head? with
      | none => simp [Enclose, hbehind]
      | some closer => simp [Enclose, hbefore, hbehind, isBracketPair, apply_ite Option.isSome]

namespace Editor

variable {editor after : Editor} {pieces : Cut} {origin : Option LineSource}

/-- The document consists of these pieces, and the cursor is at the cut. -/
structure At (editor : Editor) (pieces : Cut) : Prop where
  lines : editor.buffer.lines = pieces.lines
  line : editor.cursor.line = pieces.above.length
  column : editor.cursor.column = pieces.before.size

/-- The document of an editor, cut at its cursor. -/
def cut (editor : Editor) : Cut where
  above := editor.buffer.lines.take editor.cursor.line
  before := editor.textBefore
  behind := editor.textAfter
  below := editor.buffer.lines.drop (editor.cursor.line + 1)

/-- An editor that is sound is at the cut that its own cursor makes. -/
theorem Sound.at_cut (h : editor.Sound origin) : editor.At editor.cut where
  lines := by
    have hlines := LineBuffer.lines_eq_append h.cursor.line_lt
    rwa [← Text.before_append_after (editor.buffer.line _) editor.cursor.column] at hlines
  line := (LineBuffer.length_take_lines h.cursor.line_lt).symm
  column := (Text.floor_eq_of_isBoundary h.isBoundary_currentLine).symm

namespace At

variable (h : editor.At pieces)
include h

/-- The cursor's line is made of the pieces before the cursor and behind it. -/
theorem currentLine_eq : editor.currentLine = pieces.before ++ pieces.behind := by
  rw [currentLine, h.line]
  exact LineBuffer.line_of_lines_eq h.lines

/-- The loaded lines are those above the cursor's, that one, and those below. -/
theorem length_eq : editor.buffer.length = pieces.above.length + (pieces.below.length + 1) :=
  LineBuffer.length_of_lines_eq h.lines

/-- The cursor is past the start of its line just when there is something before it. -/
theorem column_pos_iff : 0 < editor.cursor.column ↔ pieces.before ≠ [] := by
  rw [h.column, Nat.pos_iff_ne_zero, Ne, Text.size_eq_zero_iff]

/-- The cursor is short of the end of its line just when there is something behind it. -/
theorem column_lt_size_iff : editor.cursor.column < editor.currentLine.size ↔
    pieces.behind ≠ [] := by
  rw [h.column, h.currentLine_eq, Text.size_append, Nat.lt_add_right_iff_pos, Nat.pos_iff_ne_zero,
    Ne, Text.size_eq_zero_iff]

/-- The document as one text, cut at the cursor. -/
theorem serialize_eq : editor.buffer.serialize = pieces.textBefore ++ pieces.textBehind := by
  rw [LineBuffer.serialize_of_lines_eq h.lines]
  simp [Cut.textBefore, Cut.textBehind]

end At

/-! ## Putting the cursor somewhere -/

/-- An editor that does not stream has no source left to read. -/
theorem unfinished?_eq_none (h : editor.isStreaming = false) : editor.unfinished? = none := by
  rwa [isStreaming, Option.isSome_eq_false_iff, Option.isNone_iff_eq_none] at h

/-- Once the document consists of some pieces, the cursor can be put at the cut; the most that can
happen on the way is that more lines are read below. -/
theorem at_jumpTo (h : editor.buffer.lines = pieces.lines) :
    ∃ more, (editor.jumpTo pieces.above.length pieces.before.size).At
      { pieces with below := pieces.below ++ more } := by
  have hlt : pieces.above.length < editor.buffer.length := by
    rw [LineBuffer.length_of_lines_eq h]
    omega
  have hcursor := cursor_jumpTo_of_lt hlt pieces.before.size
  obtain ⟨more, hmore⟩ :=
    (editor.untouched_jumpTo pieces.above.length pieces.before.size).lines_kept
  refine ⟨more, ⟨?_, ?_, ?_⟩⟩
  · rw [← hmore, h]
    simp [Cut.lines]
  · rw [hcursor]
    exact LineBuffer.clampLine_of_lt hlt
  · rw [hcursor, Cursor.place, LineBuffer.clampLine_of_lt hlt, LineBuffer.line_of_lines_eq h]
    exact Text.floor_eq_of_isBoundary (Text.isBoundary_append_size ..)

/-- Where nothing is left to be read, nothing is left after a move. -/
theorem Untouched.unfinished?_eq (h : Untouched editor after)
    (hloaded : editor.unfinished? = none) : after.unfinished? = none := by
  have hloader : after.loader = editor.loader := congrArg (·.2.1) (h.holding_eq hloaded)
  rw [unfinished?, hloader]
  exact hloaded

/-- Without more lines to be read the document stays as it is. -/
theorem at_jumpTo_of_loaded (h : editor.buffer.lines = pieces.lines)
    (hloaded : editor.unfinished? = none) :
    (editor.jumpTo pieces.above.length pieces.before.size).At pieces := by
  obtain ⟨more, hat⟩ := at_jumpTo h
  have hsame : (editor.jumpTo pieces.above.length pieces.before.size).buffer.lines =
      editor.buffer.lines :=
    congrArg (·.1) ((editor.untouched_jumpTo _ _).holding_eq hloaded)
  exact ⟨hsame.trans h, hat.line, hat.column⟩

/-- After an edit the editor is at the cut that was meant, perhaps with more lines read below it. -/
theorem exists_at_afterEdit {buffer : LineBuffer} (h : buffer.lines = pieces.lines) :
    ∃ more, (editor.afterEdit buffer pieces.above.length pieces.before.size).At
      { pieces with below := pieces.below ++ more } := at_jumpTo h

/-- After an edit of a document that is loaded whole the editor is at just the cut that was
meant. -/
theorem at_afterEdit {buffer : LineBuffer} (h : buffer.lines = pieces.lines)
    (hloaded : editor.unfinished? = none) :
    (editor.afterEdit buffer pieces.above.length pieces.before.size).At pieces :=
  at_jumpTo_of_loaded h hloaded

end Editor

end TextEditor
