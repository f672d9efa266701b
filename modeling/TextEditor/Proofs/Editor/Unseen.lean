import TextEditor.Editor.Moving
import TextEditor.Editor.Typing
import TextEditor.Proofs.Editor.Alike

/-!
# Edits and moves do not see what is loaded

An edit or a move of two editors that are alike leaves them alike. Near the cursor both have loaded
what it looks at; where it looks further, it reads on first. The documents are taken to be no longer
than offsets go, as a line that is read towards might otherwise not be reached.

Main statements: one lemma for each edit and each move.
-/

namespace TextEditor.Editor.Alike

variable {a b : Editor} {line : Nat}

/-! ## Typing -/

/-- Editors stay alike when the same text is inserted. -/
theorem insertText (h : Alike a b) (text : Text) :
    Alike (a.insertText text) (b.insertText text) := by
  unfold Editor.insertText
  split
  · exact h
  · obtain ⟨hposition, hagree⟩ :=
      h.agree.insert h.left.cursor_lt h.cursor_lt a.cursor.column text
    have hx := LineBuffer.line_insert_lt h.left.cursor_lt a.cursor.column text
    have hy := LineBuffer.line_insert_lt h.cursor_lt a.cursor.column text
    rw [← hposition] at hy
    rw [← h.cursor]
    simp only
    rw [← hposition]
    exact h.afterEdit hagree hx.1 hy.1 _

/-- A stretch of the cursor's line is removed from both buffers, and the line stays. -/
theorem removed (h : Alike a b) (start stop : Nat) :
    (a.buffer.removeRange a.cursor.line start stop).2.Agree
        (b.buffer.removeRange a.cursor.line start stop).2 a.unread b.unread ∧
      a.cursor.line < (a.buffer.removeRange a.cursor.line start stop).2.length ∧
      a.cursor.line < (b.buffer.removeRange a.cursor.line start stop).2.length := by
  rw [LineBuffer.length_removeRange, LineBuffer.length_removeRange]
  exact ⟨h.agree.removeRange h.left.cursor_lt h.cursor_lt start stop, h.left.cursor_lt, h.cursor_lt⟩

/-- Editors stay alike when both put brackets on lines of their own. -/
theorem splitBrackets (h : Alike a b) : Alike a.splitBrackets b.splitBrackets := by
  have hindent : a.settings.indentUnit = b.settings.indentUnit :=
    congrArg (·.settings.indentUnit) h.outline
  obtain ⟨hcut, hx, hy⟩ := h.removed a.cursor.column a.currentLine.size
  unfold Editor.splitBrackets
  simp only
  rw [← h.cursor, ← h.currentLine, ← hindent]
  -- of the two lines that are put in, the cursor goes to the first
  have hnext {buffer : LineBuffer} (hline : a.cursor.line < buffer.length) (inner closing : Text) :
      a.cursor.line + 1 < (buffer.insertLinesAfter a.cursor.line [inner, closing]).length :=
    Nat.lt_of_succ_lt (LineBuffer.add_length_lt_length_insertLinesAfter hline [inner, closing])
  exact h.afterEdit (hcut.insertLinesAfter hx hy _) (hnext hx _ _) (hnext hy _ _) _

/-- Editors stay alike when the cursor's line is split. -/
theorem splitLine (h : Alike a b) : Alike a.splitLine b.splitLine := by
  have hsplit : a.settings.bracketSplit = b.settings.bracketSplit :=
    congrArg (·.settings.bracketSplit) h.outline
  have hindent : a.splitIndent = b.splitIndent := congrArg (·.splitIndent) h.outline
  unfold Editor.splitLine
  simp only
  rw [← h.cursor, ← h.currentLine, ← hsplit, ← h.pairs, ← hindent]
  split
  · exact h.splitBrackets
  · have hagree := h.agree.splitLine h.left.cursor_lt h.cursor_lt a.cursor.column
      (a.splitIndent a.currentLine a.cursor.column)
    have hx := LineBuffer.line_splitLine_lt h.left.cursor_lt a.cursor.column
      (a.splitIndent a.currentLine a.cursor.column)
    have hy := LineBuffer.line_splitLine_lt h.cursor_lt a.cursor.column
      (a.splitIndent a.currentLine a.cursor.column)
    have hline {buffer : LineBuffer} (hbuffer : a.cursor.line < buffer.length) :
        (buffer.splitLine a.cursor.line a.cursor.column
          (a.splitIndent a.currentLine a.cursor.column)).1 = a.cursor.line + 1 :=
      congrArg (· + 1) (LineBuffer.clampLine_of_lt hbuffer)
    rw [hline h.left.cursor_lt] at hx ⊢
    rw [hline h.cursor_lt] at hy ⊢
    exact h.afterEdit hagree hx hy _

/-- Dedenting the cursor's line comes to the same column and leaves editors alike. -/
theorem dedentCursor (h : Alike a b) : Matches a.dedentCursor b.dedentCursor := by
  have hkeep : a.dedentCursor.1 = b.dedentCursor.1 := by
    simp only [Editor.dedentCursor, h.currentLine, h.cursor, h.tabWidth]
  have hagree : (a.buffer.removeRange a.cursor.line a.dedentCursor.1 a.cursor.column).2.Agree
      (b.buffer.removeRange b.cursor.line b.dedentCursor.1 b.cursor.column).2
      a.unread b.unread := by
    rw [← h.cursor, ← hkeep]
    exact (h.removed _ _).1
  have hbuffer := h.withBuffer hagree (LineBuffer.length_removeRange ..)
    (LineBuffer.length_removeRange ..)
  exact ⟨hkeep, hbuffer.map ({ · with dirty := true }) (fun _ => rfl) fun _ => rfl⟩

/-- Editors stay alike when a character is put in at a column of the cursor's line. -/
theorem typeAt (h : Alike a b) (column : Nat) (c : Char) :
    Alike (a.typeAt column c) (b.typeAt column c) := by
  have hclose : a.settings.autoClose = b.settings.autoClose :=
    congrArg (·.settings.autoClose) h.outline
  have htyped (text : Text) :
      Alike (a.afterEdit (a.buffer.insert a.cursor.line column text).2 a.cursor.line
          (column + c.utf8Size))
        (b.afterEdit (b.buffer.insert a.cursor.line column text).2 a.cursor.line
          (column + c.utf8Size)) := by
    have hx := (LineBuffer.line_insert_lt h.left.cursor_lt column text).2
    have hy := (LineBuffer.line_insert_lt h.cursor_lt column text).2
    exact h.afterEdit (h.agree.insert h.left.cursor_lt h.cursor_lt column text).2
      (Nat.lt_of_lt_of_le h.left.cursor_lt hx) (Nat.lt_of_lt_of_le h.cursor_lt hy) _
  unfold Editor.typeAt
  simp only
  rw [← h.cursor, ← h.currentLine, ← hclose, ← h.pairs]
  split
  · exact htyped _
  · exact htyped _
  · exact h.jumpNear (Nat.le_refl _) _

/-- Editors stay alike when the same character is typed. -/
theorem insertChar (h : Alike a b) (c : Char) : Alike (a.insertChar c) (b.insertChar c) := by
  have hdedents : a.dedentsAt = b.dedentsAt := congrArg (·.dedentsAt) h.outline
  unfold Editor.insertChar
  rw [← h.currentLine, ← h.cursor, ← hdedents]
  split
  · exact h.splitLine
  · split
    · obtain ⟨hcolumn, hdedented⟩ := h.dedentCursor
      simp only
      rw [← hcolumn]
      exact hdedented.typeAt _ c
    · exact h.typeAt _ c

/-! ## Deleting -/

/-- Editors stay alike when the same stretch of the cursor's line is removed. -/
theorem afterRemoval (h : Alike a b) (start stop column : Nat) :
    Alike (a.afterEdit (a.buffer.removeRange a.cursor.line start stop).2 a.cursor.line column)
      (b.afterEdit (b.buffer.removeRange a.cursor.line start stop).2 a.cursor.line column) := by
  obtain ⟨hagree, hx, hy⟩ := h.removed start stop
  exact h.afterEdit hagree hx hy column

/-- To delete backwards looks at nothing but the lines up to the cursor's, which both have
loaded. -/
theorem backspace (h : Alike a b) : Alike a.backspace b.backspace := by
  unfold Editor.backspace
  simp only
  rw [← h.cursor, ← h.currentLine, ← h.pairs]
  split
  · split
    · exact h
    · next hline =>
        have hnext : a.cursor.line - 1 + 1 = a.cursor.line := Nat.succ_pred_eq_of_ne_zero hline
        obtain ⟨size, x, y, hx, hy, hagree, hltx, hlty⟩ := h.agree.joinWithNext
          (show a.cursor.line - 1 + 1 < a.buffer.length by rw [hnext]; exact h.left.cursor_lt)
          (show a.cursor.line - 1 + 1 < b.buffer.length by rw [hnext]; exact h.cursor_lt)
        rw [hx, hy]
        exact h.afterEdit hagree hltx hlty size
  · split
    · exact h.afterRemoval ..
    · exact h.afterRemoval ..

/-- To delete forwards looks at the next line, which both have loaded or neither has. -/
theorem deleteForward (h : Alike a b) (hbound : a.document.length ≤ maxOffset) :
    Alike a.deleteForward b.deleteForward := by
  have hnext := h.next_lt_iff hbound
  unfold Editor.deleteForward
  simp only
  rw [← h.cursor, ← h.currentLine]
  split
  · exact h.afterRemoval ..
  · by_cases hlt : a.cursor.line + 1 < a.buffer.length
    · obtain ⟨size, x, y, hx, hy, hagree, hltx, hlty⟩ :=
        h.agree.joinWithNext hlt (hnext.1 hlt)
      rw [hx, hy]
      exact h.afterEdit hagree hltx hlty _
    · rw [LineBuffer.joinWithNext_of_not_lt hlt,
        LineBuffer.joinWithNext_of_not_lt (mt hnext.2 hlt)]
      exact h

/-! ## Moving -/

/-- A change of the column that vertical moves aim at. -/
theorem withGoal (h : Alike a b) (goal : Option Nat) :
    Alike { a with goalColumn := goal } { b with goalColumn := goal } :=
  h.map ({ · with goalColumn := goal }) (fun _ => rfl) fun _ => rfl

/-- A move to the left looks at the line above at most, which both have loaded. -/
theorem moveLeft (h : Alike a b) : Alike a.moveLeft b.moveLeft := by
  unfold Editor.moveLeft
  simp only
  rw [← h.cursor, ← h.currentLine]
  split
  · exact h.jumpNear (Nat.le_refl _) _
  · split
    · have hlt : a.cursor.line - 1 < a.buffer.length :=
        Nat.lt_of_le_of_lt (Nat.sub_le ..) h.left.cursor_lt
      rw [h.agree.lineSize_eq hlt (Nat.lt_of_le_of_lt (Nat.sub_le ..) h.cursor_lt)]
      exact h.jumpNear (Nat.sub_le ..) _
    · simpa only [h.cursor] using h.withGoal none

/-- A move to the right looks at the next line at most, which both have loaded or neither has. -/
theorem moveRight (h : Alike a b) (hbound : a.document.length ≤ maxOffset) :
    Alike a.moveRight b.moveRight := by
  have hnext := h.next_lt_iff hbound
  unfold Editor.moveRight
  simp only
  rw [← h.cursor, ← h.currentLine]
  split
  · exact h.jumpNear (Nat.le_refl _) _
  · by_cases hlt : a.cursor.line + 1 < a.buffer.length
    · rw [if_pos hlt, if_pos (hnext.1 hlt)]
      exact h.jumpTo hlt (hnext.1 hlt) 0
    · rw [if_neg hlt, if_neg (mt hnext.2 hlt)]
      simpa only [h.cursor] using h.withGoal none

/-- A vertical move reads towards the line that it goes to, so that both find it. -/
theorem moveVertically (h : Alike a b) (hbound : a.document.length ≤ maxOffset) (line : Nat) :
    Alike (a.moveVertically line) (b.moveVertically line) := by
  have haim : a.aim = b.aim := congrArg (·.aim) h.outline
  have hgoal := h.withGoal (some a.aim)
  obtain ⟨hx, hy⟩ := hgoal.found hbound line
  have hloaded := hgoal.ensureLoaded line
  unfold Editor.moveVertically
  simp only
  rw [← haim]
  generalize { a with goalColumn := some a.aim }.ensureLoaded line = x at *
  generalize { b with goalColumn := some a.aim }.ensureLoaded line = y at *
  have hclamp := hloaded.clampLine_eq hx hy
  have hltx := LineBuffer.clampLine_lt hloaded.left.lines_ne_nil line
  have hlty := LineBuffer.clampLine_lt hloaded.right.lines_ne_nil line
  rw [← hclamp] at hlty ⊢
  rw [← hloaded.tabWidth, ← hloaded.agree.line_eq hltx hlty]
  exact alike_moveCursor hloaded.outline hloaded.left.toStreams hloaded.right.toStreams
    (.inr (.inl hltx)) (.inr (.inl hlty)) _

/-- Editors stay alike when the cursor moves up. -/
theorem moveUp (h : Alike a b) (hbound : a.document.length ≤ maxOffset) :
    Alike a.moveUp b.moveUp := by
  unfold Editor.moveUp
  rw [← h.cursor]
  split
  · exact h.moveVertically hbound _
  · exact h

/-- Editors stay alike when the cursor moves down, as both read on first. -/
theorem moveDown (h : Alike a b) (hbound : a.document.length ≤ maxOffset) :
    Alike a.moveDown b.moveDown := by
  obtain ⟨hx, hy⟩ := h.found hbound (a.cursor.line + 1)
  have hloaded := h.ensureLoaded (a.cursor.line + 1)
  have hiff := hloaded.lt_length_iff hx hy
  have hdocument := document_eq (h.left.toStreams.ensureLoaded (a.cursor.line + 1)).outline
  unfold Editor.moveDown
  simp only
  rw [← h.cursor]
  by_cases hlt : a.cursor.line + 1 < (a.ensureLoaded (a.cursor.line + 1)).buffer.length
  · rw [if_pos hlt, if_pos (hiff.1 hlt)]
    exact hloaded.moveVertically (hdocument ▸ hbound) _
  · rw [if_neg hlt, if_neg (mt hiff.2 hlt)]
    exact hloaded

/-- Editors stay alike when the cursor moves up by a page. -/
theorem pageUp (h : Alike a b) (hbound : a.document.length ≤ maxOffset) :
    Alike a.pageUp b.pageUp := by
  have hrows : a.pageRows = b.pageRows := congrArg (·.pageRows) h.outline
  unfold Editor.pageUp
  rw [← h.cursor, ← hrows]
  exact h.moveVertically hbound _

/-- Editors stay alike when the cursor moves down by a page, as both read on first. -/
theorem pageDown (h : Alike a b) (hbound : a.document.length ≤ maxOffset) :
    Alike a.pageDown b.pageDown := by
  have hrows : a.pageRows = b.pageRows := congrArg (·.pageRows) h.outline
  unfold Editor.pageDown
  rw [← h.cursor, ← hrows]
  exact h.moveVertically hbound _

/-- A move to the start of the line stays on a line that both have loaded. -/
theorem moveHome (h : Alike a b) : Alike a.moveHome b.moveHome := by
  unfold Editor.moveHome
  rw [← h.cursor]
  exact h.jumpNear (Nat.le_refl _) _

/-- A move to the end of the line stays on a line that both have loaded. -/
theorem moveEnd (h : Alike a b) : Alike a.moveEnd b.moveEnd := by
  unfold Editor.moveEnd
  rw [← h.cursor, ← h.currentLine]
  exact h.jumpNear (Nat.le_refl _) _

/-- A move to the start of a word stays on a line that both have loaded. -/
theorem moveWordLeft (h : Alike a b) : Alike a.moveWordLeft b.moveWordLeft := by
  unfold Editor.moveWordLeft
  rw [← h.cursor, ← h.currentLine]
  exact h.jumpNear (Nat.le_refl _) _

/-- A move to the end of a word stays on a line that both have loaded. -/
theorem moveWordRight (h : Alike a b) : Alike a.moveWordRight b.moveWordRight := by
  unfold Editor.moveWordRight
  rw [← h.cursor, ← h.currentLine]
  exact h.jumpNear (Nat.le_refl _) _

end TextEditor.Editor.Alike
