import TextEditor.Editor.Moving
import TextEditor.Proofs.Guarded.Reach
import TextEditor.Proofs.Typing.WordJumps

/-!
# Moving within range

The moves of the cursor, with every step guarded, and the moves up and down with a limit: the line
that such a move comes to has to fit, and so have the edges of the window.

Main statements: an equation for each move, and `moveVertically_of_fits` for a move with a limit.
-/

namespace TextEditor.Guarded

/-- The editor with its cursor one cluster to the left, or at the end of the line before. -/
def moveLeft (editor : Editor) : Option Editor := do
  let line := editor.cursor.line
  let column := editor.cursor.column
  if 0 < column then jumpTo editor line (← previousCluster editor.currentLine column)
  else if 0 < line then
    let previous ← minus line 1
    jumpTo editor previous (editor.buffer.lineSize previous)
  else return { editor with goalColumn := none }

/-- The editor with its cursor one cluster to the right, or at the start of the next line. -/
def moveRight (editor : Editor) : Option Editor := do
  let line := editor.cursor.line
  let column := editor.cursor.column
  if column < editor.currentLine.size then
    jumpTo editor line (← nextCluster editor.currentLine column)
  else if line + 1 < editor.buffer.length then jumpTo editor (line + 1) 0
  else return { editor with goalColumn := none }

/-- The editor with its cursor on another line, as near to the column aimed at as that allows. -/
def moveVertically (limit : Option Nat) (editor : Editor) (line : Nat) : Option Editor := do
  let goal := editor.aim
  let editor ← ensureLoaded { editor with goalColumn := some goal } line
  let line ← clampLine editor.buffer line
  moveCursor limit editor line
    (← byteForColumn limit (editor.buffer.line line) goal editor.settings.tabWidth)

/-- The editor with its cursor one line up. -/
def moveUp (limit : Option Nat) (editor : Editor) : Option Editor := do
  if 0 < editor.cursor.line then moveVertically limit editor (← minus editor.cursor.line 1)
  else return editor

/-- The editor with its cursor one line down. -/
def moveDown (limit : Option Nat) (editor : Editor) : Option Editor := do
  let line ← plus limit editor.cursor.line 1
  let editor ← ensureLoaded editor line
  if line < editor.buffer.length then moveVertically limit editor line else return editor

/-- The editor with its cursor one page up. -/
def pageUp (limit : Option Nat) (editor : Editor) : Option Editor :=
  moveVertically limit editor (editor.cursor.line - editor.pageRows)

/-- The editor with its cursor one page down. -/
def pageDown (limit : Option Nat) (editor : Editor) : Option Editor := do
  moveVertically limit editor (← plus limit editor.cursor.line editor.pageRows)

/-- The editor with its cursor at the start of its line. -/
def moveHome (editor : Editor) : Option Editor := jumpTo editor editor.cursor.line 0

/-- The editor with its cursor at the end of its line. -/
def moveEnd (editor : Editor) : Option Editor :=
  jumpTo editor editor.cursor.line editor.currentLine.size

/-- The editor with its cursor at the start of the word before it. -/
def moveWordLeft (editor : Editor) : Option Editor := do
  jumpTo editor editor.cursor.line
    (← previousWordStart editor.currentLine editor.cursor.column)

/-- The editor with its cursor at the end of the word after it. -/
def moveWordRight (editor : Editor) : Option Editor := do
  jumpTo editor editor.cursor.line (← nextWordEnd editor.currentLine editor.cursor.column)

/-! ## Equations -/

variable {editor : Editor} {origin : Option LineSource}

/-- The cursor can move to the left from anywhere. -/
theorem moveLeft_eq (h : editor.buffer.InStep) : moveLeft editor = some editor.moveLeft := by
  unfold moveLeft Editor.moveLeft
  by_cases hcolumn : 0 < editor.cursor.column
  · simp only [if_pos hcolumn, previousCluster_eq, jumpTo_eq h, Option.bind_eq_bind,
      Option.bind_some]
  · by_cases hline : 0 < editor.cursor.line
    · simp only [if_neg hcolumn, if_pos hline, minus_of_le hline, jumpTo_eq h,
        Option.bind_eq_bind, Option.bind_some]
    · simp only [if_neg hcolumn, if_neg hline, Option.pure_def]

/-- The cursor can move to the right from anywhere. -/
theorem moveRight_eq (h : editor.buffer.InStep) : moveRight editor = some editor.moveRight := by
  simp only [moveRight, nextCluster_eq, jumpTo_eq h, Option.bind_eq_bind, Option.bind_some,
    Editor.moveRight]
  split
  · rfl
  · split
    · rfl
    · rfl

/-- A move to another line is carried out if the line fits, in which first the column aimed at is
looked for and then the cursor is placed, and if the edges of the window do. -/
theorem moveVertically_of_fits (h : editor.buffer.InStep) {limit : Option Nat} {line : Nat}
    {loaded : Editor}
    (hloaded : { editor with goalColumn := some editor.aim }.ensureLoaded line = loaded)
    (hsearch : Fits limit loaded.settings.tabWidth 0
      (loaded.buffer.line (loaded.buffer.clampLine line)))
    (hplace : Fits limit (loaded.ensureLoaded (loaded.buffer.clampLine line)).settings.tabWidth 0
      (editor.moveVertically line).currentLine)
    (hview : ViewFits limit (loaded.ensureLoaded (loaded.buffer.clampLine line)).viewport
      (editor.moveVertically line).cursor.line (editor.moveVertically line).cursor.visualColumn) :
    moveVertically limit editor line = some (editor.moveVertically line) := by
  have haimed : { editor with goalColumn := some editor.aim }.buffer.InStep := h
  have hstep : loaded.buffer.InStep := hloaded ▸ Editor.inStep_ensureLoaded haimed line
  have hmoved : editor.moveVertically line = loaded.moveCursor (loaded.buffer.clampLine line)
      ((loaded.buffer.line (loaded.buffer.clampLine line)).byteForColumn editor.aim
        loaded.settings.tabWidth) := by
    rw [← hloaded]
    rfl
  rw [hmoved] at hplace hview ⊢
  simp only [moveVertically, ensureLoaded_eq haimed, hloaded, clampLine_eq hstep,
    byteForColumn_of_fitsTo (hsearch _), moveCursor_of_fits hstep hplace hview,
    Option.bind_eq_bind, Option.bind_some]

/-- The cursor can move to any line, as far as slices, indices and differences go. -/
theorem moveVertically_eq (h : editor.buffer.InStep) (line : Nat) :
    moveVertically none editor line = some (editor.moveVertically line) :=
  moveVertically_of_fits h rfl fits_none fits_none (viewFits_none _ _ _)

/-- The move up is a move to the line above, if there is one. -/
theorem moveUp_of_moveVertically {limit : Option Nat}
    (h : 0 < editor.cursor.line → moveVertically limit editor (editor.cursor.line - 1) =
      some (editor.moveVertically (editor.cursor.line - 1))) :
    moveUp limit editor = some editor.moveUp := by
  unfold moveUp Editor.moveUp
  split
  · next hline => simp only [minus_of_le hline, h hline, Option.bind_eq_bind, Option.bind_some]
  · rfl

/-- The move down is a move to the line below, if there is one once the stream has been asked for
it. -/
theorem moveDown_of_moveVertically (hstep : editor.buffer.InStep) {limit : Option Nat}
    (hsum : Within limit (editor.cursor.line + 1))
    (h : editor.cursor.line + 1 < (editor.ensureLoaded (editor.cursor.line + 1)).buffer.length →
      moveVertically limit (editor.ensureLoaded (editor.cursor.line + 1))
          (editor.cursor.line + 1) =
        some ((editor.ensureLoaded (editor.cursor.line + 1)).moveVertically
          (editor.cursor.line + 1))) :
    moveDown limit editor = some editor.moveDown := by
  simp only [moveDown, plus_of_within hsum, ensureLoaded_eq hstep, Option.bind_eq_bind,
    Option.bind_some, Editor.moveDown]
  split
  · next hline => exact h hline
  · rfl

/-- The cursor can move up, as far as slices, indices and differences go. -/
theorem moveUp_eq (h : editor.buffer.InStep) : moveUp none editor = some editor.moveUp :=
  moveUp_of_moveVertically fun _ => moveVertically_eq h _

/-- The cursor can move down, as far as slices, indices and differences go. -/
theorem moveDown_eq (h : editor.buffer.InStep) : moveDown none editor = some editor.moveDown :=
  moveDown_of_moveVertically h (within_none _) fun _ =>
    moveVertically_eq (Editor.inStep_ensureLoaded h _) _

/-- The cursor can move up by a page, as far as slices, indices and differences go. -/
theorem pageUp_eq (h : editor.buffer.InStep) : pageUp none editor = some editor.pageUp :=
  moveVertically_eq h _

/-- The cursor can move down by a page, as far as slices, indices and differences go. -/
theorem pageDown_eq (h : editor.buffer.InStep) : pageDown none editor = some editor.pageDown := by
  rw [pageDown, plus_of_within (within_none _)]
  exact moveVertically_eq h _

/-- The cursor can move to the start of a word from any boundary. -/
theorem moveWordLeft_eq (h : editor.Sound origin) :
    moveWordLeft editor = some editor.moveWordLeft := by
  rw [moveWordLeft, previousWordStart_eq, Option.bind_eq_bind,
    Option.bind_some, jumpTo_eq h.buffer]
  rfl

/-- The cursor can move to the end of a word from any boundary. -/
theorem moveWordRight_eq (h : editor.Sound origin) :
    moveWordRight editor = some editor.moveWordRight := by
  rw [moveWordRight, nextWordEnd_eq, Option.bind_eq_bind,
    Option.bind_some, jumpTo_eq h.buffer]
  rfl

end TextEditor.Guarded
