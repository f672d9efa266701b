import TextEditor.Editor.Rendering
import TextEditor.Proofs.Editor.Settling
import TextEditor.Proofs.Editor.Sound

/-!
# The cursor stays in view

A window of at least one cell shows the cursor after every operation: one that leaves the cursor in
place leaves the window as well, and any other scrolls to the cursor last of all. Together with the
soundness of the cursor this puts its line among the visible ones.

Main statements: `inView_scrollToCursor`, `InView.perform` with `InView.performAll`, and
`performAll_new_inView` for the runs of a new editor.
-/

namespace TextEditor.Editor

variable {editor after : Editor}

/-- The window has cells, and the cursor is on one of them. -/
structure InView (editor : Editor) : Prop where
  width_pos : 1 ≤ editor.viewport.width
  height_pos : 1 ≤ editor.viewport.height
  top_le : editor.viewport.top ≤ editor.cursor.line
  line_lt : editor.cursor.line < editor.viewport.top + editor.viewport.height
  left_le : editor.viewport.left ≤ editor.cursor.visualColumn
  column_lt : editor.cursor.visualColumn < editor.viewport.left + editor.viewport.width

/-! ## Scrolling -/

/-- Scrolling brings the cursor into view wherever it is. -/
theorem inView_scrollToCursor (hwidth : 1 ≤ editor.viewport.width)
    (hheight : 1 ≤ editor.viewport.height) : editor.scrollToCursor.InView where
  width_pos := hwidth
  height_pos := hheight
  top_le := scrollStart_le ..
  line_lt := by
    have h := lt_scrollStart_add editor.viewport.top editor.viewport.height editor.cursor.line
    rwa [Nat.max_eq_left hheight] at h
  left_le := scrollStart_le ..
  column_lt := by
    have h := lt_scrollStart_add editor.viewport.left editor.viewport.width
      editor.cursor.visualColumn
    rwa [Nat.max_eq_left hwidth] at h

/-- A move of the cursor scrolls the window to it. -/
theorem inView_moveCursor (hwidth : 1 ≤ editor.viewport.width)
    (hheight : 1 ≤ editor.viewport.height) (line column : Nat) :
    (editor.moveCursor line column).InView := by
  have hviewport := (editor.stays_ensureLoaded line).viewport_eq
  apply inView_scrollToCursor
  · show 1 ≤ (editor.ensureLoaded line).viewport.width
    rw [hviewport]
    exact hwidth
  · show 1 ≤ (editor.ensureLoaded line).viewport.height
    rw [hviewport]
    exact hheight

/-- The cursor is in view after it has been left in place or moved. -/
theorem InView.settles (h : editor.InView) (hafter : Settles editor after) : after.InView := by
  cases hafter with
  | stays hstays =>
      obtain ⟨hwidth, hheight, htop, hline, hleft, hcolumn⟩ := h
      rw [← hstays.viewport_eq] at hwidth hheight htop hline hleft hcolumn
      rw [← hstays.cursor] at htop hline hleft hcolumn
      exact ⟨hwidth, hheight, htop, hline, hleft, hcolumn⟩
  | @moves before hwindow line column =>
      have hviewport : before.viewport = editor.viewport := congrArg Prod.fst hwindow
      apply inView_moveCursor
      · rw [hviewport]
        exact h.width_pos
      · rw [hviewport]
        exact h.height_pos

/-! ## Runs -/

/-- An operation leaves the screen at least one column. -/
def keepsColumns : Operation → Prop
  | .resize width _ => 1 ≤ width
  | _ => True

/-- Every operation that leaves the screen a column leaves the cursor in view. -/
theorem InView.perform (h : editor.InView) {operation : Operation}
    (hcolumns : keepsColumns operation) : (editor.perform operation).2.InView := by
  by_cases hresize : resizes operation
  · cases operation with
    | resize width height =>
        apply inView_scrollToCursor
        · exact hcolumns
        · show 1 ≤ (editor.settings.withScreen width height).textRows
          exact Nat.le_max_right _ 1
    | _ => exact absurd hresize id
  · exact h.settles (settles_perform editor hresize)

/-- A new editor has its cursor in view, in the corner of its window. -/
theorem inView_new {settings : Settings} (hwidth : 1 ≤ settings.screenWidth) :
    (new settings).InView := by
  have hheight : 1 ≤ settings.textRows := Nat.le_max_right _ 1
  refine ⟨hwidth, hheight, Nat.le_refl 0, ?_, Nat.le_refl 0, ?_⟩
  · show 0 < 0 + settings.textRows
    omega
  · show 0 < 0 + settings.screenWidth
    omega

/-- Every run of operations that leave the screen a column leaves the cursor in view. -/
theorem InView.performAll (h : editor.InView) {operations : List Operation}
    (hcolumns : ∀ operation ∈ operations, keepsColumns operation) :
    (editor.performAll operations).2.InView := by
  induction operations generalizing editor with
  | nil => exact h
  | cons operation operations ih =>
      obtain ⟨hfirst, hrest⟩ := List.forall_mem_cons.1 hcolumns
      exact ih (h.perform hfirst) hrest

/-! ## What is shown -/

/-- Window and cursor are within what an offset holds. -/
theorem InView.contains (h : editor.InView) (hline : editor.cursor.line < maxOffset)
    (hcolumn : editor.cursor.visualColumn < maxOffset) :
    editor.viewport.contains editor.cursor.line editor.cursor.visualColumn = true := by
  obtain ⟨-, -, htop, hbottom, hleft, hright⟩ := h
  simp only [Viewport.contains, Bool.and_eq_true, decide_eq_true_eq]
  unfold addCapped
  omega

/-- The cursor is shown on a cell of the screen. -/
theorem InView.cursorOnScreen? (h : editor.InView) (hline : editor.cursor.line < maxOffset)
    (hcolumn : editor.cursor.visualColumn < maxOffset) :
    ∃ x y, editor.cursorOnScreen? = some (x, y) ∧ x < editor.viewport.width ∧
      y < editor.viewport.height := by
  refine ⟨editor.cursor.visualColumn - editor.viewport.left,
    editor.cursor.line - editor.viewport.top, ?_, ?_, ?_⟩
  · rw [Editor.cursorOnScreen?, Viewport.toScreen?, if_pos (h.contains hline hcolumn)]
  · have := h.left_le
    have := h.column_lt
    omega
  · have := h.top_le
    have := h.line_lt
    omega

/-- Each line of the buffer that is in view is among the visible lines. -/
theorem exists_visibleLine {line : Nat} (hlength : line < editor.buffer.length)
    (htop : editor.viewport.top ≤ line)
    (hbottom : line < addCapped editor.viewport.top editor.viewport.height) :
    ∃ view ∈ editor.visibleLines, view.index = line := by
  have htext : editor.buffer.line? line = some editor.buffer.lines[line] :=
    List.getElem?_eq_getElem hlength
  refine ⟨⟨line, editor.buffer.lines[line], editor.buffer.tokens line,
    editor.buffer.regions line⟩, ?_, rfl⟩
  refine List.mem_filterMap.2 ⟨line, ?_, ?_⟩
  · rw [List.mem_range'_1]
    show min (min editor.viewport.top _) (min (min _ _) editor.buffer.length) ≤ line ∧ line < _
    omega
  · rw [LineBuffer.view?, htext]
    rfl

/-- The cursor of an editor is always shown: whatever has been done with the editor, the window
contains the cursor, which has its cell on the screen, its line is among the visible ones, and the
window begins at a line of the document. Document and line are taken to be no larger than offsets
go. -/
theorem performAll_new_inView {settings : Settings} (hwidth : 1 ≤ settings.screenWidth)
    {operations : List Operation}
    (hcolumns : ∀ operation ∈ operations, keepsColumns operation) :
    let editor := ((new settings).performAll operations).2
    editor.buffer.length ≤ maxOffset → editor.cursor.visualColumn < maxOffset →
      editor.viewport.contains editor.cursor.line editor.cursor.visualColumn = true ∧
      (∃ x y, editor.cursorOnScreen? = some (x, y) ∧ x < editor.viewport.width ∧
        y < editor.viewport.height) ∧
      (∃ view ∈ editor.visibleLines, view.index = editor.cursor.line) ∧
      editor.viewport.top < editor.buffer.length := by
  intro editor hlength hcolumn
  have hview : editor.InView := (inView_new hwidth).performAll hcolumns
  have hsound := (sound_new settings).performAll operations
  have hin : editor.cursor.line < editor.buffer.length := hsound.cursor.line_lt
  have hline : editor.cursor.line < maxOffset := Nat.lt_of_lt_of_le hin hlength
  refine ⟨hview.contains hline hcolumn, hview.cursorOnScreen? hline hcolumn, ?_, ?_⟩
  · apply exists_visibleLine hin hview.top_le
    have := hview.line_lt
    unfold addCapped
    omega
  · exact Nat.lt_of_le_of_lt hview.top_le hin

/-- Two lines are typed, the window becomes a single cell and the cursor goes up: it is on the
cell. -/
theorem performAll_new_inView_single_cell :
    let operations : List Operation := [.insertText "ab\ncd".toList, .resize 1 1, .moveUp]
    let editor := ((new .usual).performAll operations).2
    1 ≤ Settings.usual.screenWidth ∧ (∀ operation ∈ operations, keepsColumns operation) ∧
      editor.buffer.length ≤ maxOffset ∧ editor.cursor.visualColumn < maxOffset ∧
      editor.cursor = ⟨0, 2, 2⟩ ∧ editor.cursorOnScreen? = some (0, 0) := by
  intro operations editor
  have hwidth : 1 ≤ Settings.usual.screenWidth := by decide
  have hcolumns : ∀ operation ∈ operations, keepsColumns operation := by
    intro operation hmem
    simp only [operations, List.mem_cons, List.not_mem_nil, or_false] at hmem
    rcases hmem with rfl | rfl | rfl
    · trivial
    · exact Nat.le_refl 1
    · trivial
  have hlength : editor.buffer.length ≤ maxOffset := by decide +kernel
  have hcolumn : editor.cursor.visualColumn < maxOffset := by decide +kernel
  have hcursor : editor.cursor = ⟨0, 2, 2⟩ := by decide +kernel
  have hviewport : editor.viewport = ⟨0, 2, 1, 1⟩ := by decide +kernel
  obtain ⟨-, ⟨x, y, hshown, hx, hy⟩, -⟩ := performAll_new_inView hwidth hcolumns hlength hcolumn
  rw [hviewport] at hx hy
  obtain rfl : x = 0 := Nat.lt_one_iff.1 hx
  obtain rfl : y = 0 := Nat.lt_one_iff.1 hy
  exact ⟨hwidth, hcolumns, hlength, hcolumn, hcursor, hshown⟩

end TextEditor.Editor
