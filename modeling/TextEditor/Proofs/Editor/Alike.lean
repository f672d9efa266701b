import TextEditor.Proofs.Editor.Outline

/-!
# Editors of the same document

Two editors are alike if they have the same outline and each has loaded what its cursor needs: they
may have loaded different numbers of lines, in different steps. Whatever an operation looks at near
the cursor is then the same in both, and reading, moving and editing there leaves them alike.

Main statements: `Alike.map`, `Alike.withBuffer`, `Alike.ensureLoaded`, `Alike.finishLoading`,
`Alike.jumpTo` and `Alike.afterEdit`.
-/

namespace TextEditor.Editor

variable {a b : Editor} {line : Nat}

/-- Of the line after the cursor's it is known whether the document has it. -/
theorem Fluent.next_found (h : a.Fluent) (hbound : a.document.length ≤ maxOffset) :
    a.Found (a.cursor.line + 1) := by
  rcases h.prefetched with hloaded | hnone
  · left
    have := add_margin_lt hbound hloaded
    have := h.margin_pos
    omega
  · exact .inr hnone

/-- Two editors that differ only in how much of the document they have loaded and in what steps they
read it, and that have loaded what their cursors need. -/
structure Alike (a b : Editor) : Prop where
  outline : a.outline = b.outline
  left : a.Fluent
  right : b.Fluent

/-- Two results tell the same, and the editors of both are alike. -/
structure Matches {α : Type} (p q : α × Editor) : Prop where
  told : p.1 = q.1
  alike : Alike p.2 q.2

/-- The buffers agree once the lines that are still to be read are put after them. -/
theorem agree_of_outline_eq (h : a.outline = b.outline) :
    a.buffer.Agree b.buffer a.unread b.unread :=
  ⟨document_eq h, congrArg (·.buffer.highlighter) h⟩

namespace Alike

/-- The loaded lines of editors that are alike agree as far as both have them. -/
theorem agree (h : Alike a b) : a.buffer.Agree b.buffer a.unread b.unread :=
  agree_of_outline_eq h.outline

/-! ## What is the same -/

/-- Editors that are alike have their cursors at the same position. -/
theorem cursor (h : Alike a b) : a.cursor = b.cursor := congrArg (·.cursor) h.outline

/-- Editors that are alike have the same language. -/
theorem language (h : Alike a b) : a.language = b.language :=
  congrArg (·.buffer.highlighter.language) h.outline

/-- Editors that are alike have tabs of the same width. -/
theorem tabWidth (h : Alike a b) : a.settings.tabWidth = b.settings.tabWidth :=
  congrArg (·.settings.tabWidth) h.outline

/-- Editors that are alike close the same pairs. -/
theorem pairs (h : Alike a b) : a.settings.pairs = b.settings.pairs :=
  congrArg (·.settings.pairs) h.outline

/-- Editors that are alike have documents of the same name. -/
theorem fileName (h : Alike a b) : a.fileName = b.fileName := congrArg (·.fileName) h.outline

/-- Editors that are alike have the same text at their prompts. -/
theorem input (h : Alike a b) : a.input = b.input := congrArg (·.input) h.outline

/-- The cursor of one is on a line that the other has loaded as well. -/
theorem cursor_lt (h : Alike a b) : a.cursor.line < b.buffer.length := by
  rw [h.cursor]
  exact h.right.cursor_lt

/-- Editors that are alike have the same text on the cursor's line. -/
theorem currentLine (h : Alike a b) : a.currentLine = b.currentLine := by
  rw [Editor.currentLine, Editor.currentLine, ← h.cursor]
  exact h.agree.line_eq h.left.cursor_lt h.cursor_lt

/-- A line that has been found in both editors is loaded in both or in neither. -/
theorem lt_length_iff (h : Alike a b) (ha : a.Found line) (hb : b.Found line) :
    line < a.buffer.length ↔ line < b.buffer.length := by
  rw [Editor.lt_length_iff ha, Editor.lt_length_iff hb, document_eq h.outline]

/-- A line that both have found, or have found to be past the end, is moved back to the same
line. -/
theorem clampLine_eq (h : Alike a b) (ha : a.Found line) (hb : b.Found line) :
    a.buffer.clampLine line = b.buffer.clampLine line := by
  rw [← clampLine_document ha, ← clampLine_document hb, h.outline]

/-- The line after the cursor's is loaded in both editors or in neither. -/
theorem next_lt_iff (h : Alike a b) (hbound : a.document.length ≤ maxOffset) :
    a.cursor.line + 1 < a.buffer.length ↔ a.cursor.line + 1 < b.buffer.length := by
  have hright := h.right.next_found (document_eq h.outline ▸ hbound)
  rw [← h.cursor] at hright
  exact h.lt_length_iff (h.left.next_found hbound) hright

/-! ## Changes that reading does not see -/

/-- A change that concerns neither buffer, cursor nor stream keeps editors alike. -/
theorem map (h : Alike a b) (f : Editor → Editor)
    (houtline : ∀ editor, (f editor).outline = f editor.outline)
    (hfooting : ∀ editor, (f editor).footing = editor.footing) : Alike (f a) (f b) :=
  ⟨outline_map h.outline f houtline, h.left.congr (hfooting a), h.right.congr (hfooting b)⟩

/-- The records of what has been done do not matter. -/
theorem withJournal (h : Alike a b) (records others : List LogRecord) :
    Alike { a with journal := records } { b with journal := others } :=
  ⟨h.outline, h.left.congr rfl, h.right.congr rfl⟩

/-- Editors are alike after the same record. -/
theorem report (h : Alike a b) (level : LogLevel) (message : String) :
    Alike (a.report level message) (b.report level message) :=
  h.withJournal _ _

end Alike

/-! ## Buffers that have been edited -/

/-- Outlines stay the same when the loaded lines change in the same way. -/
theorem outline_withBuffer (h : a.outline = b.outline) {x y : LineBuffer}
    (hagree : x.Agree y a.unread b.unread) :
    { a with buffer := x }.outline = { b with buffer := y }.outline := by
  show { a.outline with buffer := ⟨x.lines ++ a.unread, [], [], x.highlighter⟩ } =
    { b.outline with buffer := ⟨y.lines ++ b.unread, [], [], y.highlighter⟩ }
  rw [h, hagree.lines, hagree.highlighter]

/-- An editor goes on to stream with other lines as long as they reach to its cursor. -/
theorem Streams.withBuffer (h : a.Streams) {x : LineBuffer} (hline : line < x.length) :
    { a with buffer := x }.Streams := by
  refine ⟨h.unfailing, h.chunk_pos, h.margin_pos, ?_⟩
  intro hnil
  rw [LineBuffer.length, hnil] at hline
  exact Nat.not_lt_zero _ hline

/-- Another buffer of as many lines has as much loaded around the cursor. -/
theorem Fluent.withBuffer (h : a.Fluent) {x : LineBuffer} (hlength : x.length = a.buffer.length) :
    { a with buffer := x }.Fluent := by
  have hcursor : a.cursor.line < x.length := by
    rw [hlength]
    exact h.cursor_lt
  refine ⟨h.toStreams.withBuffer hcursor, hcursor, ?_⟩
  show decide (addCapped a.cursor.line a.settings.prefetchMargin < x.length) = true ∨ _
  rw [hlength]
  exact h.prefetched

/-- Editors stay alike when their lines change in the same way and stay as many as they are. -/
theorem Alike.withBuffer (h : Alike a b) {x y : LineBuffer} (hagree : x.Agree y a.unread b.unread)
    (hx : x.length = a.buffer.length) (hy : y.length = b.buffer.length) :
    Alike { a with buffer := x } { b with buffer := y } :=
  ⟨outline_withBuffer h.outline hagree, h.left.withBuffer hx, h.right.withBuffer hy⟩

/-! ## Moving -/

/-- Editors with the same outline are alike once their cursors have been moved to a line that both
find. -/
theorem alike_moveCursor (h : a.outline = b.outline) (ha : a.Streams) (hb : b.Streams)
    (hfinds_a : a.Finds line) (hfinds_b : b.Finds line) (column : Nat) :
    Alike (a.moveCursor line column) (b.moveCursor line column) := by
  refine ⟨?_, fluent_moveCursor ha line column, fluent_moveCursor hb line column⟩
  rw [outline_moveCursor ha hfinds_a, outline_moveCursor hb hfinds_b, h]

/-- Editors with the same outline are alike once their cursors have jumped to a line that both
find. -/
theorem alike_jumpTo (h : a.outline = b.outline) (ha : a.Streams) (hb : b.Streams)
    (hfinds_a : a.Finds line) (hfinds_b : b.Finds line) (column : Nat) :
    Alike (a.jumpTo line column) (b.jumpTo line column) := by
  have houtline := outline_map h ({ · with goalColumn := none }) fun _ => rfl
  exact alike_moveCursor houtline (ha.congr rfl) (hb.congr rfl) hfinds_a hfinds_b column

namespace Alike

/-- Jumps to a line that both have loaded. -/
theorem jumpTo (h : Alike a b) (ha : line < a.buffer.length) (hb : line < b.buffer.length)
    (column : Nat) : Alike (a.jumpTo line column) (b.jumpTo line column) :=
  alike_jumpTo h.outline h.left.toStreams h.right.toStreams (.inr (.inl ha)) (.inr (.inl hb)) column

/-- Jumps no further down than the cursor need nothing that is not loaded. -/
theorem jumpNear (h : Alike a b) (hline : line ≤ a.cursor.line) (column : Nat) :
    Alike (a.jumpTo line column) (b.jumpTo line column) :=
  h.jumpTo (Nat.lt_of_le_of_lt hline h.left.cursor_lt) (Nat.lt_of_le_of_lt hline h.cursor_lt) column

/-- The same edit of both buffers, and the cursor on a line that both have afterwards. -/
theorem afterEdit (h : Alike a b) {x y : LineBuffer} (hagree : x.Agree y a.unread b.unread)
    (hx : line < x.length) (hy : line < y.length) (column : Nat) :
    Alike (a.afterEdit x line column) (b.afterEdit y line column) := by
  have houtline : { a with buffer := x, dirty := true }.outline =
      { b with buffer := y, dirty := true }.outline :=
    outline_map (outline_withBuffer h.outline hagree) ({ · with dirty := true }) fun _ => rfl
  have ha := h.left.toStreams.withBuffer hx
  have hb := h.right.toStreams.withBuffer hy
  exact alike_jumpTo houtline (ha.congr rfl) (hb.congr rfl) (.inr (.inl hx)) (.inr (.inl hy)) column

/-! ## Reading -/

/-- Editors stay alike when both read towards a line. -/
theorem ensureLoaded (h : Alike a b) (line : Nat) :
    Alike (a.ensureLoaded line) (b.ensureLoaded line) := by
  have ha := h.left.toStreams.ensureLoaded line
  have hb := h.right.toStreams.ensureLoaded line
  refine ⟨?_, ha.fluent h.left, hb.fluent h.right⟩
  rw [ha.outline, hb.outline, h.outline]

/-- Both editors read their streams to the end, and then have the whole document. -/
theorem finishLoading (h : Alike a b) :
    ∃ x y, a.finishLoading = (.ok (), x) ∧ b.finishLoading = (.ok (), y) ∧ Alike x y ∧
      x.unread = [] ∧ y.unread = [] := by
  obtain ⟨x, hx, hreadx, hnonex⟩ := finishLoading_eq h.left.toStreams
  obtain ⟨y, hy, hready, hnoney⟩ := finishLoading_eq h.right.toStreams
  refine ⟨x, y, hx, hy, ⟨?_, hreadx.fluent h.left, hready.fluent h.right⟩, hnonex, hnoney⟩
  rw [hreadx.outline, hready.outline, h.outline]

/-- A line that both editors have read towards has been found in both. -/
theorem found (h : Alike a b) (hbound : a.document.length ≤ maxOffset) (line : Nat) :
    (a.ensureLoaded line).Found line ∧ (b.ensureLoaded line).Found line :=
  ⟨found_ensureLoaded h.left.toStreams (.inl hbound),
    found_ensureLoaded h.right.toStreams (.inl (document_eq h.outline ▸ hbound))⟩

/-- Editors that have read all have the same lines. -/
theorem lines_eq (h : Alike a b) (ha : a.unread = []) (hb : b.unread = []) :
    a.buffer.lines = b.buffer.lines := by
  have hlines := h.agree.lines
  rwa [ha, hb, List.append_nil, List.append_nil] at hlines

end Alike

end TextEditor.Editor
