import TextEditor.Proofs.Editor.Cut
import TextEditor.Proofs.Editor.Prefetching

/-!
# Crossing the end of a line

At the end of a line that is not the last of the document a move down goes to the next line, a move
to the right to the start of it, and a deletion joins it to the cursor's line. The move down reads
on until the next line is loaded. The other two count on it having been read ahead, which it is
unless the margin is zero; then they do nothing at the end of the last line loaded.

Main statements: `lt_length_ensureLoaded`, a line of the document is reached by reading towards it;
`AtLineEnd.loaded_cases`, the next line is the first one loaded behind the cursor or none is; and
`next_line_reached_iff`.
-/

namespace TextEditor

namespace Editor

variable {editor : Editor} {origin : Option LineSource} {above below : List Text}
  {line next : Text}

/-! ## Reading towards a line of the document -/

/-- Once a stream is read to its end the document is what has been loaded. -/
theorem document_of_not_streaming (h : editor.isStreaming = false) :
    editor.document = editor.buffer.lines := by
  rw [document, unread_of_unfinished?_eq_none (unfinished?_eq_none h), List.append_nil]

/-- A line of the document is loaded by reading towards it. -/
theorem lt_length_ensureLoaded (h : editor.Supplied) (hreadable : editor.Readable)
    (hbound : editor.document.length ≤ maxOffset) {index : Nat}
    (hindex : index < editor.document.length) :
    index < (editor.ensureLoaded index).buffer.length := by
  have hdocument := ((editor.untouched_ensureLoaded index).document_eq hreadable).1
  cases hstreaming : (editor.ensureLoaded index).isStreaming with
  | true =>
      have hloaded := (loadsTowards_ensureLoaded editor index).hasLoaded h hstreaming
      rw [← hdocument] at hbound
      have hlt := add_margin_lt hbound hloaded
      omega
  | false =>
      rw [← hdocument, document_of_not_streaming hstreaming] at hindex
      exact hindex

/-! ## At the end of a line -/

/-- The cursor is at the end of a line of the document, and there is another below it. -/
structure AtLineEnd (editor : Editor) (above : List Text) (line next : Text)
    (below : List Text) : Prop where
  document : editor.document = above ++ line :: next :: below
  column : editor.cursor.column = line.size
  line : editor.cursor.line = above.length

/-- The loaded lines end with the cursor's, or the next line is loaded as well. -/
theorem AtLineEnd.loaded_cases (h : editor.AtLineEnd above line next below)
    (hsound : editor.Sound origin) :
    (¬ editor.cursor.line + 1 < editor.buffer.length ∧ editor.At ⟨above, line, [], []⟩) ∨
      (editor.cursor.line + 1 < editor.buffer.length ∧
        ∃ loaded, editor.At ⟨above, line, [], next :: loaded⟩ ∧
          loaded ++ editor.unread = below) := by
  have hlines := LineBuffer.lines_eq_append hsound.cursor.line_lt
  have hdocument := h.document
  rw [Editor.document, hlines, List.append_assoc, List.cons_append] at hdocument
  have hlength := (LineBuffer.length_take_lines hsound.cursor.line_lt).trans h.line
  obtain ⟨habove, hrest⟩ := List.append_inj hdocument hlength
  obtain ⟨hline, hbelow⟩ := List.cons.inj hrest
  rw [habove, hline] at hlines
  have hat (loaded : List Text)
      (hdrop : editor.buffer.lines.drop (editor.cursor.line + 1) = loaded) :
      editor.At ⟨above, line, [], loaded⟩ := by
    refine ⟨?_, h.line, h.column⟩
    rw [hlines, hdrop, Cut.lines, List.append_nil]
  cases hloaded : editor.buffer.lines.drop (editor.cursor.line + 1) with
  | nil =>
      refine .inl ⟨?_, hat _ hloaded⟩
      exact Nat.not_lt.2 (List.drop_eq_nil_iff.1 hloaded)
  | cons first loaded =>
      rw [hloaded, List.cons_append] at hbelow
      obtain ⟨rfl, hunread⟩ := List.cons.inj hbelow
      refine .inr ⟨?_, loaded, hat _ hloaded, hunread⟩
      refine Nat.lt_of_not_le fun hle => ?_
      rw [List.drop_eq_nil_of_le hle] at hloaded
      cases hloaded

/-! ## What crosses it -/

/-- A move down finds the next line, whether it is loaded or not. -/
theorem line_moveDown (hsupplied : editor.Supplied) (hreadable : editor.Readable)
    (hbound : editor.document.length ≤ maxOffset)
    (hline : editor.cursor.line + 1 < editor.document.length) :
    editor.moveDown.cursor.line = editor.cursor.line + 1 := by
  have hlt := lt_length_ensureLoaded hsupplied hreadable hbound hline
  unfold moveDown moveVertically
  simp only [if_pos hlt]
  -- the line is still there after reading towards it once more
  have hkept := (untouched_ensureLoaded
    { editor.ensureLoaded (editor.cursor.line + 1) with
      goalColumn := some (editor.ensureLoaded (editor.cursor.line + 1)).aim }
    (editor.cursor.line + 1)).lines_kept.length_le
  have hclamp := LineBuffer.clampLine_of_lt (Nat.lt_of_lt_of_le hlt hkept)
  rw [hclamp, cursor_moveCursor (Nat.lt_of_lt_of_le hlt hkept)]
  exact hclamp

/-- Behind the end of a line there is only a line break. -/
theorem At.not_column_lt_size (h : editor.At ⟨above, line, [], below⟩) :
    ¬ editor.cursor.column < editor.currentLine.size :=
  fun hinside => h.column_lt_size_iff.1 hinside rfl

/-- A line below the cursor's has been loaded. -/
theorem At.next_lt_length_iff (h : editor.At ⟨above, line, [], below⟩) :
    editor.cursor.line + 1 < editor.buffer.length ↔ below ≠ [] := by
  rw [h.line, h.length_eq, ← List.length_pos_iff]
  show above.length + 1 < above.length + (below.length + 1) ↔ _
  omega

/-- A move to the right goes to the start of a line that is loaded. -/
theorem moveRight_of_loaded {loaded : List Text}
    (h : editor.At ⟨above, line, [], next :: loaded⟩) :
    editor.moveRight.cursor.line = above.length + 1 ∧ editor.moveRight.cursor.column = 0 := by
  have hlines : editor.buffer.lines = Cut.lines ⟨above ++ [line], [], next, loaded⟩ := by
    rw [h.lines]
    simp [Cut.lines]
  have hline : editor.cursor.line + 1 = (above ++ [line]).length := by
    rw [h.line, List.length_append, List.length_singleton]
  have hmoved : editor.moveRight = editor.jumpTo (above ++ [line]).length 0 := by
    unfold moveRight
    simp only
    rw [if_neg h.not_column_lt_size, if_pos (h.next_lt_length_iff.2 (List.cons_ne_nil _ _)), hline]
  obtain ⟨more, hat⟩ := at_jumpTo hlines
  rw [hmoved]
  exact ⟨hat.line.trans List.length_append, hat.column⟩

/-- At the end of the last line loaded a move to the right does no more than let go of the column
aimed at. -/
theorem moveRight_of_not_loaded (h : editor.At ⟨above, line, [], []⟩) :
    editor.moveRight = { editor with goalColumn := none } := by
  unfold moveRight
  simp only
  rw [if_neg h.not_column_lt_size, if_neg fun hnext => h.next_lt_length_iff.1 hnext rfl]

/-- A deletion joins a line that is loaded to the cursor's. -/
theorem deleteForward_of_loaded {loaded : List Text}
    (h : editor.At ⟨above, line, [], next :: loaded⟩) (hreadable : editor.Readable) :
    editor.deleteForward.document = above ++ (line ++ next) :: (loaded ++ editor.unread) ∧
      editor.deleteForward.cursor.line = above.length ∧
      editor.deleteForward.cursor.column = line.size := by
  have hlines : editor.buffer.lines = above ++ line :: next :: loaded := by
    rw [h.lines, Cut.lines, List.append_nil]
  obtain ⟨joined, hjoin, hjoined⟩ := LineBuffer.joinWithNext_of_lines hlines
  have hdeleted : editor.deleteForward = editor.afterEdit joined above.length line.size := by
    unfold deleteForward
    simp only
    rw [if_neg h.not_column_lt_size, h.line, h.column, hjoin]
  obtain ⟨more, hat⟩ := @exists_at_afterEdit editor _ _ hjoined
  have hkept := (untouched_jumpTo { editor with buffer := joined, dirty := true } above.length
    line.size).document_eq hreadable
  rw [hdeleted]
  refine ⟨hkept.1.trans ?_, hat.line, hat.column⟩
  show joined.lines ++ editor.unread = _
  rw [hjoined, Cut.lines, List.append_assoc, List.cons_append]

/-- At the end of the last line loaded there is nothing to delete. -/
theorem deleteForward_of_not_loaded (h : editor.At ⟨above, line, [], []⟩) :
    editor.deleteForward = editor := by
  have hlast : ¬ editor.cursor.line + 1 < editor.buffer.length :=
    fun hnext => h.next_lt_length_iff.1 hnext rfl
  unfold deleteForward
  simp only
  rw [if_neg h.not_column_lt_size, LineBuffer.joinWithNext_of_not_lt hlast]

/-! ## The end of the loaded lines -/

/-- Where lines are read ahead at all, the line below the cursor's is loaded. -/
theorem AtLineEnd.next_lt_length (h : editor.AtLineEnd above line next below)
    (hahead : editor.Prefetches) (hbound : editor.document.length ≤ maxOffset)
    (hmargin : 1 ≤ editor.settings.prefetchMargin) :
    editor.cursor.line + 1 < editor.buffer.length := by
  cases hstreaming : editor.isStreaming with
  | true =>
      have hlt := add_margin_lt hbound (hahead.ahead hstreaming)
      omega
  | false =>
      rw [LineBuffer.length, ← document_of_not_streaming hstreaming, h.document, h.line,
        List.length_append, List.length_cons, List.length_cons]
      omega

/-- How the end of a line is crossed. Whatever has been done with a new editor that reads in chunks
of at least one line, with a document that comes from bytes that are read without failing: if the
cursor is at the end of a line of it that is not the last, a move down goes to the next line. A move
to the right goes to the start of that line, and a deletion joins it to the cursor's, just if it has
been loaded; and so it has if the margin is not zero. -/
theorem next_line_reached_iff {settings : Settings} (hchunk : 1 ≤ settings.chunkLines)
    {operations : List Operation} {reader : ByteReader}
    (horigin : (new settings).originAfterAll none operations = some (.reader reader))
    (hreader : reader.Unfailing)
    (hmode : ((new settings).performAll operations).2.mode = .editing)
    (hend : ((new settings).performAll operations).2.AtLineEnd above line next below)
    (hbound : ((new settings).performAll operations).2.document.length ≤ maxOffset) :
    let editor := ((new settings).performAll operations).2
    let after (key : Key) := (editor.perform (.key (.plain key))).2
    (after .down).cursor.line = above.length + 1 ∧
      ((after .right).cursor.line = above.length + 1 ∧ (after .right).cursor.column = 0 ↔
        editor.cursor.line + 1 < editor.buffer.length) ∧
      ((after .delete).document = above ++ (line ++ next) :: below ∧
          (after .delete).cursor.line = above.length ∧
          (after .delete).cursor.column = line.size ↔
        editor.cursor.line + 1 < editor.buffer.length) ∧
      (1 ≤ editor.settings.prefetchMargin → editor.cursor.line + 1 < editor.buffer.length) := by
  intro editor after
  have hsound := (sound_new settings).performAll operations
  have hstream : ∀ source, (new settings).originAfterAll none operations = some source →
      ∃ reader : ByteReader, source = .reader reader ∧ reader.Unfailing := by
    intro source hsource
    rw [horigin] at hsource
    exact ⟨reader, (Option.some.inj hsource).symm, hreader⟩
  have hreadable : editor.Readable := hsound.loader.readable hstream
  have hahead : editor.Prefetches := by
    apply ((readsAhead_new hchunk).performAll operations).prefetches
    intro source hsource
    obtain ⟨reader, rfl, -⟩ := hstream source hsource
    exact LineSource.forthcoming_reader reader
  have hkey (key : Key) : (after key) = editor.editingKey (.plain key) := by
    show (editor.handleKey (.plain key)).2 = _
    rw [handleKey, hmode]
  have hdown : after .down = editor.moveDown := hkey .down
  have hright : after .right = editor.moveRight := hkey .right
  have hdelete : after .delete = editor.deleteForward := hkey .delete
  rw [hdown, hright, hdelete]
  refine ⟨?_, ?_, ?_, hend.next_lt_length hahead hbound⟩
  · rw [← hend.line]
    apply line_moveDown hahead.toSupplied hreadable hbound
    rw [hend.document, hend.line, List.length_append, List.length_cons, List.length_cons]
    omega
  · rcases hend.loaded_cases hsound with ⟨hlast, hat⟩ | ⟨hloaded, _, hat, -⟩
    · rw [moveRight_of_not_loaded hat]
      refine iff_of_false (fun hmoved => ?_) hlast
      -- the cursor is still on its line
      have hline : editor.cursor.line = above.length + 1 := hmoved.1
      rw [hend.line] at hline
      omega
    · exact iff_of_true (moveRight_of_loaded hat) hloaded
  · rcases hend.loaded_cases hsound with ⟨hlast, hat⟩ | ⟨hloaded, _, hat, hbelow⟩
    · rw [deleteForward_of_not_loaded hat]
      refine iff_of_false (fun hjoined => ?_) hlast
      -- the document has still all its lines
      have hlength := congrArg List.length (hend.document.symm.trans hjoined.1)
      simp only [List.length_append, List.length_cons] at hlength
      omega
    · have hjoined := deleteForward_of_loaded hat hreadable
      rw [hbelow] at hjoined
      exact iff_of_true hjoined hloaded

/-- Two lines are streamed one at a time with a margin of one: from the end of the first all three
keys reach the second. -/
theorem next_line_reached_ahead :
    let reader : ByteReader := ⟨[], [[97, 10, 98, 10]], none⟩
    let settings := Settings.usual.withChunks 1 1
    let operations : List Operation := [.openStream (.reader reader), .key (.plain .lineEnd)]
    let editor := ((new settings).performAll operations).2
    let after (key : Key) := (editor.perform (.key (.plain key))).2
    1 ≤ settings.chunkLines ∧ reader.Unfailing ∧ editor.mode = .editing ∧
      editor.AtLineEnd [] ['a'] ['b'] [] ∧ editor.document.length ≤ maxOffset ∧
      (after .down).cursor.line = 1 ∧
      ((after .right).cursor.line = 1 ∧ (after .right).cursor.column = 0) ∧
      (after .delete).document = [['a', 'b']] := by
  intro reader settings operations editor after
  have hchunk : 1 ≤ settings.chunkLines := Nat.le_refl 1
  have horigin : (new settings).originAfterAll none operations = some (.reader reader) := rfl
  have hreader : reader.Unfailing := ⟨rfl, by decide⟩
  have hmode : editor.mode = .editing := by decide +kernel
  have hend : editor.AtLineEnd [] ['a'] ['b'] [] :=
    ⟨by decide +kernel, by decide +kernel, by decide +kernel⟩
  have hbound : editor.document.length ≤ maxOffset := by
    rw [hend.document]
    decide
  have hmargin : 1 ≤ editor.settings.prefetchMargin := by decide +kernel
  -- nothing more is computed from here on
  clear_value settings operations reader
  obtain ⟨hdown, hright, hdelete, hloaded⟩ :=
    next_line_reached_iff hchunk horigin hreader hmode hend hbound
  exact ⟨hchunk, hreader, hmode, hend, hbound, hdown, hright.2 (hloaded hmargin),
    (hdelete.2 (hloaded hmargin)).1⟩

/-- With a margin of zero only the first line is loaded. A move down reads the second, but a move to
the right stays at the end of the first, and a deletion joins nothing to it. -/
theorem loaded_end_is_a_wall :
    let reader : ByteReader := ⟨[], [[97, 10, 98, 10]], none⟩
    let settings := Settings.usual.withChunks 1 0
    let operations : List Operation := [.openStream (.reader reader), .key (.plain .lineEnd)]
    let editor := ((new settings).performAll operations).2
    let after (key : Key) := (editor.perform (.key (.plain key))).2
    reader.Unfailing ∧ editor.mode = .editing ∧ editor.AtLineEnd [] ['a'] ['b'] [] ∧
      (after .down).cursor.line = 1 ∧ (after .right).cursor = ⟨0, 1, 1⟩ ∧
      (after .delete).document = [['a'], ['b']] := by
  intro reader settings operations editor after
  exact ⟨⟨rfl, by decide⟩, by decide +kernel,
    ⟨by decide +kernel, by decide +kernel, by decide +kernel⟩, by decide +kernel,
    by decide +kernel, by decide +kernel⟩

end Editor

end TextEditor
