import TextEditor.Editor.Operation
import TextEditor.Proofs.Editor.Reading

/-!
# The cursor stays in the document

An editor is sound when the three lists of its buffer are in step, its cursor is on a line of the
buffer and at a character boundary of that line, the cached visual column is that of this place, and
its loader has been reading the source that the document comes from. Lines are only ever read in
behind the last line, so reading leaves a cursor where it is; and every other change of the buffer
is followed by placing the cursor anew.

Main statements: `Cursor.sound_place`, `Sound.ensureLoaded` with `Sound.finishLoading`, one lemma
for each operation, and from them `Sound.perform` and `Sound.performAll`.
-/

namespace TextEditor

variable {buffer : LineBuffer} {cursor : Cursor} {tabWidth : Nat}

/-- A cursor is on a line of a buffer, at a character boundary of the line, and knows the visual
column of its place. -/
structure Cursor.Sound (cursor : Cursor) (buffer : LineBuffer) (tabWidth : Nat) : Prop where
  line_lt : cursor.line < buffer.length
  boundary : (buffer.line cursor.line).isBoundary cursor.column = true
  visualColumn : cursor.visualColumn =
    (buffer.line cursor.line).visualColumn cursor.column tabWidth

/-- The loader of an editor has been reading a source; there is none if the document comes from
none. -/
def Editor.Reads (editor : Editor) (origin : Option LineSource) : Prop :=
  Option.Rel Loader.Reads editor.loader origin

/-- The lists of the buffer are in step, the cursor is at a place of the document, and the loader
has been reading the source that the document comes from. -/
structure Editor.Sound (editor : Editor) (origin : Option LineSource) : Prop where
  buffer : editor.buffer.InStep
  cursor : editor.cursor.Sound editor.buffer editor.settings.tabWidth
  loader : editor.Reads origin

/-- The cursor's line can be cut at the cursor. -/
theorem Editor.Sound.isBoundary_currentLine {editor : Editor} {origin : Option LineSource}
    (h : editor.Sound origin) :
    editor.currentLine.isBoundary editor.cursor.column = true := h.cursor.boundary

namespace Cursor

/-- Wherever a cursor is put, it is at a place of the buffer. -/
theorem sound_place (h : buffer.InStep) (line column tabWidth : Nat) :
    (place buffer line column tabWidth).Sound buffer tabWidth where
  line_lt := h.clampLine_lt line
  boundary := Text.isBoundary_floor _ column
  visualColumn := by
    simp only [place, Text.visualColumn, Text.before_floor]

/-- More lines at the end leave a cursor where it is. -/
theorem Sound.appendLines (h : cursor.Sound buffer tabWidth) (texts : List Text) :
    cursor.Sound (buffer.appendLines texts).2 tabWidth := by
  have hlines : (buffer.appendLines texts).2.lines =
      buffer.lines ++ Text.flattenLines (Text.flattenLines texts) := by
    have hlast : buffer.length - 1 + 1 = buffer.lines.length :=
      Nat.sub_add_cancel (Nat.lt_of_le_of_lt (Nat.zero_le _) h.line_lt)
    have hclamp : buffer.clampLine (buffer.length - 1) = buffer.length - 1 := Nat.min_self _
    rw [LineBuffer.appendLines, LineBuffer.lines_insertLinesAfter, hclamp, hlast, insertItems,
      List.take_length, List.drop_length, List.append_nil]
  have hline : (buffer.appendLines texts).2.line cursor.line = buffer.line cursor.line := by
    rw [LineBuffer.line, LineBuffer.line?, hlines, List.getElem?_append_left h.line_lt]
    rfl
  refine ⟨?_, ?_, ?_⟩
  · rw [LineBuffer.length, hlines, List.length_append]
    exact Nat.lt_of_lt_of_le h.line_lt (Nat.le_add_right _ _)
  · rw [hline]
    exact h.boundary
  · rw [hline]
    exact h.visualColumn

end Cursor

/-! ## Reading lines -/

/-- Reading adds lines at the end of the buffer, or nothing. -/
theorem Loader.buffer_appendMore (loader : Loader) (buffer : LineBuffer) (n : Nat) :
    (loader.appendMore buffer n).buffer = buffer ∨
      ∃ texts, (loader.appendMore buffer n).buffer = (buffer.appendLines texts).2 := by
  unfold Loader.appendMore
  split
  · exact .inl rfl
  · next batch _ _ _ => exact .inr ⟨batch.lines, rfl⟩
  · exact .inl rfl

/-- A buffer stays in step when lines are read into it. -/
theorem Loader.inStep_appendMore (h : buffer.InStep) (loader : Loader) (n : Nat) :
    (loader.appendMore buffer n).buffer.InStep := by
  rcases loader.buffer_appendMore buffer n with hsame | ⟨texts, hmore⟩
  · rw [hsame]
    exact h
  · rw [hmore]
    exact LineBuffer.inStep_insertLinesAfter h _ _

/-- The first lines take the place of what a buffer holds, or nothing does. -/
theorem Loader.inStep_loadInitial (h : buffer.InStep) (loader : Loader) (n : Nat) :
    (loader.loadInitial buffer n).buffer.InStep := by
  unfold Loader.loadInitial
  split
  · exact h
  · exact LineBuffer.inStep_replaceLines buffer _
  · exact h

/-- A cursor stays at its place when lines are read into the buffer. -/
theorem Cursor.Sound.appendMore (h : cursor.Sound buffer tabWidth) (loader : Loader) (n : Nat) :
    cursor.Sound (loader.appendMore buffer n).buffer tabWidth := by
  rcases loader.buffer_appendMore buffer n with hsame | ⟨texts, hmore⟩
  · rw [hsame]
    exact h
  · rw [hmore]
    exact h.appendLines texts

namespace Editor

variable {editor : Editor} {origin : Option LineSource}

/-- A buffer stays in step when lines are read towards one. -/
theorem inStep_ensureLoaded (h : editor.buffer.InStep) (line : Nat) :
    (editor.ensureLoaded line).buffer.InStep := by
  refine ensureLoaded_induction (P := fun editor => editor.buffer.InStep) ?_ h line
  intro _ loader _ h n
  exact Loader.inStep_appendMore h loader n

/-- A loader reads the source that the document comes from. -/
theorem Reads.exists_source {loader : Loader} (h : editor.Reads origin)
    (hloader : editor.loader = some loader) :
    ∃ source, origin = some source ∧ loader.Reads source := by
  unfold Reads at h
  rw [hloader] at h
  cases h with
  | some hreads => exact ⟨_, rfl, hreads⟩

/-- A document that comes from a source has a loader that reads it. -/
theorem Reads.exists_loader {source : LineSource} (h : editor.Reads (some source)) :
    ∃ loader, editor.loader = some loader ∧ loader.Reads source := by
  unfold Reads at h
  cases hloader : editor.loader with
  | none =>
      rw [hloader] at h
      cases h
  | some loader =>
      rw [hloader] at h
      cases h with
      | some hreads => exact ⟨loader, rfl, hreads⟩

/-- Reading goes on with the source that the document comes from. -/
theorem Reads.absorb {loader : Loader} (hloader : editor.unfinished? = some loader)
    (h : editor.Reads origin) (n : Nat) :
    (editor.absorb (loader.appendMore editor.buffer n)).Reads origin := by
  obtain ⟨source, rfl, hreads⟩ := h.exists_source (loader_of_unfinished? hloader).1
  refine .some ?_
  rw [Loader.loader_appendMore]
  exact hreads.read n

/-- A source that gives no lines when asked for some has been read to its end, and is let go of. -/
theorem Reads.close {loader : Loader} {n : Nat} (hloader : editor.unfinished? = some loader)
    (hnone : (loader.appendMore editor.buffer n).result = .ok 0) (h : editor.Reads origin) :
    Option.Rel Loader.Reads (some (loader.appendMore editor.buffer n).loader.close) origin := by
  obtain ⟨hkept, hgoing⟩ := loader_of_unfinished? hloader
  obtain ⟨source, rfl, hreads⟩ := h.exists_source hkept
  exact .some (hreads.close_appendMore hgoing hnone)

/-- Reading towards a line goes on with the source that the document comes from. -/
theorem Reads.ensureLoaded (h : editor.Reads origin) (line : Nat) :
    (editor.ensureLoaded line).Reads origin := by
  refine ensureLoaded_induction (P := fun editor => editor.Reads origin) ?_ h line
  intro editor loader hloader h n
  exact h.absorb hloader n

/-- An editor stays sound when lines are read. -/
theorem Sound.absorb {loader : Loader} (hloader : editor.unfinished? = some loader)
    (h : editor.Sound origin) (n : Nat) :
    (editor.absorb (loader.appendMore editor.buffer n)).Sound origin :=
  ⟨Loader.inStep_appendMore h.buffer loader n, h.cursor.appendMore loader n,
    h.loader.absorb hloader n⟩

/-- An editor stays sound when lines are read towards one. -/
theorem Sound.ensureLoaded (h : editor.Sound origin) (line : Nat) :
    (editor.ensureLoaded line).Sound origin := by
  refine ensureLoaded_induction (P := fun editor => editor.Sound origin) ?_ h line
  intro editor loader hloader h n
  exact h.absorb hloader n

/-- An editor stays sound when the rest is read, whether that succeeds or not. -/
theorem Sound.finishLoading (h : editor.Sound origin) : editor.finishLoading.2.Sound origin := by
  refine finishLoading_induction (P := fun editor => editor.Sound origin) ?_ ?_ h
  · intro editor loader hloader h n
    exact h.absorb hloader n
  · -- the last read brought no lines, and only the loader is not the one that it leaves
    intro editor loader n _ hloader hnone h
    have hread := h.absorb hloader n
    exact ⟨hread.buffer, hread.cursor, h.loader.close hloader hnone⟩

/-! ## Placing the cursor -/

/-- Moving puts the cursor at a place of the buffer, wherever it was before. -/
theorem sound_moveCursor (h : editor.buffer.InStep) (hloader : editor.Reads origin)
    (line column : Nat) : (editor.moveCursor line column).Sound origin :=
  ⟨inStep_ensureLoaded h line, Cursor.sound_place (inStep_ensureLoaded h line) ..,
    hloader.ensureLoaded line⟩

/-- A jump makes an editor sound wherever its cursor was, provided that its buffer is in step. -/
theorem sound_jumpTo (h : editor.buffer.InStep) (hloader : editor.Reads origin)
    (line column : Nat) : (editor.jumpTo line column).Sound origin := by
  apply sound_moveCursor
  · exact h
  · exact hloader

/-- An edit that puts a buffer in step in place of the old one makes an editor sound. -/
theorem sound_afterEdit {buffer : LineBuffer} (h : buffer.InStep) (hloader : editor.Reads origin)
    (line column : Nat) : (editor.afterEdit buffer line column).Sound origin := by
  apply sound_jumpTo
  · exact h
  · exact hloader

/-! ## Typing -/

/-- An editor stays sound when text is inserted. -/
theorem Sound.insertText (h : editor.Sound origin) (text : Text) :
    (editor.insertText text).Sound origin := by
  unfold Editor.insertText
  split
  · exact h
  · exact sound_afterEdit (LineBuffer.inStep_insert h.buffer ..) h.loader ..

/-- An editor stays sound when its line is split. -/
theorem Sound.splitLine (h : editor.Sound origin) : editor.splitLine.Sound origin := by
  unfold Editor.splitLine
  simp only
  split
  · refine sound_afterEdit ?_ h.loader ..
    exact LineBuffer.inStep_insertLinesAfter (LineBuffer.inStep_removeRange h.buffer ..) ..
  · exact sound_afterEdit (LineBuffer.inStep_splitLine h.buffer ..) h.loader ..

/-- Typing at any byte of a line, of an editor whose cursor need not be placed yet. -/
theorem sound_typeAt (h : editor.buffer.InStep) (hloader : editor.Reads origin) (column : Nat)
    (c : Char) : (editor.typeAt column c).Sound origin := by
  unfold typeAt
  simp only
  split
  · exact sound_afterEdit (LineBuffer.inStep_insert h ..) hloader ..
  · exact sound_afterEdit (LineBuffer.inStep_insert h ..) hloader ..
  · exact sound_jumpTo h hloader ..

/-- An editor stays sound when a character is typed. -/
theorem Sound.insertChar (h : editor.Sound origin) (c : Char) :
    (editor.insertChar c).Sound origin := by
  unfold Editor.insertChar
  split
  · exact h.splitLine
  · split
    · apply sound_typeAt
      · exact LineBuffer.inStep_removeRange h.buffer ..
      · exact h.loader
    · exact sound_typeAt h.buffer h.loader _ c

/-- An editor stays sound when text before the cursor is deleted. -/
theorem Sound.backspace (h : editor.Sound origin) : editor.backspace.Sound origin := by
  unfold Editor.backspace
  simp only
  split
  · split
    · exact h
    · split
      · next hjoin =>
          exact sound_afterEdit (LineBuffer.inStep_joinWithNext h.buffer _ hjoin) h.loader ..
      · exact h
  · split
    · exact sound_afterEdit (LineBuffer.inStep_removeRange h.buffer ..) h.loader ..
    · exact sound_afterEdit (LineBuffer.inStep_removeRange h.buffer ..) h.loader ..

/-- An editor stays sound when text behind the cursor is deleted. -/
theorem Sound.deleteForward (h : editor.Sound origin) : editor.deleteForward.Sound origin := by
  unfold Editor.deleteForward
  simp only
  split
  · exact sound_afterEdit (LineBuffer.inStep_removeRange h.buffer ..) h.loader ..
  · split
    · next hjoin =>
        exact sound_afterEdit (LineBuffer.inStep_joinWithNext h.buffer _ hjoin) h.loader ..
    · exact h

/-! ## Moving -/

/-- An editor stays sound when the cursor moves to the left. -/
theorem Sound.moveLeft (h : editor.Sound origin) : editor.moveLeft.Sound origin := by
  unfold Editor.moveLeft
  simp only
  split
  · exact sound_jumpTo h.buffer h.loader ..
  · split
    · exact sound_jumpTo h.buffer h.loader ..
    · exact ⟨h.buffer, h.cursor, h.loader⟩

/-- An editor stays sound when the cursor moves to the right. -/
theorem Sound.moveRight (h : editor.Sound origin) : editor.moveRight.Sound origin := by
  unfold Editor.moveRight
  simp only
  split
  · exact sound_jumpTo h.buffer h.loader ..
  · split
    · exact sound_jumpTo h.buffer h.loader ..
    · exact ⟨h.buffer, h.cursor, h.loader⟩

/-- A vertical move makes an editor sound, as it places the cursor anew. -/
theorem sound_moveVertically (h : editor.buffer.InStep) (hloader : editor.Reads origin)
    (line : Nat) : (editor.moveVertically line).Sound origin := by
  have hbuffer : { editor with goalColumn := some editor.aim }.buffer.InStep := h
  have hsource : { editor with goalColumn := some editor.aim }.Reads origin := hloader
  exact sound_moveCursor (inStep_ensureLoaded hbuffer line) (hsource.ensureLoaded line) ..

/-- An editor stays sound when the cursor moves up. -/
theorem Sound.moveUp (h : editor.Sound origin) : editor.moveUp.Sound origin := by
  unfold Editor.moveUp
  split
  · exact sound_moveVertically h.buffer h.loader _
  · exact h

/-- An editor stays sound when the cursor moves down. -/
theorem Sound.moveDown (h : editor.Sound origin) : editor.moveDown.Sound origin := by
  unfold Editor.moveDown
  simp only
  split
  · exact sound_moveVertically (inStep_ensureLoaded h.buffer _) (h.loader.ensureLoaded _) _
  · exact h.ensureLoaded _

/-! ## The document as a whole -/

/-- An editor stays sound with another grammar. -/
theorem Sound.selectGrammar (h : editor.Sound origin) (language : Language) :
    (editor.selectGrammar language).Sound origin := by
  unfold Editor.selectGrammar
  split
  · exact h
  · -- the lines stay as they are, and with them the place of the cursor
    exact ⟨LineBuffer.inStep_setHighlighter h.buffer _, ⟨h.cursor.line_lt, h.cursor.boundary,
      h.cursor.visualColumn⟩, h.loader⟩

/-- An editor stays sound when a grammar is asked for by its name. -/
theorem Sound.selectGrammarById (h : editor.Sound origin) (id : Text) :
    (editor.selectGrammarById id).2.Sound origin := by
  unfold Editor.selectGrammarById
  split
  · exact h.selectGrammar _
  · exact h

/-- An editor stays sound with another file name. -/
theorem Sound.setFileName (h : editor.Sound origin) (path : Text) :
    (editor.setFileName path).Sound origin :=
  ⟨(h.selectGrammar _).buffer, (h.selectGrammar _).cursor, (h.selectGrammar _).loader⟩

/-- A text takes the place of whatever the document came from. -/
theorem sound_loadText (editor : Editor) (text : Text) : (editor.loadText text).Sound none := by
  apply sound_jumpTo
  · exact LineBuffer.inStep_replaceLines _ _
  · exact .none

/-- The source that the document comes from after an operation, if it came from `origin` before: the
one of the last stream that has been opened, unless a text has been loaded since. -/
def originAfter (editor : Editor) (origin : Option LineSource) : Operation → Option LineSource
  | .loadText _ => none
  | .openStream source =>
      match (editor.openStream source).1 with
      | .ok _ => some source
      | .error _ => origin
  | _ => origin

/-- An editor that opens a stream is sound, with the stream as what its document comes from if it
can be opened. -/
theorem Sound.openStream (h : editor.Sound origin) (source : LineSource) :
    (editor.openStream source).2.Sound (editor.originAfter origin (.openStream source)) := by
  have hnew : Option.Rel Loader.Reads (some ((Loader.new source).loadInitial editor.buffer
      editor.settings.chunkLines).loader) (some source) := by
    refine .some ?_
    rw [Loader.loader_loadInitial]
    exact (Loader.reads_new source).read _
  -- a stream that fails at once leaves the editor with the loader that it had
  unfold originAfter Editor.openStream
  simp only
  cases ((Loader.new source).loadInitial editor.buffer editor.settings.chunkLines).result with
  | ok count =>
      apply sound_jumpTo
      · exact Loader.inStep_loadInitial h.buffer ..
      · exact hnew
  | error error => exact ⟨h.buffer, h.cursor, h.loader⟩

/-- An editor stays sound with a screen of another size. -/
theorem Sound.resize (h : editor.Sound origin) (width height : Nat) :
    (editor.resize width height).Sound origin :=
  ⟨h.buffer, h.cursor, h.loader⟩

/-- An editor stays sound with other diagnostics. -/
theorem Sound.setDiagnostics (h : editor.Sound origin) (diagnostics : List Diagnostic) :
    (editor.setDiagnostics diagnostics).Sound origin := by
  unfold Editor.setDiagnostics
  simp only
  split
  · apply sound_jumpTo
    · exact h.buffer
    · exact h.loader
  · exact ⟨h.buffer, h.cursor, h.loader⟩

/-! ## Commands -/

/-- An editor stays sound when it is saved. -/
theorem Sound.requestSave (h : editor.Sound origin) (quitAfter : Bool) :
    (editor.requestSave quitAfter).2.Sound origin := by
  have hloaded := h.finishLoading
  unfold Editor.requestSave
  cases editor.fileName with
  | none => exact h
  | some path =>
      simp only
      split
      · next heq =>
          rw [heq] at hloaded
          exact hloaded
      · next heq =>
          rw [heq] at hloaded
          exact hloaded

/-- An editor stays sound when the cursor goes to a line. -/
theorem Sound.goto (h : editor.Sound origin) (line : Nat) (column : Option Nat) :
    (editor.goto line column).Sound origin := by
  unfold Editor.goto
  simp only
  split
  · exact sound_jumpTo (inStep_ensureLoaded h.buffer _) (h.loader.ensureLoaded _) ..
  · exact sound_jumpTo h.buffer h.loader ..

/-- An editor stays sound when a formatter is applied. -/
theorem Sound.formatWith (h : editor.Sound origin) (formatter : Formatter) :
    (editor.formatWith formatter).2.Sound origin := by
  have hloaded := h.finishLoading
  unfold Editor.formatWith
  split
  · next heq =>
      rw [heq] at hloaded
      exact hloaded
  · next loaded heq =>
      rw [heq] at hloaded
      split
      · apply sound_moveCursor
        · exact LineBuffer.inStep_replaceLines _ _
        · exact hloaded.loader
      · exact ⟨hloaded.buffer, hloaded.cursor, hloaded.loader⟩

/-- An editor stays sound when it is formatted. -/
theorem Sound.format (h : editor.Sound origin) : editor.format.Sound origin := by
  unfold Editor.format
  split
  · split
    · exact h.formatWith _
    · exact ⟨h.buffer, h.cursor, h.loader⟩
  · exact ⟨h.buffer, h.cursor, h.loader⟩

/-- Every command keeps an editor sound. -/
theorem Sound.execute (h : editor.Sound origin) (command : Command) :
    (editor.execute command).2.Sound origin := by
  cases command with
  | quit =>
      simp only [Editor.execute]
      split
      · exact ⟨h.buffer, h.cursor, h.loader⟩
      · exact h
  | save path =>
      cases path with
      | some path => exact (h.setFileName path).requestSave false
      | none =>
          apply Sound.requestSave
          split
          · exact ⟨h.buffer, h.cursor, h.loader⟩
          · exact h
  | goto line column => exact h.goto line column
  | setEncoding encoding => exact ⟨h.buffer, h.cursor, h.loader⟩
  | format => exact h.format
  | test => exact h

/-- Every line at the prompt for commands keeps an editor sound. -/
theorem Sound.executeLine (h : editor.Sound origin) (line : Text) :
    (editor.executeLine line).2.Sound origin := by
  unfold Editor.executeLine
  split
  · exact h
  · apply Sound.execute
    exact ⟨h.buffer, h.cursor, h.loader⟩
  · exact ⟨h.buffer, h.cursor, h.loader⟩

/-! ## Keys -/

/-- An editor stays sound when the search goes to a result. -/
theorem Sound.gotoResult (h : editor.Sound origin) : editor.gotoResult.Sound origin := by
  unfold Editor.gotoResult
  split
  · exact h
  · exact sound_jumpTo h.buffer h.loader ..

/-- Every key keeps an editor sound while the document is edited. -/
theorem Sound.editingKey (h : editor.Sound origin) (event : KeyEvent) :
    (editor.editingKey event).Sound origin := by
  unfold Editor.editingKey
  split
  · exact ⟨h.buffer, h.cursor, h.loader⟩
  · split
    · exact ⟨h.buffer, h.cursor, h.loader⟩
    · split
      · split
        · exact sound_jumpTo h.buffer h.loader ..
        · exact h.moveLeft
      · split
        · exact sound_jumpTo h.buffer h.loader ..
        · exact h.moveRight
      · exact h.moveUp
      · exact h.moveDown
      · exact sound_jumpTo h.buffer h.loader ..
      · exact sound_jumpTo h.buffer h.loader ..
      · exact sound_moveVertically h.buffer h.loader _
      · exact sound_moveVertically h.buffer h.loader _
      · exact h.splitLine
      · exact h.backspace
      · exact h.deleteForward
      · exact h.insertText _
      · split
        · exact h.insertChar _
        · exact h
      · split
        · exact h.insertChar _
        · exact h

/-- A key at a prompt changes nothing that soundness is about. -/
theorem Sound.promptKey (h : editor.Sound origin) (event : KeyEvent) :
    (editor.promptKey event).Sound origin := by
  unfold Editor.promptKey
  split
  · exact ⟨h.buffer, h.cursor, h.loader⟩
  · exact ⟨h.buffer, h.cursor, h.loader⟩

/-- Every key at the prompt for commands keeps an editor sound. -/
theorem Sound.commandKey (h : editor.Sound origin) (event : KeyEvent) :
    (editor.commandKey event).2.Sound origin := by
  unfold Editor.commandKey
  split
  · exact ⟨h.buffer, h.cursor, h.loader⟩
  · apply Sound.executeLine
    exact ⟨h.buffer, h.cursor, h.loader⟩
  · exact h.promptKey event

/-- Every key of a search keeps an editor sound. -/
theorem Sound.findKey (h : editor.Sound origin) (event : KeyEvent) :
    (editor.findKey event).Sound origin := by
  unfold Editor.findKey
  have hsearch (search : LineSearch) :
      { editor with search := search }.gotoResult.Sound origin := by
    apply Sound.gotoResult
    exact ⟨h.buffer, h.cursor, h.loader⟩
  split
  · exact ⟨h.buffer, h.cursor, h.loader⟩
  · exact ⟨h.buffer, h.cursor, h.loader⟩
  · exact hsearch _
  · exact hsearch _
  · exact hsearch _
  · exact hsearch _
  · exact hsearch _
  · split
    · exact hsearch _
    · exact h

/-- Every key at the prompt for a file name keeps an editor sound. -/
theorem Sound.savePromptKey (h : editor.Sound origin) (event : KeyEvent) :
    (editor.savePromptKey event).2.Sound origin := by
  unfold Editor.savePromptKey
  split
  · exact ⟨h.buffer, h.cursor, h.loader⟩
  · simp only
    split
    · exact ⟨h.buffer, h.cursor, h.loader⟩
    · apply Sound.requestSave
      apply Sound.setFileName
      exact ⟨h.buffer, h.cursor, h.loader⟩
  · exact h.promptKey event

/-- Every key that answers the question before quitting keeps an editor sound. -/
theorem Sound.quitPromptKey (h : editor.Sound origin) (event : KeyEvent) :
    (editor.quitPromptKey event).2.Sound origin := by
  unfold Editor.quitPromptKey
  simp only
  split
  · exact ⟨h.buffer, h.cursor, h.loader⟩
  · split
    · apply Sound.requestSave
      exact ⟨h.buffer, h.cursor, h.loader⟩
    · exact ⟨h.buffer, h.cursor, h.loader⟩

/-- Every key keeps an editor sound, in any mode. -/
theorem Sound.handleKey (h : editor.Sound origin) (event : KeyEvent) :
    (editor.handleKey event).2.Sound origin := by
  unfold Editor.handleKey
  split
  · exact h.editingKey event
  · exact h.commandKey event
  · exact h.findKey event
  · exact h.savePromptKey event
  · exact h.quitPromptKey event

/-! ## Runs -/

/-- An editor stays sound through every operation. -/
theorem Sound.perform (h : editor.Sound origin) (operation : Operation) :
    (editor.perform operation).2.Sound (editor.originAfter origin operation) := by
  cases operation with
  | key event => exact h.handleKey event
  | executeLine line => exact h.executeLine line
  | selectGrammar language => exact h.selectGrammar language
  | selectGrammarById id => exact h.selectGrammarById id
  | setFileName path => exact h.setFileName path
  | loadText text => exact sound_loadText editor text
  | openStream source =>
      have hopen := h.openStream source
      simp only [Editor.perform]
      split
      · next heq =>
          rw [heq] at hopen
          exact hopen
      · next heq =>
          rw [heq] at hopen
          exact hopen
  | finishLoading => exact h.finishLoading
  | resize width height => exact h.resize width height
  | goto line column => exact h.goto line column
  | markSaved => exact ⟨h.buffer, h.cursor, h.loader⟩
  | setStatus message => exact ⟨h.buffer, h.cursor, h.loader⟩
  | clearStatus => exact ⟨h.buffer, h.cursor, h.loader⟩
  | setDiagnostics diagnostics => exact h.setDiagnostics diagnostics
  | setFormatter formatter => exact ⟨h.buffer, h.cursor, h.loader⟩
  | formatWith formatter => exact h.formatWith formatter
  | insertChar c => exact h.insertChar c
  | insertText text => exact h.insertText text
  | insertTab => exact h.insertText ['\t']
  | backspace => exact h.backspace
  | deleteForward => exact h.deleteForward
  | splitLine => exact h.splitLine
  | moveLeft => exact h.moveLeft
  | moveRight => exact h.moveRight
  | moveUp => exact h.moveUp
  | moveDown => exact h.moveDown
  | pageUp => exact sound_moveVertically h.buffer h.loader _
  | pageDown => exact sound_moveVertically h.buffer h.loader _
  | moveHome => exact sound_jumpTo h.buffer h.loader ..
  | moveEnd => exact sound_jumpTo h.buffer h.loader ..
  | moveWordLeft => exact sound_jumpTo h.buffer h.loader ..
  | moveWordRight => exact sound_jumpTo h.buffer h.loader ..

/-- A new editor is sound. -/
theorem sound_new (settings : Settings) : (new settings).Sound none :=
  ⟨LineBuffer.inStep_empty _, ⟨Nat.zero_lt_one, rfl, rfl⟩, .none⟩

/-- The source that the document comes from after a run, if it came from `origin` before. -/
def originAfterAll (editor : Editor) (origin : Option LineSource) :
    List Operation → Option LineSource
  | [] => origin
  | operation :: operations =>
      (editor.perform operation).2.originAfterAll (editor.originAfter origin operation) operations

/-- An editor is sound after every run. -/
theorem Sound.performAll (h : editor.Sound origin) (operations : List Operation) :
    (editor.performAll operations).2.Sound (editor.originAfterAll origin operations) := by
  induction operations generalizing editor origin with
  | nil => exact h
  | cons operation operations ih => exact ih (h.perform operation)

end Editor

end TextEditor
