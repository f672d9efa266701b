import TextEditor.Proofs.Buffer.Changes
import TextEditor.Proofs.Editor.Untouched
import TextEditor.Proofs.Text.Clusters

/-!
# The mark of a changed document

An editor is marked as dirty when its document has been changed. An operation that does not replace
the document either leaves it alone or edits it; an edit always changes some line, and always marks
the editor. So the mark is set by just those operations that change the document, which is made of
the loaded lines and those still to be read.

Main statements: one lemma for each edit and key, `touches_perform`, and from them
`dirty_perform_iff`.
-/

namespace TextEditor

/-! ## Taking off indentation -/

/-- A text with characters left out at its end is smaller. -/
theorem Text.size_take_lt {t : Text} {k : Nat} (h : k < t.length) : size (t.take k) < size t := by
  have hne : t.drop k ≠ [] := by
    intro hnil
    have hlength := List.length_drop (i := k) (l := t)
    rw [hnil, List.length_nil] at hlength
    omega
  have hpos := size_pos hne
  have hsize := congrArg size (List.take_append_drop k t)
  rw [size_append] at hsize
  omega

/-- Of an indentation that is not empty something is taken off. -/
theorem Text.size_dedent_lt {indent : Text} (hne : indent ≠ [])
    (hblank : ∀ c ∈ indent, isIndentChar c = true) (tabWidth : Nat) :
    size (indent.dedent tabWidth) < size indent := by
  have hpos := List.length_pos_iff.2 hne
  unfold dedent
  split
  · rw [List.dropLast_eq_take]
    exact size_take_lt (by omega)
  · next htab =>
      -- the last character is no tab, so it is a space
      have hlast := List.getLast?_eq_some_getLast hne
      have hspace : indent.getLast hne = ' ' := by
        have hindent := hblank _ (List.getLast_mem hne)
        rw [isIndentChar, Bool.or_eq_true, beq_iff_eq, beq_iff_eq] at hindent
        refine hindent.resolve_right fun heq => htab ?_
        rw [hlast, heq]
      have hcount : 0 < (indent.reverse.takeWhile (· == ' ')).length := by
        rw [← List.dropLast_concat_getLast hne, hspace, List.reverse_append]
        simp
      exact size_take_lt (by omega)

namespace Editor

variable {editor before after : Editor} {origin : Option LineSource}

/-- An operation has left the document alone, or has put other lines in place of the loaded ones,
marked the editor, and left the document alone from then on. -/
inductive Touches (editor : Editor) : Editor → Prop where
  | untouched {after : Editor} (h : Untouched editor after) : Touches editor after
  | edited {buffer : LineBuffer} {after : Editor} (hlines : buffer.lines ≠ editor.buffer.lines)
      (h : Untouched { editor with buffer := buffer, dirty := true } after) : Touches editor after

/-- To do nothing is to leave the document alone. -/
theorem Touches.refl (editor : Editor) : Touches editor editor := .untouched (.refl editor)

/-- The editor is marked just when it was before or the document has been changed. -/
theorem Touches.dirty_iff (h : Touches editor after) (hreadable : editor.Readable) :
    after.dirty = true ↔ editor.dirty = true ∨ after.document ≠ editor.document := by
  cases h with
  | untouched h =>
      rw [h.dirty_eq, (h.document_eq hreadable).1]
      simp
  | @edited buffer _ hlines h =>
      have hdirty : after.dirty = true := h.dirty_eq
      have hdocument : after.document = buffer.lines ++ editor.unread := (h.document_eq hreadable).1
      have hchanged : after.document ≠ editor.document := by
        rw [hdocument]
        exact fun heq => hlines (List.append_cancel_right heq)
      exact ⟨fun _ => .inr hchanged, fun _ => hdirty⟩

/-! ## Typing -/

/-- What follows on a change of the lines is to mark the editor and to move the cursor. -/
theorem touches_afterEdit {buffer : LineBuffer} (h : buffer.lines ≠ editor.buffer.lines)
    (line column : Nat) : Touches editor (editor.afterEdit buffer line column) :=
  .edited h (untouched_jumpTo ..)

/-- To insert a text marks the editor, unless the text is empty. -/
theorem touches_insertText (h : editor.Sound origin) (text : Text) :
    Touches editor (editor.insertText text) := by
  unfold insertText
  split
  · exact .refl editor
  · next hne =>
      have htext : text ≠ [] := fun hnil => hne (List.isEmpty_iff.2 hnil)
      exact touches_afterEdit (LineBuffer.lines_insert_ne h.buffer _ _ htext) ..

/-- To split a line always marks the editor. -/
theorem touches_splitLine (editor : Editor) : Touches editor editor.splitLine := by
  unfold splitLine
  simp only
  split
  · unfold splitBrackets
    refine touches_afterEdit (LineBuffer.lines_ne_of_length_ne ?_) ..
    have hlt := LineBuffer.length_lt_insertLinesAfter
      (editor.buffer.removeRange editor.cursor.line editor.cursor.column editor.currentLine.size).2
      editor.cursor.line (List.cons_ne_nil
        (editor.currentLine.leadingBlanks ++ editor.settings.indentUnit)
        [editor.currentLine.leadingBlanks ++ editor.currentLine.after editor.cursor.column])
    rw [LineBuffer.length_removeRange] at hlt
    exact Nat.ne_of_gt hlt
  · exact touches_afterEdit (LineBuffer.lines_splitLine_ne _ _ _ _) ..

/-- Typing edits the document unless it only steps over a character. -/
theorem typeAt_cases (editor : Editor) (column : Nat) (c : Char) :
    (∃ text, c ∈ text ∧ editor.typeAt column c =
        editor.afterEdit (editor.buffer.insert editor.cursor.line column text).2 editor.cursor.line
          (column + c.utf8Size)) ∨
      editor.typeAt column c = editor.jumpTo editor.cursor.line (column + c.utf8Size) := by
  unfold typeAt
  simp only
  split
  · exact .inl ⟨[c], List.mem_cons_self, rfl⟩
  · exact .inl ⟨_, List.mem_cons_self, rfl⟩
  · exact .inr rfl

/-- A closing bracket takes blanks away; whether it is then put in or stepped over, the line is
another. -/
theorem touches_typeAt_dedentCursor (h : editor.Sound origin) {c : Char}
    (hdedents : editor.dedentsAt editor.currentLine editor.cursor.column c = true)
    (hterminator : isTerminator c = false) :
    Touches editor (editor.dedentCursor.2.typeAt editor.dedentCursor.1 c) := by
  have hclamp : editor.buffer.clampLine editor.cursor.line = editor.cursor.line :=
    LineBuffer.clampLine_of_lt h.cursor.line_lt
  simp only [dedentsAt, Bool.and_eq_true, Bool.not_eq_true', List.isEmpty_eq_false_iff,
    List.all_eq_true] at hdedents
  obtain ⟨⟨⟨-, hclosing⟩, hne⟩, hblank⟩ := hdedents
  have hremoved : (editor.buffer.removeRange editor.cursor.line editor.dedentCursor.1
      editor.cursor.column).1 ≠ [] := by
    apply LineBuffer.removeRange_ne_nil h.buffer
    rw [hclamp]
    exact Nat.lt_of_le_of_lt (Text.floor_le _ _)
      (Text.size_dedent_lt hne hblank editor.settings.tabWidth)
  have hkept : c ∉ (editor.buffer.removeRange editor.cursor.line editor.dedentCursor.1
      editor.cursor.column).1 := by
    intro hmem
    have hbefore := LineBuffer.mem_before_of_mem_removeRange h.buffer hmem
    rw [hclamp] at hbefore
    have hindent := hblank c hbefore
    simp only [isIndentChar, isClosingBracket, Bool.or_eq_true, beq_iff_eq] at hindent hclosing
    rcases hindent with rfl | rfl
    · simp at hclosing
    · simp at hclosing
  rcases typeAt_cases editor.dedentCursor.2 editor.dedentCursor.1 c with ⟨text, hc, heq⟩ | heq
  · rw [heq]
    exact .edited (LineBuffer.lines_insert_removeRange_ne h.buffer _ hc hterminator hkept)
      (untouched_jumpTo ..)
  · rw [heq]
    exact .edited (LineBuffer.lines_removeRange_ne h.buffer hremoved) (untouched_jumpTo ..)

/-- To type a character marks the editor, unless the cursor only steps over what stands there. -/
theorem touches_insertChar (h : editor.Sound origin) (c : Char) :
    Touches editor (editor.insertChar c) := by
  unfold insertChar
  split
  · exact touches_splitLine editor
  · next hterminator =>
      split
      · next hdedents =>
          exact touches_typeAt_dedentCursor h hdedents (Bool.eq_false_iff.2 hterminator)
      · rcases typeAt_cases editor editor.cursor.column c with ⟨text, hc, heq⟩ | heq
        · rw [heq]
          exact touches_afterEdit
            (LineBuffer.lines_insert_ne h.buffer _ _ (List.ne_nil_of_mem hc)) ..
        · rw [heq]
          exact .untouched (untouched_jumpTo ..)

/-! ## Deleting -/

/-- A stretch that begins before the cursor and ends at it or behind it takes something out. -/
theorem touches_removeRange (h : editor.Sound origin) {start stop : Nat}
    (hlt : editor.currentLine.floor start < editor.currentLine.floor stop) (column : Nat) :
    Touches editor (editor.afterEdit
      (editor.buffer.removeRange editor.cursor.line start stop).2 editor.cursor.line column) := by
  apply touches_afterEdit
  apply LineBuffer.lines_removeRange_ne h.buffer
  apply LineBuffer.removeRange_ne_nil h.buffer
  rw [LineBuffer.clampLine_of_lt h.cursor.line_lt]
  exact hlt

/-- To delete backwards marks the editor, unless there is nothing before the cursor. -/
theorem touches_backspace (h : editor.Sound origin) : Touches editor editor.backspace := by
  have hfloor := Text.floor_eq_of_isBoundary h.isBoundary_currentLine
  unfold backspace
  simp only
  split
  · split
    · exact .refl editor
    · split
      · next hjoin => exact touches_afterEdit (LineBuffer.lines_joinWithNext_ne hjoin) ..
      · exact .refl editor
  · next hcolumn =>
      split
      · next opener closer _ =>
          apply touches_removeRange h
          have hpos := Char.utf8Size_pos opener
          have hstart := Text.floor_le editor.currentLine (editor.cursor.column - opener.utf8Size)
          have hstop := Text.floor_le_floor (t := editor.currentLine)
            (Nat.le_add_right editor.cursor.column closer.utf8Size)
          omega
      · apply touches_removeRange h
        have hstart := Text.floor_le editor.currentLine
          (editor.currentLine.previousCluster editor.cursor.column)
        have hlt := Text.previousCluster_lt (t := editor.currentLine) (n := editor.cursor.column)
          (by omega)
        omega

/-- To delete forwards marks the editor, unless there is nothing behind the cursor. -/
theorem touches_deleteForward (h : editor.Sound origin) : Touches editor editor.deleteForward := by
  have hfloor := Text.floor_eq_of_isBoundary h.isBoundary_currentLine
  unfold deleteForward
  simp only
  split
  · next hcolumn =>
      apply touches_removeRange h
      rw [Text.floor_eq_of_isBoundary (Text.isBoundary_nextCluster _ _)]
      exact Text.lt_nextCluster (by omega)
  · split
    · next hjoin => exact touches_afterEdit (LineBuffer.lines_joinWithNext_ne hjoin) ..
    · exact .refl editor

/-! ## Keys -/

/-- A key marks the editor while the document is edited just if it edits. -/
theorem touches_editingKey (h : editor.Sound origin) (event : KeyEvent) :
    Touches editor (editor.editingKey event) := by
  unfold editingKey
  split
  · exact .untouched (.same rfl)
  · split
    · exact .untouched (.same rfl)
    · split
      · split
        · exact .untouched (untouched_jumpTo ..)
        · exact .untouched (untouched_moveLeft editor)
      · split
        · exact .untouched (untouched_jumpTo ..)
        · exact .untouched (untouched_moveRight editor)
      · exact .untouched (untouched_moveUp editor)
      · exact .untouched (untouched_moveDown editor)
      · exact .untouched (untouched_jumpTo ..)
      · exact .untouched (untouched_jumpTo ..)
      · exact .untouched (untouched_moveVertically editor _)
      · exact .untouched (untouched_moveVertically editor _)
      · exact touches_splitLine editor
      · exact touches_backspace h
      · exact touches_deleteForward h
      · exact touches_insertText h _
      · split
        · exact touches_insertChar h _
        · exact .refl editor
      · split
        · exact touches_insertChar h _
        · exact .refl editor

/-- A key marks the editor in any mode just if it edits, apart from the command to format. -/
theorem touches_handleKey (h : editor.Sound origin) {event : KeyEvent}
    (hformat : editor.command? (.key event) ≠ some .format) :
    Touches editor (editor.handleKey event).2 := by
  by_cases hmode : editor.mode = .editing
  · unfold handleKey
    rw [hmode]
    exact touches_editingKey h event
  · exact .untouched (untouched_handleKey hmode hformat)

/-! ## Formatting -/

/-- A stream that can be read to its end leaves nothing to be read, and the language as it is. -/
theorem LoadsRest.readable {outcome : Except EditorError Unit × Editor}
    (h : LoadsRest editor outcome) (hreadable : editor.Readable) :
    outcome.1 = .ok () ∧ outcome.2.unread = [] ∧ outcome.2.language = editor.language := by
  have hlanguage (editor : Editor) (loader : Loader) (n : Nat) :
      (loader.appendMore editor.buffer n).buffer.language = editor.language := by
    rcases loader.buffer_appendMore editor.buffer n with hsame | ⟨texts, hmore⟩
    · rw [hsame]
      rfl
    · rw [hmore]
      rfl
  induction h with
  | finished hloader => exact ⟨rfl, unread_of_unfinished?_eq_none hloader, rfl⟩
  | @more editor loader n _ _ hloader _ _ ih =>
      have hkept := (loader_of_unfinished? hloader).1
      obtain ⟨hok, hnone, hsame⟩ := ih (hreadable.absorb hkept _)
      exact ⟨hok, hnone, hsame.trans (hlanguage editor loader n)⟩
  | @ended editor loader n _ _ _ => exact ⟨rfl, unread_of_closed rfl, hlanguage editor loader n⟩
  | failed hloader hresult =>
      have hunfailing := hreadable _ (loader_of_unfinished? hloader).1
      rw [(hunfailing.appendMore_eq _ _).1] at hresult
      cases hresult

/-- A formatter is given the whole document. -/
theorem formatWith_of_error (hreadable : editor.Readable) {formatter : Formatter}
    {error : EditorError}
    (h : formatter.reformat editor.language (Text.joinLines editor.document) = .error error) :
    (editor.formatWith formatter).1 = false := by
  obtain ⟨hok, hnone, hlanguage⟩ := (loadsRest_finishLoading editor).readable hreadable
  have hdocument := ((untouched_finishLoading editor).document_eq hreadable).1
  unfold formatWith
  rcases hloaded : editor.finishLoading with ⟨result, loaded⟩
  rw [hloaded] at hok hnone hlanguage hdocument
  simp only at hok hnone hlanguage hdocument
  subst hok
  rw [document, hnone, List.append_nil] at hdocument
  rw [← hlanguage, ← hdocument] at h
  simp only [LineBuffer.serialize, h]

/-- The formatter that an operation applies to the document: one that it comes with or, if the
operation carries out the command to format, the one of the editor, provided that this supports the
language. -/
def formatter? (editor : Editor) : Operation → Option Formatter
  | .formatWith formatter => some formatter
  | operation =>
      if editor.command? operation = some .format then
        editor.formatter.filter (·.supports editor.language)
      else none

/-- An operation reformats the document: the formatter that it applies accepts the whole of it. -/
def Reformats (editor : Editor) (operation : Operation) : Prop :=
  ∃ formatter text, editor.formatter? operation = some formatter ∧
    formatter.reformat editor.language (Text.joinLines editor.document) = .ok text

/-- A formatter that does not accept the document leaves it alone. -/
theorem untouched_formatWith_of_not_ok (hreadable : editor.Readable) {formatter : Formatter}
    (h : ∀ text, formatter.reformat editor.language (Text.joinLines editor.document) ≠ .ok text) :
    Untouched editor (editor.formatWith formatter).2 := by
  cases hresult : formatter.reformat editor.language (Text.joinLines editor.document) with
  | ok text => exact absurd hresult (h text)
  | error error => exact untouched_formatWith editor (formatWith_of_error hreadable hresult)

/-- The command to format leaves the document alone if no formatter is there that accepts it. -/
theorem untouched_format (hreadable : editor.Readable)
    (h : ∀ formatter text, editor.formatter.filter (·.supports editor.language) = some formatter →
      formatter.reformat editor.language (Text.joinLines editor.document) ≠ .ok text) :
    Untouched editor editor.format := by
  unfold format
  split
  · next formatter hformatter =>
      split
      · next hsupports =>
          apply untouched_formatWith_of_not_ok hreadable
          intro text
          apply h formatter
          rw [hformatter]
          exact Option.filter_eq_some_iff.2 ⟨rfl, hsupports⟩
      · exact .same rfl
  · exact .same rfl

/-! ## Operations -/

/-- Whether an operation puts another document in place of the one that there is, or takes this one
as saved. -/
def Replaces (editor : Editor) : Operation → Prop
  | .loadText _ => True
  | .openStream _ => True
  | .markSaved => True
  | operation => editor.Reformats operation

/-- A key that gives no command does not reformat the document. -/
theorem not_replaces_key {event : KeyEvent} (h : event.key ≠ .enter) :
    ¬ editor.Replaces (.key event) := by
  rintro ⟨formatter, text, hformatter, -⟩
  have hcommand : editor.command? (.key event) = none := if_neg fun hkey => h hkey.2
  simp only [formatter?, hcommand, reduceCtorEq, if_false] at hformatter

/-- A command other than one that reformats the document leaves it alone. -/
theorem untouched_perform_of_command? (hreadable : editor.Readable) {operation : Operation}
    {command : Command} (hcommand : editor.command? operation = some command)
    (hkeeps : ¬ editor.Reformats operation) : Untouched editor (editor.perform operation).2 := by
  obtain ⟨mode, input, journal, -, heq⟩ := perform_of_command? hcommand
  rw [heq]
  by_cases hformat : command = .format
  · subst hformat
    have hformatter : editor.formatter? operation =
        editor.formatter.filter (·.supports editor.language) := by
      cases operation with
      | formatWith formatter => cases hcommand
      | _ => exact if_pos hcommand
    refine Untouched.of_before (untouched_format ?_ ?_) rfl
    · exact hreadable.of_holding rfl
    · intro formatter text happlied hresult
      exact hkeeps ⟨formatter, text, hformatter.trans happlied, hresult⟩
  · exact (untouched_execute _ hformat).of_before rfl

/-- Every operation that does not replace the document leaves it alone or edits it. -/
theorem touches_perform (h : editor.Sound origin) (hreadable : editor.Readable)
    {operation : Operation} (hkeeps : ¬ editor.Replaces operation) :
    Touches editor (editor.perform operation).2 := by
  cases operation with
  | key event =>
      by_cases hformat : editor.command? (.key event) = some .format
      · exact .untouched (untouched_perform_of_command? hreadable hformat hkeeps)
      · exact touches_handleKey h hformat
  | executeLine line =>
      cases hcommand : Command.ofLine? line with
      | none =>
          refine .untouched (untouched_executeLine editor ?_)
          rw [hcommand]
          exact nofun
      | some command => exact .untouched (untouched_perform_of_command? hreadable hcommand hkeeps)
  | selectGrammar language => exact .untouched (.same (holding_selectGrammar editor language))
  | selectGrammarById id => exact .untouched (untouched_selectGrammarById editor id)
  | setFileName path => exact .untouched (.same (holding_setFileName editor path))
  | loadText text => exact absurd trivial hkeeps
  | openStream source => exact absurd trivial hkeeps
  | finishLoading => exact .untouched (untouched_finishLoading editor)
  | resize width height => exact .untouched (.same rfl)
  | goto line column => exact .untouched (untouched_goto editor line column)
  | markSaved => exact absurd trivial hkeeps
  | setStatus message => exact .untouched (.same rfl)
  | clearStatus => exact .untouched (.same rfl)
  | setDiagnostics diagnostics => exact .untouched (untouched_setDiagnostics editor diagnostics)
  | setFormatter formatter => exact .untouched (.same rfl)
  | formatWith formatter =>
      refine .untouched (untouched_formatWith_of_not_ok hreadable fun text hresult => ?_)
      exact hkeeps ⟨formatter, text, rfl, hresult⟩
  | insertChar c => exact touches_insertChar h c
  | insertText text => exact touches_insertText h text
  | insertTab => exact touches_insertText h ['\t']
  | backspace => exact touches_backspace h
  | deleteForward => exact touches_deleteForward h
  | splitLine => exact touches_splitLine editor
  | moveLeft => exact .untouched (untouched_moveLeft editor)
  | moveRight => exact .untouched (untouched_moveRight editor)
  | moveUp => exact .untouched (untouched_moveUp editor)
  | moveDown => exact .untouched (untouched_moveDown editor)
  | pageUp => exact .untouched (untouched_moveVertically editor _)
  | pageDown => exact .untouched (untouched_moveVertically editor _)
  | moveHome => exact .untouched (untouched_jumpTo ..)
  | moveEnd => exact .untouched (untouched_jumpTo ..)
  | moveWordLeft => exact .untouched (untouched_jumpTo ..)
  | moveWordRight => exact .untouched (untouched_jumpTo ..)

/-! ## Runs -/

/-- A loader that has been reading from a byte reader that does not fail can go on to its end. -/
theorem Reads.readable (h : editor.Reads origin)
    (horigin : ∀ source, origin = some source →
      ∃ reader : ByteReader, source = .reader reader ∧ reader.Unfailing) : editor.Readable := by
  intro loader hloader rest hrest
  obtain ⟨source, hsource, hreads⟩ := h.exists_source hloader
  obtain ⟨reader, rfl, hreader⟩ := horigin source hsource
  obtain ⟨requests, -, hafter⟩ := hreads.asked
  rw [hafter rest hrest]
  exact LineSource.unfailing_after hreader requests

/-- The mark of a changed document is exact. The document is made of the loaded lines and of those
that its stream has still to bring, where the stream, if there is one, is read from bytes without
failing. Whatever has been done with an editor before, after an operation that neither loads, opens
or reformats a document nor tells that it has been saved, the editor is marked just when it was
before or the operation has changed the document. -/
theorem dirty_perform_iff {settings : Settings} {operations : List Operation}
    (hstream : ∀ source, (new settings).originAfterAll none operations = some source →
      ∃ reader : ByteReader, source = .reader reader ∧ reader.Unfailing)
    {operation : Operation}
    (hkeeps : ¬ ((new settings).performAll operations).2.Replaces operation) :
    let editor := ((new settings).performAll operations).2
    let after := (editor.perform operation).2
    after.dirty = true ↔ editor.dirty = true ∨ after.document ≠ editor.document := by
  intro editor after
  have hsound := (sound_new settings).performAll operations
  have hreadable := hsound.loader.readable hstream
  exact (touches_perform hsound hreadable hkeeps).dirty_iff hreadable

/-- In a stream of which one of two lines is loaded a closing bracket is typed in front of itself:
the blanks before it go, the bracket is stepped over, and the editor is marked. -/
theorem dirty_perform_stepped_over :
    let reader : ByteReader := ⟨[], [[32, 32, 125, 10], [97, 10]], none⟩
    let settings := Settings.usual.withChunks 1 0
    let operations : List Operation := [.openStream (.reader reader), .goto 1 (some 2)]
    let editor := ((new settings).performAll operations).2
    let after := (editor.perform (.key (.plain (.char '}')))).2
    reader.Unfailing ∧ ¬ editor.Replaces (.key (.plain (.char '}'))) ∧ editor.dirty = false ∧
      editor.document = ["  \x7d".toList, "a".toList] ∧
      after.document = ["\x7d".toList, "a".toList] ∧ after.dirty = true := by
  intro reader settings operations editor after
  have hreader : reader.Unfailing := ⟨rfl, by decide⟩
  have hstream : ∀ source, (new settings).originAfterAll none operations = some source →
      ∃ reader : ByteReader, source = .reader reader ∧ reader.Unfailing := by
    intro source hsource
    exact ⟨reader, (Option.some.inj hsource).symm, hreader⟩
  have hkeeps : ¬ editor.Replaces (.key (.plain (.char '}'))) := by
    apply not_replaces_key
    exact nofun
  have hbefore : editor.document = ["  \x7d".toList, "a".toList] := by decide +kernel
  have hafter : after.document = ["\x7d".toList, "a".toList] := by decide +kernel
  have hchanged : after.document ≠ editor.document := by
    rw [hbefore, hafter]
    decide
  have hclean : editor.dirty = false := by decide +kernel
  -- nothing more is computed from here on
  clear_value settings operations
  have hdirty := (@dirty_perform_iff settings operations hstream _ hkeeps).2 (.inr hchanged)
  exact ⟨hreader, hkeeps, hclean, hbefore, hafter, hdirty⟩

end Editor

end TextEditor
