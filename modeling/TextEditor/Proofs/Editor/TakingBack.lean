import TextEditor.Proofs.Buffer.RoundTrip
import TextEditor.Proofs.Editor.Dedenting
import TextEditor.Proofs.Editor.Stepping

/-!
# Taking back a bracket

Typing a bracket types the one that closes it as well, as the first pair has it that has a say. This
pair is one of those that deleting backwards looks for around the cursor; so deleting takes both
brackets, whatever stands around them, and the document and the cursor are as they were.

Main statements: `CharPair.mem_of_action`, `insertChar_closed` and `backspace_enclosed` for the two
steps, and `backspace_takes_back`.
-/

namespace TextEditor

variable {c opener closer : Char}

namespace CharPair

/-- A pair closes a character by another only if it consists of the two. -/
theorem eq_of_action? {pair : CharPair} {before behind : Text} (hne : closer ≠ c)
    (h : pair.action? before behind c = some (.autoClose closer)) : pair = (c, closer) := by
  obtain ⟨first, second⟩ := pair
  simp only [action?] at h
  split at h
  · next hquote =>
      -- a quote closes itself
      split at h
      · cases h
      · next hsame =>
          split at h
          · cases h
            exact absurd (hquote.symm.trans (not_not.1 hsame).symm) hne
          · split at h <;> cases h
  · split at h
    · next hopens =>
        cases h
        rw [hopens]
    · split at h <;> cases h

/-- What is closed by another character is a pair with it. -/
theorem mem_of_action {pairs : List CharPair} {line : Text} {column : Nat} (hne : closer ≠ c)
    (h : action pairs line column c = .autoClose closer) : (c, closer) ∈ pairs := by
  unfold action at h
  cases hfound : pairs.findSome? fun pair =>
      pair.action? (line.before column) (line.after column) c with
  | none =>
      rw [hfound] at h
      cases h
  | some found =>
      rw [hfound] at h
      obtain rfl : found = .autoClose closer := h
      obtain ⟨pair, hmem, haction⟩ := List.exists_of_findSome?_eq_some hfound
      rwa [eq_of_action? hne haction] at hmem

end CharPair

namespace LineBuffer

variable {buffer : LineBuffer}

/-- An insertion leaves the highlighter. -/
theorem highlighter_insert (buffer : LineBuffer) (line column : Nat) (text : Text) :
    (buffer.insert line column text).2.highlighter = buffer.highlighter := by
  rw [insert]
  split <;> rfl

/-- A removal leaves the highlighter. -/
theorem highlighter_removeRange (buffer : LineBuffer) (line start stop : Nat) :
    (buffer.removeRange line start stop).2.highlighter = buffer.highlighter := by
  rw [removeRange]
  split <;> rfl

end LineBuffer

namespace Editor

variable {editor : Editor} {here : Cut} {origin : Option LineSource}

/-- With nothing left to be read the buffer is what an edit has made it. -/
theorem buffer_afterEdit (h : editor.unfinished? = none) (buffer : LineBuffer) (line column : Nat) :
    (editor.afterEdit buffer line column).buffer = buffer := by
  have hedited : { editor with
      buffer := buffer, dirty := true, goalColumn := none }.unfinished? = none := h
  exact congrArg Editor.buffer (ensureLoaded_of_unfinished?_eq_none hedited line)

/-- A character that is closed by another is put in with it, and the cursor goes between the two. -/
theorem insertChar_closed (h : editor.At here) (hloaded : editor.unfinished? = none)
    (hclose : editor.settings.autoClose = true) (hc : isTerminator c = false)
    (hbracket : isClosingBracket c = false) (hcloser : isTerminator closer = false)
    (haction : CharPair.action editor.settings.pairs editor.currentLine editor.cursor.column c =
      .autoClose closer) :
    (editor.insertChar c).At
        ⟨here.above, here.before ++ [c], closer :: here.behind, here.below⟩ ∧
      (editor.insertChar c).unfinished? = none ∧
      (editor.insertChar c).buffer.highlighter = editor.buffer.highlighter := by
  have hdedents : editor.dedentsAt editor.currentLine editor.cursor.column c = false := by
    simp [dedentsAt, hbracket]
  have hinsert : editor.insertChar c = editor.afterEdit
      (editor.buffer.insert here.above.length here.before.size [c, closer]).2
      here.above.length (here.before ++ [c]).size := by
    rw [insertChar, if_neg (by simp [hc]), if_neg (by simp [hdedents]), typeAt, if_pos hclose]
    simp only [haction]
    rw [h.line, h.column, size_append_singleton]
  have htext : Text.hasTerminator [c, closer] = false := by simp [hc, hcloser]
  have hlines : (editor.buffer.insert here.above.length here.before.size [c, closer]).2.lines =
      Cut.lines ⟨here.above, here.before ++ [c], closer :: here.behind, here.below⟩ := by
    rw [LineBuffer.lines_insert_cut h.lines htext]
    simp [Cut.lines]
  rw [hinsert]
  refine ⟨at_afterEdit hlines hloaded, (untouched_jumpTo _ _ _).unfinished?_eq hloaded, ?_⟩
  rw [buffer_afterEdit hloaded, LineBuffer.highlighter_insert]

/-- Between two brackets of a pair both are deleted, whatever cluster ends at the cursor. -/
theorem backspace_enclosed
    (h : editor.At ⟨here.above, here.before ++ [opener], closer :: here.behind, here.below⟩)
    (hloaded : editor.unfinished? = none) (hne : opener ≠ closer)
    (hpair : (opener, closer) ∈ editor.settings.pairs) :
    editor.backspace.At here ∧
      editor.backspace.buffer.highlighter = editor.buffer.highlighter := by
  have hcolumn : editor.cursor.column = here.before.size + opener.utf8Size :=
    h.column.trans (size_append_singleton ..)
  have hbehind : editor.cursor.column ≠ 0 := by
    have := opener.utf8Size_pos
    omega
  have haround : CharPair.around? editor.settings.pairs editor.currentLine editor.cursor.column =
      some (opener, closer) := by
    rw [h.currentLine_eq, h.column, CharPair.around?, Text.charsAround, Text.before_append_size,
      Text.after_append_size, List.getLast?_concat, List.head?_cons]
    simp [CharPair.isBracketPair, hne, hpair]
  have hdelete : editor.backspace = editor.afterEdit
      (editor.buffer.removeRange here.above.length here.before.size
        (here.before.size + Text.size [opener, closer])).2 here.above.length here.before.size := by
    unfold backspace
    simp only [haround]
    rw [if_neg hbehind, h.line, hcolumn, Nat.add_sub_cancel, Nat.add_assoc]
    rfl
  have hlines : editor.buffer.lines =
      here.above ++ (here.before ++ ([opener, closer] ++ here.behind)) :: here.below := by
    rw [h.lines]
    simp [Cut.lines]
  rw [hdelete]
  refine ⟨at_afterEdit (LineBuffer.lines_removeRange hlines) hloaded, ?_⟩
  rw [buffer_afterEdit hloaded, LineBuffer.highlighter_removeRange]

/-- The key for it deletes backwards while the document is edited. -/
theorem perform_backspace (hmode : editor.mode = .editing) {event : KeyEvent}
    (h : event.key = .backspace) : (editor.perform (.key event)).2 = editor.backspace := by
  have hctrl (c : Char) : event.isCtrlChar c = false := by
    simp [KeyEvent.isCtrlChar, KeyEvent.char?, h]
  rw [perform, handleKey, hmode]
  simp only [editingKey, hctrl, h, Bool.false_eq_true, if_false]

/-- A bracket that is closed as it is typed can be taken back. In any sound editor, such as every
run leads to, in which a document is being edited that has been read to its end, with closing pairs
on: whatever the pairs are and whatever stands around the cursor, if a character that is no closing
bracket is closed by another character, typing it puts both around the cursor, and deleting
backwards leaves the document and the cursor as they were. -/
theorem backspace_takes_back (h : editor.Sound origin) (hmode : editor.mode = .editing)
    (hstream : editor.isStreaming = false) (hclose : editor.settings.autoClose = true)
    (hc : isTerminator c = false) (hbracket : isClosingBracket c = false)
    (haction : CharPair.action editor.settings.pairs editor.currentLine editor.cursor.column c =
      .autoClose closer)
    (hne : closer ≠ c) (hcloser : isTerminator closer = false) {typing : Operation}
    (htyping : typing.typed? = some c) {deleting : KeyEvent}
    (hdeleting : deleting.key = .backspace) :
    let here := editor.cut
    let typed := (editor.perform typing).2
    let after := (editor.performAll [typing, .key deleting]).2
    typed.At ⟨here.above, here.before ++ [c], closer :: here.behind, here.below⟩ ∧
      after.buffer = editor.buffer ∧ after.cursor = editor.cursor := by
  intro here typed after
  have htyped : typed = editor.insertChar c := perform_of_typed? hmode htyping
  have hsettings : typed.settings = editor.settings := by
    rw [htyped]
    exact (settles_insertChar editor c).settings_eq
  have hmode' : typed.mode = .editing := by
    rw [htyped]
    exact (congrArg (·.1) (editor.stance_insertChar c)).trans hmode
  have hafter : after = typed.backspace := perform_backspace hmode' hdeleting
  obtain ⟨hthere, hloaded, hhighlighter⟩ := insertChar_closed h.at_cut (unfinished?_eq_none hstream)
    hclose hc hbracket hcloser haction
  rw [← htyped] at hthere hloaded hhighlighter
  -- the pair that has closed the character is found again
  have hpair : (c, closer) ∈ typed.settings.pairs := by
    rw [hsettings]
    exact CharPair.mem_of_action hne haction
  obtain ⟨hback, hhighlighter'⟩ := backspace_enclosed hthere hloaded (Ne.symm hne) hpair
  rw [← hafter] at hback hhighlighter'
  have hsound : after.Sound origin := by
    rw [hafter, htyped]
    exact (h.insertChar c).backspace
  have hsettings' : after.settings = editor.settings := by
    rw [hafter, (settles_backspace typed).settings_eq, hsettings]
  exact ⟨hthere, hsound.buffer.ext h.buffer (hback.lines.trans h.at_cut.lines.symm)
    (hhighlighter'.trans hhighlighter), h.at_cut.cursor_eq hback h hsound hsettings'⟩

/-- A mark that combines with the letter before the cursor is closed by a bracket, between the
letter and another mark; the first of two pairs decides. Deleting takes the mark and the bracket off
again, but not the letter. -/
theorem backspace_takes_back_mark :
    let settings : Settings := { Settings.usual with
      pairs := [('"', '"'), ('\u0301', '»'), ('\u0301', 'z')] }
    let earlier : List Operation := [.loadText "xe\u0302y\nb".toList, .goto 1 (some 2)]
    let editor := ((new settings).performAll earlier).2
    let typing : Operation := .key (.plain (.char '\u0301'))
    let typed := (editor.perform typing).2
    let after := (editor.performAll [typing, .key (.plain .backspace)]).2
    editor.cursor.column = 2 ∧ typed.buffer.lines = ["xe\u0301»\u0302y".toList, ['b']] ∧
      after.buffer = editor.buffer ∧ after.cursor = editor.cursor := by
  intro settings earlier editor typing typed after
  have hmode : editor.mode = .editing := by decide +kernel
  have hstream : editor.isStreaming = false := by decide +kernel
  have hclose : editor.settings.autoClose = true := by decide +kernel
  have hcolumn : editor.cursor.column = 2 := by decide +kernel
  have haction : CharPair.action editor.settings.pairs editor.currentLine editor.cursor.column
      '\u0301' = .autoClose '»' := by decide +kernel
  have hcut : editor.cut = ⟨[], ['x', 'e'], ['\u0302', 'y'], [['b']]⟩ := by decide +kernel
  -- nothing more is computed from here on
  clear_value settings earlier
  obtain ⟨htyped, hbuffer, hcursor⟩ := backspace_takes_back ((sound_new _).performAll earlier) hmode
    hstream hclose (by decide) (by decide) haction (by decide) (by decide)
    (show typing.typed? = some '\u0301' from rfl)
    (show (KeyEvent.plain .backspace).key = _ from rfl)
  rw [hcut] at htyped
  exact ⟨hcolumn, htyped.lines, hbuffer, hcursor⟩

end Editor

end TextEditor
