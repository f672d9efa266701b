import TextEditor.Proofs.Editor.Settling
import TextEditor.Proofs.Editor.Untouched

/-!
# Keys at a prompt

While a command, the query of a search, a file name or an answer is typed, no key edits the
document: the keys that carry something out read lines of the stream at most. The one exception is
the command to format. Nor does the cursor move, unless to what is searched for or where a command
tells it to go.

Main statements: `stays_handleKey` for the cursor, and `handleKey_at_prompt`.
-/

namespace TextEditor.Editor

variable {editor : Editor}

/-- A line that is neither a command to go to a line nor one to format leaves cursor, window and
settings. -/
theorem stays_executeLine (editor : Editor) {line : Text}
    (hgoto : ∀ target column, Command.ofLine? line ≠ some (.goto target column))
    (hformat : Command.ofLine? line ≠ some .format) : Stays editor (editor.executeLine line).2 := by
  cases hline : Command.ofLine? line with
  | none =>
      rcases executeLine_of_ofLine?_none editor hline with heq | ⟨message, heq⟩
      · rw [heq]
        exact .refl editor
      · rw [heq]
        exact ⟨rfl, rfl⟩
  | some command =>
      rw [hline] at hgoto hformat
      rw [executeLine_of_ofLine? editor hline]
      have hrun := stays_execute (editor.report .debug ("command: " ++ command.summary))
        (fun target column heq => hgoto target column (congrArg some heq))
        (fun heq => hformat (congrArg some heq))
      exact hrun.of_before ⟨rfl, rfl⟩

/-- A key at the prompt for commands leaves cursor, window and settings, unless it gives a command
to go to a line or to format. -/
theorem stays_commandKey (editor : Editor) {event : KeyEvent}
    (hgoto : ∀ line column, event.key = .enter →
      Command.ofLine? editor.input ≠ some (.goto line column))
    (hformat : event.key = .enter → Command.ofLine? editor.input ≠ some .format) :
    Stays editor (editor.commandKey event).2 := by
  unfold commandKey
  split
  · exact ⟨rfl, rfl⟩
  · next hkey =>
      have hrun := stays_executeLine { editor with mode := .editing, input := [] }
        (fun line column => hgoto line column hkey) (hformat hkey)
      exact hrun.of_before ⟨rfl, rfl⟩
  · exact stays_promptKey editor event

/-- A key at a prompt other than that for a search leaves the cursor where it is, unless it gives
the command `goto` or `format`. -/
theorem stays_handleKey {event : KeyEvent} (hmode : editor.mode ≠ .editing)
    (hfind : editor.mode ≠ .find)
    (hgoto : ∀ line column, editor.command? (.key event) ≠ some (.goto line column))
    (hformat : editor.command? (.key event) ≠ some .format) :
    Stays editor (editor.handleKey event).2 := by
  unfold handleKey
  split
  · next heq => exact absurd heq hmode
  · next heq =>
      have hcommand (hkey : event.key = .enter) :
          editor.command? (.key event) = Command.ofLine? editor.input := if_pos ⟨heq, hkey⟩
      apply stays_commandKey
      · intro line column hkey
        exact hcommand hkey ▸ hgoto line column
      · intro hkey
        exact hcommand hkey ▸ hformat
  · next heq => exact absurd heq hfind
  · exact stays_savePromptKey editor event
  · exact stays_quitPromptKey editor event

/-- A key at a prompt, unless it gives the command `format`, edits nothing, in whatever state the
editor is: the loaded lines are still there at the beginning of the buffer, they are all of it if no
more are to be read, and the document is marked as changed just when it was. The cursor moves only
while searching or by the command `goto`. -/
theorem handleKey_at_prompt {event : KeyEvent} (hmode : editor.mode ≠ .editing)
    (hformat : editor.command? (.key event) ≠ some .format) :
    let after := (editor.handleKey event).2
    editor.buffer.lines <+: after.buffer.lines ∧
      (editor.isStreaming = false → after.buffer.lines = editor.buffer.lines) ∧
      after.dirty = editor.dirty ∧
      (after.cursor ≠ editor.cursor → editor.mode = .find ∨
        ∃ line column, editor.command? (.key event) = some (.goto line column)) := by
  intro after
  have huntouched := untouched_handleKey hmode hformat
  refine ⟨huntouched.lines_kept, fun hstreaming => ?_, huntouched.dirty_eq, fun hmoved => ?_⟩
  · have hnone : editor.unfinished? = none := by
      simpa only [isStreaming, Option.isSome_eq_false_iff, Option.isNone_iff_eq_none] using
        hstreaming
    exact congrArg (·.1) (huntouched.holding_eq hnone)
  · refine Decidable.or_iff_not_imp_left.2 fun hfind => Classical.byContradiction fun hnone => ?_
    have hgoto (line : Nat) (column : Option Nat) :
        editor.command? (.key event) ≠ some (.goto line column) :=
      fun heq => hnone ⟨line, column, heq⟩
    exact hmoved (stays_handleKey hmode hfind hgoto hformat).cursor

/-- The second line of a stream is gone to before it has been read. -/
theorem handleKey_at_prompt_goto :
    let source := LineSource.scripted [.ok ⟨["a".toList], false⟩, .ok ⟨["b".toList], true⟩]
    let typed := "goto 2".toList.map fun c => Operation.key (.plain (.char c))
    let operations := [.openStream source, .key { key := .char 'e', ctrl := true }] ++ typed
    let editor := ((new (Settings.usual.withChunks 1 0)).performAll operations).2
    let after := (editor.handleKey (.plain .enter)).2
    editor.mode = .command ∧ editor.buffer.lines = ["a".toList] ∧
      after.buffer.lines = ["a".toList, "b".toList] ∧ after.cursor.line = 1 ∧
      after.dirty = editor.dirty ∧
      ∃ line column, editor.command? (.key (.plain .enter)) = some (.goto line column) := by
  intro source typed operations editor after
  have hmode : editor.mode = .command := by decide +kernel
  have hformat : editor.command? (.key (.plain .enter)) ≠ some .format := by decide +kernel
  have hlines : editor.buffer.lines = ["a".toList] := by decide +kernel
  have hread : after.buffer.lines = ["a".toList, "b".toList] := by decide +kernel
  have hline : after.cursor.line = 1 := by decide +kernel
  have hmoved : after.cursor ≠ editor.cursor := by decide +kernel
  -- nothing more is computed from here on
  clear_value operations
  have hediting : editor.mode ≠ .editing := by simp only [hmode, ne_eq, reduceCtorEq, not_false_iff]
  have hfind : editor.mode ≠ .find := by simp only [hmode, ne_eq, reduceCtorEq, not_false_iff]
  obtain ⟨-, -, hdirty, hcursor⟩ := handleKey_at_prompt hediting hformat
  exact ⟨hmode, hlines, hread, hline, hdirty, (hcursor hmoved).resolve_left hfind⟩

end TextEditor.Editor
