import TextEditor.Proofs.Editor.Outline
import TextEditor.Proofs.Editor.Sound

/-!
# Leaving the document alone

Most of what is done with an editor changes no line of its document: moving the cursor, saving,
choosing a language, and whatever is typed at a prompt. Such an operation does nothing to the
document but read lines of its stream into the buffer, and it does not mark the document as changed.

Main statements: `Untouched.lines_kept`, `Untouched.holding_eq` and `Untouched.document_eq` say
what that means for the buffer, for a document without a stream, and for the document with the lines
that are still to be read; one lemma for each move, command and key at a prompt.
-/

namespace TextEditor

namespace Editor

variable {editor before after : Editor}

/-- What an editor has of its document: the loaded lines, the stream, and whether the document has
been changed. -/
def holding (editor : Editor) : List Text × Option Loader × Bool :=
  (editor.buffer.lines, editor.loader, editor.dirty)

/-- An operation has left the document alone: what the editor has of it has only been changed by
reading the stream, until this is let go of for want of lines. -/
inductive Untouched (editor : Editor) : Editor → Prop where
  | same {after : Editor} (h : after.holding = editor.holding) : Untouched editor after
  | read {before after : Editor} {loader : Loader} {n : Nat} (h : Untouched editor before)
      (hloader : before.unfinished? = some loader)
      (hafter : after.holding = (before.absorb (loader.appendMore before.buffer n)).holding) :
      Untouched editor after
  | ended {before after : Editor} {loader : Loader} {n : Nat} (h : Untouched editor before)
      (hn : 1 ≤ n) (hloader : before.unfinished? = some loader)
      (hnone : (loader.appendMore before.buffer n).result = .ok 0)
      (hafter : after.holding = { before.absorb (loader.appendMore before.buffer n) with
        loader := some (loader.appendMore before.buffer n).loader.close }.holding) :
      Untouched editor after

namespace Untouched

/-- To do nothing leaves the document alone. -/
theorem refl (editor : Editor) : Untouched editor editor := .same rfl

/-- What leaves it alone twice leaves it alone. -/
theorem trans (h : Untouched editor before) (hafter : Untouched before after) :
    Untouched editor after := by
  induction hafter with
  | same hsame =>
      cases h with
      | same h => exact .same (hsame.trans h)
      | read h hloader hread => exact .read h hloader (hsame.trans hread)
      | ended h hn hloader hnone hended => exact .ended h hn hloader hnone (hsame.trans hended)
  | read _ hloader hread ih => exact .read ih hloader hread
  | ended _ hn hloader hnone hended ih => exact .ended ih hn hloader hnone hended

/-- What comes before an operation may change anything else. -/
theorem of_before (h : Untouched before after) (hbefore : before.holding = editor.holding) :
    Untouched editor after := (Untouched.same hbefore).trans h

/-! ## What it means -/

/-- Reading does not mark the document as changed. -/
theorem dirty_eq (h : Untouched editor after) : after.dirty = editor.dirty := by
  induction h with
  | same h => exact congrArg (·.2.2) h
  | read _ _ hread ih => exact (congrArg (·.2.2) hread).trans ih
  | ended _ _ _ _ hended ih => exact (congrArg (·.2.2) hended).trans ih

/-- The lines that were loaded before still begin the buffer. -/
theorem lines_kept (h : Untouched editor after) : editor.buffer.lines <+: after.buffer.lines := by
  have hread (before : Editor) (loader : Loader) (n : Nat) :
      before.buffer.lines <+: (loader.appendMore before.buffer n).buffer.lines := by
    rcases loader.buffer_appendMore before.buffer n with hsame | ⟨texts, hmore⟩
    · exact ⟨[], (List.append_nil _).trans (congrArg LineBuffer.lines hsame).symm⟩
    · rw [hmore, LineBuffer.lines_appendLines]
      exact List.prefix_append _ _
  induction h with
  | @same after h =>
      have hlines : after.buffer.lines = editor.buffer.lines := congrArg (·.1) h
      exact ⟨[], (List.append_nil _).trans hlines.symm⟩
  | @read before after loader n _ _ hafter ih =>
      have hlines : after.buffer.lines = (loader.appendMore before.buffer n).buffer.lines :=
        congrArg (·.1) hafter
      rw [hlines]
      exact ih.trans (hread before loader n)
  | @ended before after loader n _ _ _ _ hafter ih =>
      have hlines : after.buffer.lines = (loader.appendMore before.buffer n).buffer.lines :=
        congrArg (·.1) hafter
      rw [hlines]
      exact ih.trans (hread before loader n)

/-- Without a stream that goes on nothing can be read. -/
theorem holding_eq (h : Untouched editor after) (hnone : editor.unfinished? = none) :
    after.holding = editor.holding := by
  have hstuck {before : Editor} (hsame : before.holding = editor.holding) :
      before.unfinished? = none := by
    have hloader : before.loader = editor.loader := congrArg (·.2.1) hsame
    rw [unfinished?, hloader]
    exact hnone
  induction h with
  | same h => exact h
  | read _ hloader _ ih =>
      rw [hstuck ih] at hloader
      cases hloader
  | ended _ _ hloader _ _ ih =>
      rw [hstuck ih] at hloader
      cases hloader

end Untouched

/-- The stream of an editor, if it has one, can be read to its end. -/
def Readable (editor : Editor) : Prop := ∀ loader, editor.loader = some loader → loader.Unfailing

/-- The document is found in what an editor has of it. -/
theorem document_eq_of_holding (h : after.holding = before.holding) :
    after.document = before.document := by
  have hlines : after.buffer.lines = before.buffer.lines := congrArg (·.1) h
  have hloader : after.loader = before.loader := congrArg (·.2.1) h
  rw [document, document, unread, unread, hlines, hloader]

/-- Whether the rest of a document can be read is found in what an editor has of it. -/
theorem Readable.of_holding (h : before.Readable) (hsame : after.holding = before.holding) :
    after.Readable := by
  have hloader : after.loader = before.loader := congrArg (·.2.1) hsame
  intro loader hkept
  exact h loader (hloader ▸ hkept)

/-- What can be read can still be read after some of it has been. -/
theorem Readable.absorb {loader : Loader} (h : editor.Readable)
    (hkept : editor.loader = some loader) (n : Nat) :
    (editor.absorb (loader.appendMore editor.buffer n)).Readable := by
  intro next hnext
  rw [← Option.some.inj hnext]
  exact ((h loader hkept).advances_appendMore editor.buffer n).unfailing

/-- A stream that is let go of has nothing to come. -/
theorem unread_of_closed {loader : Loader} (h : editor.loader = some loader.close) :
    editor.unread = [] := by
  rw [unread_of_loader h, Loader.unread_of_isFinished rfl]
  rfl

/-- Reading takes the lines from those that are still to be read. -/
theorem Untouched.document_eq (h : Untouched editor after) (hreadable : editor.Readable) :
    after.document = editor.document ∧ after.Readable := by
  induction h with
  | same h => exact ⟨document_eq_of_holding h, hreadable.of_holding h⟩
  | read _ hloader hread ih =>
      obtain ⟨hdocument, hbefore⟩ := ih
      have hkept := (loader_of_unfinished? hloader).1
      rw [document_eq_of_holding hread, document_absorb (hbefore _ hkept) hkept]
      exact ⟨hdocument, (hbefore.absorb hkept _).of_holding hread⟩
  | @ended before after loader n _ hn hloader hnone hended ih =>
      obtain ⟨hdocument, hbefore⟩ := ih
      have hkept := (loader_of_unfinished? hloader).1
      have hunfailing := hbefore _ hkept
      have hnil := hunfailing.unread_eq_nil hn hnone
      obtain ⟨hlines, -⟩ := lines_absorb hunfailing before n
      constructor
      · rw [document_eq_of_holding hended, document, unread_of_closed rfl, List.append_nil,
          ← hdocument, document, unread_of_loader hkept, hnil]
        rw [hnil, List.take_nil] at hlines
        exact hlines
      · refine Readable.of_holding (fun next hnext => ?_) hended
        rw [← Option.some.inj hnext]
        intro source hsource
        cases hsource

/-! ## Reading and moving -/

/-- Reading towards a line leaves the document alone. -/
theorem untouched_ensureLoaded (editor : Editor) (line : Nat) :
    Untouched editor (editor.ensureLoaded line) := by
  refine ensureLoaded_induction (P := fun after => Untouched editor after) ?_ (.refl editor) line
  intro after loader hloader h n
  exact .read h hloader rfl

/-- Reading to the end leaves the document alone, whether it succeeds or not. -/
theorem untouched_finishLoading (editor : Editor) : Untouched editor editor.finishLoading.2 := by
  refine finishLoading_induction (P := fun after => Untouched editor after) ?_ ?_ (.refl editor)
  · intro after loader hloader h n
    exact .read h hloader rfl
  · intro after loader n hn hloader hnone h
    exact .ended h hn hloader hnone rfl

/-- To move the cursor is to read towards its line. -/
theorem untouched_moveCursor (editor : Editor) (line column : Nat) :
    Untouched editor (editor.moveCursor line column) :=
  (untouched_ensureLoaded editor line).trans (.same rfl)

/-- A jump leaves the document alone. -/
theorem untouched_jumpTo (editor : Editor) (line column : Nat) :
    Untouched editor (editor.jumpTo line column) :=
  (untouched_moveCursor { editor with goalColumn := none } line column).of_before rfl

/-- A move to the left leaves the document alone. -/
theorem untouched_moveLeft (editor : Editor) : Untouched editor editor.moveLeft := by
  unfold moveLeft
  simp only
  split
  · exact untouched_jumpTo ..
  · split
    · exact untouched_jumpTo ..
    · exact .same rfl

/-- A move to the right leaves the document alone. -/
theorem untouched_moveRight (editor : Editor) : Untouched editor editor.moveRight := by
  unfold moveRight
  simp only
  split
  · exact untouched_jumpTo ..
  · split
    · exact untouched_jumpTo ..
    · exact .same rfl

/-- A vertical move leaves the document alone. -/
theorem untouched_moveVertically (editor : Editor) (line : Nat) :
    Untouched editor (editor.moveVertically line) := by
  have hloaded :
      Untouched editor ({ editor with goalColumn := some editor.aim }.ensureLoaded line) :=
    (untouched_ensureLoaded _ line).of_before rfl
  exact hloaded.trans (untouched_moveCursor ..)

/-- A move up leaves the document alone. -/
theorem untouched_moveUp (editor : Editor) : Untouched editor editor.moveUp := by
  unfold moveUp
  split
  · exact untouched_moveVertically editor _
  · exact .refl editor

/-- A move down leaves the document alone, though it may read on twice. -/
theorem untouched_moveDown (editor : Editor) : Untouched editor editor.moveDown := by
  have hloaded := untouched_ensureLoaded editor (editor.cursor.line + 1)
  unfold moveDown
  simp only
  split
  · exact hloaded.trans (untouched_moveVertically ..)
  · exact hloaded

/-! ## The document as a whole -/

/-- Another grammar changes the tokens of the lines, but no line. -/
theorem holding_selectGrammar (editor : Editor) (language : Language) :
    (editor.selectGrammar language).holding = editor.holding := by
  unfold selectGrammar
  split
  · rfl
  · rfl

/-- Another file name may select a grammar, but changes no line. -/
theorem holding_setFileName (editor : Editor) (path : Text) :
    (editor.setFileName path).holding = editor.holding :=
  holding_selectGrammar editor (.ofPath path)

/-- A grammar that is asked for by its name leaves the document alone. -/
theorem untouched_selectGrammarById (editor : Editor) (id : Text) :
    Untouched editor (editor.selectGrammarById id).2 := by
  unfold selectGrammarById
  split
  · exact .same (holding_selectGrammar editor _)
  · exact .refl editor

/-- Diagnostics leave the document alone. -/
theorem untouched_setDiagnostics (editor : Editor) (diagnostics : List Diagnostic) :
    Untouched editor (editor.setDiagnostics diagnostics) := by
  unfold setDiagnostics
  simp only
  split
  · exact (untouched_jumpTo { editor with diagnostics := diagnostics } _ _).of_before rfl
  · exact .same rfl

/-! ## Commands -/

/-- To save reads to the end, and takes the document as changed until the host has written it. -/
theorem untouched_requestSave (editor : Editor) (quitAfter : Bool) :
    Untouched editor (editor.requestSave quitAfter).2 := by
  have hloaded := untouched_finishLoading editor
  unfold requestSave
  split
  · exact .refl editor
  · split
    · next heq =>
        rw [heq] at hloaded
        exact hloaded
    · next heq =>
        rw [heq] at hloaded
        exact hloaded

/-- To go to a line leaves the document alone. -/
theorem untouched_goto (editor : Editor) (line : Nat) (column : Option Nat) :
    Untouched editor (editor.goto line column) := by
  unfold goto
  simp only
  split
  · exact (untouched_ensureLoaded editor _).trans (untouched_jumpTo ..)
  · exact untouched_jumpTo ..

/-- A formatter that fails leaves the document alone, and so does one that is not reached because
the stream fails. -/
theorem untouched_formatWith (editor : Editor) {formatter : Formatter}
    (h : (editor.formatWith formatter).1 = false) :
    Untouched editor (editor.formatWith formatter).2 := by
  have hloaded := untouched_finishLoading editor
  unfold formatWith at h ⊢
  split
  · next heq =>
      rw [heq] at hloaded
      exact hloaded
  · next loaded heq =>
      rw [heq] at hloaded h
      simp only at h ⊢
      split
      · next hresult =>
          rw [hresult] at h
          cases h
      · exact hloaded.trans (.same rfl)

/-- Of all commands only `format` may change the document. -/
theorem untouched_execute (editor : Editor) {command : Command} (h : command ≠ .format) :
    Untouched editor (editor.execute command).2 := by
  cases command with
  | quit =>
      simp only [execute]
      split
      · exact .same rfl
      · exact .refl editor
  | save path =>
      cases path with
      | some path =>
          have hsaved := untouched_requestSave (editor.setFileName path) false
          exact hsaved.of_before (holding_setFileName editor path)
      | none =>
          simp only [execute]
          split
          · exact (untouched_requestSave (editor.promptSave false) false).of_before rfl
          · exact untouched_requestSave editor false
  | goto line column => exact untouched_goto editor line column
  | setEncoding encoding => exact .same rfl
  | format => exact absurd rfl h
  | test => exact .refl editor

end Editor

/-- The command that a line writes, if it writes one. -/
def Command.ofLine? (line : Text) : Option Command :=
  match parse line with
  | .ok command => command
  | .error _ => none

namespace Editor

variable {editor : Editor}

/-- A line that writes a command carries it out, and a record is made of it. -/
theorem executeLine_of_ofLine? (editor : Editor) {line : Text} {command : Command}
    (h : Command.ofLine? line = some command) :
    editor.executeLine line =
      (editor.report .debug ("command: " ++ command.summary)).execute command := by
  unfold Command.ofLine? at h
  unfold executeLine
  split at h
  · next hparse =>
      subst h
      rw [hparse]
  · cases h

/-- A line that writes no command asks nothing of the host and at most shows an error. -/
theorem executeLine_of_ofLine?_none (editor : Editor) {line : Text}
    (h : Command.ofLine? line = none) :
    editor.executeLine line = (none, editor) ∨ ∃ message : String,
      editor.executeLine line = (none, (editor.report .debug message).setStatus message) := by
  unfold Command.ofLine? at h
  unfold executeLine
  split at h
  · next hparse =>
      subst h
      rw [hparse]
      exact .inl rfl
  · next error hparse =>
      rw [hparse]
      exact .inr ⟨error.message, rfl⟩

/-- Every line at the prompt for commands leaves the document alone, but for the command to
format. -/
theorem untouched_executeLine (editor : Editor) {line : Text}
    (h : Command.ofLine? line ≠ some .format) : Untouched editor (editor.executeLine line).2 := by
  cases hline : Command.ofLine? line with
  | none =>
      rcases executeLine_of_ofLine?_none editor hline with heq | ⟨message, heq⟩
      · rw [heq]
        exact .refl editor
      · rw [heq]
        exact .same rfl
  | some command =>
      rw [hline] at h
      rw [executeLine_of_ofLine? editor hline]
      exact (untouched_execute _ fun hformat => h (congrArg some hformat)).of_before rfl

/-- The command that an operation carries out, if it carries one out: that of a command line, or
that of the line typed at the prompt for commands. -/
def command? (editor : Editor) : Operation → Option Command
  | .executeLine line => Command.ofLine? line
  | .key event =>
      if editor.mode = .command ∧ event.key = .enter then Command.ofLine? editor.input else none
  | _ => none

/-- An operation carries out its command on the editor as it is, but for what is typed at the
prompt, the records and, once the prompt is closed, the mode. -/
theorem perform_of_command? {operation : Operation} {command : Command}
    (h : editor.command? operation = some command) :
    ∃ mode input journal, (mode = editor.mode ∨ mode = .editing) ∧
      let running := { editor with mode := mode, input := input, journal := journal }
      editor.perform operation =
        (.ofRequest? (running.execute command).1, (running.execute command).2) := by
  cases operation with
  | executeLine line =>
      refine ⟨editor.mode, editor.input, editor.journal ++
        [⟨.debug, "editor", "command: " ++ command.summary⟩], .inl rfl, ?_⟩
      rw [perform, executeLine_of_ofLine? editor h]
      rfl
  | key event =>
      simp only [command?] at h
      split at h
      · next hkey =>
          refine ⟨.editing, [], editor.journal ++
            [⟨.debug, "editor", "command: " ++ command.summary⟩], .inr rfl, ?_⟩
          rw [perform, handleKey, hkey.1]
          simp only [commandKey, hkey.2, executeLine_of_ofLine? _ h]
          rfl
      · cases h
  | _ => cases h

/-! ## Keys at a prompt -/

/-- To go to a result leaves the document alone. -/
theorem untouched_gotoResult (editor : Editor) : Untouched editor editor.gotoResult := by
  unfold gotoResult
  split
  · exact .refl editor
  · exact untouched_jumpTo ..

/-- Every key of a search leaves the document alone. -/
theorem untouched_findKey (editor : Editor) (event : KeyEvent) :
    Untouched editor (editor.findKey event) := by
  have hsearch (search : LineSearch) :
      Untouched editor { editor with search := search }.gotoResult :=
    (untouched_gotoResult _).of_before rfl
  unfold findKey
  split
  · exact .same rfl
  · exact .same rfl
  · exact hsearch _
  · exact hsearch _
  · exact hsearch _
  · exact hsearch _
  · exact hsearch _
  · split
    · exact hsearch _
    · exact .refl editor

/-- Text that is written at a prompt is no part of the document. -/
theorem untouched_promptKey (editor : Editor) (event : KeyEvent) :
    Untouched editor (editor.promptKey event) := by
  unfold promptKey
  split
  · exact .same rfl
  · exact .same rfl

/-- Every key at the prompt for commands leaves the document alone, unless it gives the command to
format. -/
theorem untouched_commandKey (editor : Editor) {event : KeyEvent}
    (h : event.key = .enter → Command.ofLine? editor.input ≠ some .format) :
    Untouched editor (editor.commandKey event).2 := by
  unfold commandKey
  split
  · exact .same rfl
  · next hkey => exact (untouched_executeLine _ (h hkey)).of_before rfl
  · exact untouched_promptKey editor event

/-- Every key at the prompt for a file name leaves the document alone. -/
theorem untouched_savePromptKey (editor : Editor) (event : KeyEvent) :
    Untouched editor (editor.savePromptKey event).2 := by
  unfold savePromptKey
  split
  · exact .same rfl
  · simp only
    split
    · exact .same rfl
    · exact (untouched_requestSave _ _).of_before (holding_setFileName _ _)
  · exact untouched_promptKey editor event

/-- Every key that answers the question before quitting leaves the document alone. -/
theorem untouched_quitPromptKey (editor : Editor) (event : KeyEvent) :
    Untouched editor (editor.quitPromptKey event).2 := by
  unfold quitPromptKey
  simp only
  split
  · exact .same rfl
  · split
    · exact (untouched_requestSave _ true).of_before rfl
    · exact .same rfl

/-- Of all keys at a prompt only the one that gives the command `format` may change the document. -/
theorem untouched_handleKey {event : KeyEvent} (hmode : editor.mode ≠ .editing)
    (hformat : editor.command? (.key event) ≠ some .format) :
    Untouched editor (editor.handleKey event).2 := by
  unfold handleKey
  split
  · next heq => exact absurd heq hmode
  · next heq =>
      apply untouched_commandKey
      intro hkey
      rwa [command?, if_pos ⟨heq, hkey⟩] at hformat
  · exact untouched_findKey editor event
  · exact untouched_savePromptKey editor event
  · exact untouched_quitPromptKey editor event

end Editor

end TextEditor
