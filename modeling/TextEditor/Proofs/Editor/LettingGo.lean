import TextEditor.Proofs.Editor.Dirty
import TextEditor.Proofs.Editor.Vertical

/-!
# The column that vertical moves let go of

A vertical move remembers the column that it aims at. Whatever else moves the cursor or changes a
loaded line lets go of that column, so that the next vertical move aims at the cursor's own. There
is one exception: where a document is reformatted, the cursor may go with the text under it, and the
column from before is still aimed at.

Main statements: one lemma for each operation, from them `releases_perform`, then
`goalColumn_perform_of_formatter?` for the exception, `fresh_performAll_iff` for operations that
leave cursor and loaded lines alone, and `aims_at_cursor_iff` for all of them together.
-/

namespace TextEditor.Editor

variable {editor before after : Editor} {origin : Option LineSource} {operation : Operation}

/-- An operation has let go of the column aimed at, or has left it as it was together with the
cursor and the loaded lines. -/
inductive Releases (editor : Editor) : Editor → Prop where
  | drops {after : Editor} (h : after.goalColumn = none) : Releases editor after
  | rests {after : Editor} (h : Rests editor after) : Releases editor after

/-- To do nothing leaves the column aimed at together with the cursor. -/
theorem Releases.refl (editor : Editor) : Releases editor editor := .rests (.refl editor)

/-- What comes before an operation may change anything but the column aimed at, the cursor and the
loaded lines. -/
theorem Releases.of_before (h : Releases before after) (hbefore : Rests editor before) :
    Releases editor after := by
  cases h with
  | drops h => exact .drops h
  | rests h => exact .rests (hbefore.trans h)

/-! ## Reading lines and placing the cursor -/

/-- Reading to the end only adds lines. -/
theorem rests_finishLoading (editor : Editor) : Rests editor editor.finishLoading.2 := by
  refine ⟨?_, editor.stays_finishLoading.cursor, editor.untouched_finishLoading.lines_kept⟩
  refine finishLoading_induction (P := fun after => after.goalColumn = editor.goalColumn) ?_ ?_ rfl
  · intro _ _ _ h _
    exact h
  · intro _ _ _ _ _ _ h
    exact h

/-- Placing the cursor does not let go of the column by itself. -/
theorem goalColumn_moveCursor (editor : Editor) (line column : Nat) :
    (editor.moveCursor line column).goalColumn = editor.goalColumn :=
  (rests_ensureLoaded editor line).goalColumn

/-- A jump lets go of the column aimed at. -/
theorem goalColumn_jumpTo (editor : Editor) (line column : Nat) :
    (editor.jumpTo line column).goalColumn = none := goalColumn_moveCursor ..

/-- A jump lets go of it, whatever was done before the jump. -/
theorem releases_jumpTo (editor before : Editor) (line column : Nat) :
    Releases editor (before.jumpTo line column) := .drops (goalColumn_jumpTo ..)

/-- What follows on every edit is a jump. -/
theorem releases_afterEdit (editor : Editor) (buffer : LineBuffer) (line column : Nat) :
    Releases editor (editor.afterEdit buffer line column) := .drops (goalColumn_jumpTo ..)

/-! ## Typing -/

/-- To insert a text lets go of the column aimed at, unless the text is empty. -/
theorem releases_insertText (editor : Editor) (text : Text) :
    Releases editor (editor.insertText text) := by
  unfold insertText
  split
  · exact .refl editor
  · exact releases_afterEdit ..

/-- To split a line lets go of the column aimed at. -/
theorem goalColumn_splitLine (editor : Editor) : editor.splitLine.goalColumn = none := by
  unfold splitLine
  simp only
  split
  · exact goalColumn_jumpTo ..
  · exact goalColumn_jumpTo ..

/-- A character that is put in lets go of the column aimed at. -/
theorem goalColumn_typeAt (editor : Editor) (column : Nat) (c : Char) :
    (editor.typeAt column c).goalColumn = none := by
  rcases editor.typeAt_cases column c with ⟨text, -, heq⟩ | heq
  · rw [heq]
    exact goalColumn_jumpTo ..
  · rw [heq]
    exact goalColumn_jumpTo ..

/-- A character that is typed lets go of it also if the cursor only steps over what stands there. -/
theorem goalColumn_insertChar (editor : Editor) (c : Char) :
    (editor.insertChar c).goalColumn = none := by
  unfold insertChar
  split
  · exact goalColumn_splitLine editor
  · split
    · exact goalColumn_typeAt ..
    · exact goalColumn_typeAt ..

/-- To delete backwards lets go of the column aimed at, unless nothing is there to delete. -/
theorem releases_backspace (editor : Editor) : Releases editor editor.backspace := by
  unfold backspace
  simp only
  split
  · split
    · exact .refl editor
    · split
      · exact releases_afterEdit ..
      · exact .refl editor
  · split
    · exact releases_afterEdit ..
    · exact releases_afterEdit ..

/-- To delete forwards lets go of the column aimed at, unless nothing is there to delete. -/
theorem releases_deleteForward (editor : Editor) : Releases editor editor.deleteForward := by
  unfold deleteForward
  simp only
  split
  · exact releases_afterEdit ..
  · split
    · exact releases_afterEdit ..
    · exact .refl editor

/-! ## Moving -/

/-- A move to the left lets go of the column aimed at, even at the start of the document. -/
theorem goalColumn_moveLeft (editor : Editor) : editor.moveLeft.goalColumn = none := by
  unfold moveLeft
  simp only
  split
  · exact goalColumn_jumpTo ..
  · split
    · exact goalColumn_jumpTo ..
    · rfl

/-- A move to the right lets go of the column aimed at, even at the end of what is loaded. -/
theorem goalColumn_moveRight (editor : Editor) : editor.moveRight.goalColumn = none := by
  unfold moveRight
  simp only
  split
  · exact goalColumn_jumpTo ..
  · split
    · exact goalColumn_jumpTo ..
    · rfl

/-! ## The document as a whole -/

/-- Another grammar changes neither the cursor nor a line. -/
theorem rests_selectGrammar (editor : Editor) (language : Language) :
    Rests editor (editor.selectGrammar language) := by
  unfold selectGrammar
  split
  · exact .refl editor
  · exact ⟨rfl, rfl, List.prefix_rfl⟩

/-- A grammar asked for by its name, whether there is one or not, changes neither the cursor nor a
line. -/
theorem rests_selectGrammarById (editor : Editor) (id : Text) :
    Rests editor (editor.selectGrammarById id).2 := by
  unfold selectGrammarById
  split
  · exact rests_selectGrammar editor _
  · exact .refl editor

/-- Another file name may select a grammar, but changes neither the cursor nor a line. -/
theorem rests_setFileName (editor : Editor) (path : Text) :
    Rests editor (editor.setFileName path) := by
  obtain ⟨hgoal, hcursor, hlines⟩ := rests_selectGrammar editor (.ofPath path)
  exact ⟨hgoal, hcursor, hlines⟩

/-- A stream that is opened starts with no column aimed at, and one that cannot be opened leaves
it. -/
theorem releases_openStream (editor : Editor) (source : LineSource) :
    Releases editor (editor.openStream source).2 := by
  unfold openStream
  simp only
  split
  · exact releases_jumpTo ..
  · exact .rests ⟨rfl, rfl, List.prefix_rfl⟩

/-- Diagnostics let go of the column aimed at if the cursor goes to one, and otherwise leave it. -/
theorem releases_setDiagnostics (editor : Editor) (diagnostics : List Diagnostic) :
    Releases editor (editor.setDiagnostics diagnostics) := by
  unfold setDiagnostics
  simp only
  split
  · exact releases_jumpTo ..
  · exact .rests ⟨rfl, rfl, List.prefix_rfl⟩

/-! ## Commands -/

/-- Saving only reads on. -/
theorem rests_requestSave (editor : Editor) (quitAfter : Bool) :
    Rests editor (editor.requestSave quitAfter).2 := by
  have hloaded := rests_finishLoading editor
  unfold requestSave
  split
  · exact .refl editor
  · split
    · next heq =>
        rw [heq] at hloaded
        exact hloaded
    · next heq =>
        rw [heq] at hloaded
        exact hloaded

/-- Of all commands only `format` may keep a column that the cursor has been moved away from. -/
theorem releases_execute (editor : Editor) {command : Command} (h : command ≠ .format) :
    Releases editor (editor.execute command).2 := by
  cases command with
  | quit =>
      simp only [execute]
      split
      · exact .rests ⟨rfl, rfl, List.prefix_rfl⟩
      · exact .refl editor
  | save path =>
      cases path with
      | some path =>
          exact .rests ((rests_setFileName editor path).trans (rests_requestSave _ false))
      | none =>
          simp only [execute]
          split
          · have hprompt : Rests editor (editor.promptSave false) := ⟨rfl, rfl, List.prefix_rfl⟩
            exact .rests (hprompt.trans (rests_requestSave _ false))
          · exact .rests (rests_requestSave editor false)
  | goto line column => exact releases_jumpTo ..
  | setEncoding encoding => exact .rests ⟨rfl, rfl, List.prefix_rfl⟩
  | format => exact absurd rfl h
  | test => exact .refl editor

/-- Without a formatter for the language nothing is reformatted. -/
theorem rests_format (h : editor.formatter.filter (·.supports editor.language) = none) :
    Rests editor editor.format := by
  unfold format
  split
  · next formatter hformatter =>
      split
      · next hsupports =>
          rw [hformatter] at h
          exact absurd hsupports (Option.filter_eq_none_iff.1 h formatter rfl)
      · exact ⟨rfl, rfl, List.prefix_rfl⟩
  · exact ⟨rfl, rfl, List.prefix_rfl⟩

/-- A formatter that is applied leaves the column aimed at, whatever becomes of the document. -/
theorem goalColumn_formatWith (editor : Editor) (formatter : Formatter) :
    (editor.formatWith formatter).2.goalColumn = editor.goalColumn := by
  have hloaded := (rests_finishLoading editor).goalColumn
  unfold formatWith
  split
  · next heq =>
      rw [heq] at hloaded
      exact hloaded
  · next heq =>
      rw [heq] at hloaded
      split
      · exact (goalColumn_moveCursor _ _ _).trans hloaded
      · exact hloaded

/-- The command to format leaves the column aimed at. -/
theorem goalColumn_format (editor : Editor) : editor.format.goalColumn = editor.goalColumn := by
  unfold format
  split
  · split
    · exact goalColumn_formatWith editor _
    · rfl
  · rfl

/-- A command that applies no formatter lets go of the column, or leaves the cursor where it is. -/
theorem releases_perform_of_command? {command : Command}
    (h : editor.command? operation = some command) (hformat : editor.formatter? operation = none) :
    Releases editor (editor.perform operation).2 := by
  obtain ⟨mode, input, journal, -, heq⟩ := perform_of_command? h
  obtain ⟨running, hrunning⟩ : ∃ running, running =
      { editor with mode := mode, input := input, journal := journal } := ⟨_, rfl⟩
  have hrests : Rests editor running := by
    rw [hrunning]
    exact ⟨rfl, rfl, List.prefix_rfl⟩
  rw [heq, ← hrunning]
  by_cases hcommand : command = .format
  · subst hcommand
    refine .rests (hrests.trans (rests_format ?_))
    rw [hrunning]
    cases operation with
    | formatWith formatter => cases hformat
    | _ =>
        simp only [formatter?] at hformat
        rwa [if_pos h] at hformat
  · exact (releases_execute running hcommand).of_before hrests

/-! ## Keys -/

/-- Every key but the vertical ones releases while the document is edited. -/
theorem releases_editingKey (editor : Editor) {event : KeyEvent}
    (h : event.key.verticalMove? = none) : Releases editor (editor.editingKey event) := by
  unfold editingKey
  split
  · exact .rests ⟨rfl, rfl, List.prefix_rfl⟩
  · split
    · exact .rests ⟨rfl, rfl, List.prefix_rfl⟩
    · cases hkey : event.key with
      | up | down | pageUp | pageDown =>
          rw [hkey] at h
          cases h
      | left =>
          simp only
          split
          · exact releases_jumpTo ..
          · exact .drops (goalColumn_moveLeft editor)
      | right =>
          simp only
          split
          · exact releases_jumpTo ..
          · exact .drops (goalColumn_moveRight editor)
      | home | lineEnd => exact releases_jumpTo ..
      | enter => exact .drops (goalColumn_splitLine editor)
      | backspace => exact releases_backspace editor
      | delete => exact releases_deleteForward editor
      | tab => exact releases_insertText editor _
      | escape | char c =>
          simp only
          split
          · exact .drops (goalColumn_insertChar ..)
          · exact .refl editor

/-- A key at a prompt for commands that gives none changes the prompt only. -/
theorem rests_promptKey (editor : Editor) (event : KeyEvent) :
    Rests editor (editor.promptKey event) := by
  unfold promptKey
  split
  · exact ⟨rfl, rfl, List.prefix_rfl⟩
  · exact ⟨rfl, rfl, List.prefix_rfl⟩

/-- The search goes to a result by a jump, or stays. -/
theorem releases_gotoResult (editor : Editor) : Releases editor editor.gotoResult := by
  unfold gotoResult
  split
  · exact .refl editor
  · exact releases_jumpTo ..

/-- A key of a search goes to a result or leaves the document as it is. -/
theorem releases_findKey (editor : Editor) (event : KeyEvent) :
    Releases editor (editor.findKey event) := by
  have hsearch (search : LineSearch) :
      Releases editor { editor with search := search }.gotoResult :=
    (releases_gotoResult _).of_before ⟨rfl, rfl, List.prefix_rfl⟩
  unfold findKey
  split
  · exact .rests ⟨rfl, rfl, List.prefix_rfl⟩
  · exact .rests ⟨rfl, rfl, List.prefix_rfl⟩
  · exact hsearch _
  · exact hsearch _
  · exact hsearch _
  · exact hsearch _
  · exact hsearch _
  · split
    · exact hsearch _
    · exact .refl editor

/-- A key at the prompt for a file name changes neither the cursor nor a line. -/
theorem rests_savePromptKey (editor : Editor) (event : KeyEvent) :
    Rests editor (editor.savePromptKey event).2 := by
  unfold savePromptKey
  split
  · exact ⟨rfl, rfl, List.prefix_rfl⟩
  · simp only
    split
    · exact ⟨rfl, rfl, List.prefix_rfl⟩
    · have hclosed : Rests editor
          { editor with mode := .editing, input := [], quitAfterSave := false } :=
        ⟨rfl, rfl, List.prefix_rfl⟩
      exact (hclosed.trans (rests_setFileName _ _)).trans (rests_requestSave _ _)
  · exact rests_promptKey editor event

/-- A key that answers the question before quitting changes neither the cursor nor a line. -/
theorem rests_quitPromptKey (editor : Editor) (event : KeyEvent) :
    Rests editor (editor.quitPromptKey event).2 := by
  have hclosed : Rests editor { editor with mode := .editing } := ⟨rfl, rfl, List.prefix_rfl⟩
  unfold quitPromptKey
  simp only
  split
  · exact hclosed
  · split
    · exact hclosed.trans (rests_requestSave _ true)
    · exact ⟨rfl, rfl, List.prefix_rfl⟩

/-- Every key that gives no command and asks for no vertical move releases, in any mode. -/
theorem releases_handleKey {event : KeyEvent} (hcommand : editor.command? (.key event) = none)
    (hvertical : (Operation.key event).verticalMove? editor.mode = none) :
    Releases editor (editor.handleKey event).2 := by
  unfold handleKey
  split
  · next heq =>
      rw [Operation.verticalMove?, if_pos heq] at hvertical
      exact releases_editingKey editor hvertical
  · next heq =>
      unfold commandKey
      split
      · exact .rests ⟨rfl, rfl, List.prefix_rfl⟩
      · next hkey =>
          rw [command?, if_pos ⟨heq, hkey⟩] at hcommand
          have hclosed : Rests editor { editor with mode := .editing, input := [] } :=
            ⟨rfl, rfl, List.prefix_rfl⟩
          rcases executeLine_of_ofLine?_none { editor with mode := .editing, input := [] }
            hcommand with hline | ⟨message, hline⟩
          · rw [hline]
            exact .rests hclosed
          · rw [hline]
            exact .rests (hclosed.trans ⟨rfl, rfl, List.prefix_rfl⟩)
      · exact .rests (rests_promptKey editor event)
  · exact releases_findKey editor event
  · exact .rests (rests_savePromptKey editor event)
  · exact .rests (rests_quitPromptKey editor event)

/-! ## Operations -/

/-- Whatever is no vertical move and applies no formatter lets go of the column aimed at, or leaves
the cursor and the loaded lines as they were. -/
theorem releases_perform (hvertical : operation.verticalMove? editor.mode = none)
    (hformat : editor.formatter? operation = none) :
    Releases editor (editor.perform operation).2 := by
  cases operation with
  | key event =>
      cases hcommand : editor.command? (.key event) with
      | none => exact releases_handleKey hcommand hvertical
      | some command => exact releases_perform_of_command? hcommand hformat
  | executeLine line =>
      cases hcommand : Command.ofLine? line with
      | none =>
          rcases executeLine_of_ofLine?_none editor hcommand with heq | ⟨message, heq⟩
          · rw [perform, heq]
            exact .refl editor
          · rw [perform, heq]
            exact .rests ⟨rfl, rfl, List.prefix_rfl⟩
      | some command => exact releases_perform_of_command? hcommand hformat
  | selectGrammar language => exact .rests (rests_selectGrammar editor language)
  | selectGrammarById id => exact .rests (rests_selectGrammarById editor id)
  | setFileName path => exact .rests (rests_setFileName editor path)
  | loadText text => exact releases_jumpTo ..
  | openStream source =>
      have hopen := releases_openStream editor source
      simp only [perform]
      split
      · next heq =>
          rw [heq] at hopen
          exact hopen
      · next heq =>
          rw [heq] at hopen
          exact hopen
  | finishLoading => exact .rests (rests_finishLoading editor)
  | goto line column => exact releases_jumpTo ..
  | setDiagnostics diagnostics => exact releases_setDiagnostics editor diagnostics
  | formatWith formatter => cases hformat
  | insertChar c => exact .drops (goalColumn_insertChar editor c)
  | insertText text => exact releases_insertText editor text
  | insertTab => exact releases_insertText editor ['\t']
  | backspace => exact releases_backspace editor
  | deleteForward => exact releases_deleteForward editor
  | splitLine => exact .drops (goalColumn_splitLine editor)
  | moveLeft => exact .drops (goalColumn_moveLeft editor)
  | moveRight => exact .drops (goalColumn_moveRight editor)
  | moveUp | moveDown | pageUp | pageDown => cases hvertical
  | moveHome | moveEnd | moveWordLeft | moveWordRight => exact releases_jumpTo ..
  | resize | markSaved | setStatus | clearStatus | setFormatter =>
      exact .rests ⟨rfl, rfl, List.prefix_rfl⟩

/-- Whatever applies a formatter keeps the column aimed at. -/
theorem goalColumn_perform_of_formatter? {formatter : Formatter}
    (h : editor.formatter? operation = some formatter) :
    (editor.perform operation).2.goalColumn = editor.goalColumn := by
  cases operation with
  | formatWith formatter => exact goalColumn_formatWith editor formatter
  | _ =>
      simp only [formatter?] at h
      split at h
      · next hcommand =>
          obtain ⟨mode, input, journal, -, heq⟩ := perform_of_command? hcommand
          rw [heq]
          exact goalColumn_format _
      · cases h

/-! ## Operations that leave the cursor alone -/

/-- An operation moves the cursor or changes a loaded line. -/
def Stirs (editor : Editor) (operation : Operation) : Prop :=
  (editor.perform operation).2.cursor ≠ editor.cursor ∨
    ¬ editor.buffer.lines <+: (editor.perform operation).2.buffer.lines

/-- An operation leaves the cursor and the loaded lines just if it is none that stirs. -/
theorem not_stirs_iff : ¬ editor.Stirs operation ↔
    (editor.perform operation).2.cursor = editor.cursor ∧
      editor.buffer.lines <+: (editor.perform operation).2.buffer.lines := by
  rw [Stirs, not_or, Classical.not_not, Classical.not_not]

/-- No one of some operations, carried out in order, moves the cursor or changes a loaded line. -/
def Calm : Editor → List Operation → Prop
  | _, [] => True
  | editor, operation :: operations =>
      ¬ editor.Stirs operation ∧ Calm (editor.perform operation).2 operations

/-- The next vertical move aims at the column where the cursor is. -/
def Fresh (editor : Editor) : Prop := editor.aim = editor.cursor.visualColumn

/-- Without a column aimed at, the next vertical move takes the one of the cursor. -/
theorem fresh_of_goalColumn (h : editor.goalColumn = none) : editor.Fresh := by
  rw [Fresh, aim, h, Option.getD_none]

/-- The next vertical move aims at the cursor's column just if none is kept, or that one. -/
theorem fresh_iff :
    editor.Fresh ↔ ∀ goal ∈ editor.goalColumn, goal = editor.cursor.visualColumn := by
  rw [Fresh, aim]
  cases editor.goalColumn with
  | none => simp
  | some goal =>
      constructor
      · intro h other hother
        rw [← Option.some.inj hother]
        exact h
      · intro h
        exact h goal rfl

/-- An operation that leaves cursor and loaded lines alone also leaves the column aimed at, unless
it lets go of it. -/
theorem aim_perform_of_not_stirs (h : editor.Sound origin) (hcalm : ¬ editor.Stirs operation) :
    (editor.perform operation).2.cursor = editor.cursor ∧
      ((editor.perform operation).2.goalColumn = none ∨
        (editor.perform operation).2.aim = editor.aim) := by
  obtain ⟨hcursor, -⟩ := not_stirs_iff.1 hcalm
  refine ⟨hcursor, ?_⟩
  cases hvertical : operation.verticalMove? editor.mode with
  | some move =>
      rw [perform_of_verticalMove? hvertical]
      exact .inr (aimed_moveBy h.buffer move).aim
  | none =>
      cases hformat : editor.formatter? operation with
      | some formatter =>
          right
          rw [aim, aim, goalColumn_perform_of_formatter? hformat, hcursor]
      | none =>
          cases releases_perform hvertical hformat with
          | drops hnone => exact .inl hnone
          | rests hrests => exact .inr hrests.aim_eq

/-- An operation that does not stir leaves nothing stale behind. -/
theorem Fresh.perform (hfresh : editor.Fresh) (h : editor.Sound origin)
    (hcalm : ¬ editor.Stirs operation) : (editor.perform operation).2.Fresh := by
  obtain ⟨hcursor, hnone | haim⟩ := aim_perform_of_not_stirs h hcalm
  · exact fresh_of_goalColumn hnone
  · rw [Fresh, haim, hcursor]
    exact hfresh

/-- Operations that do not stir leave nothing stale behind, however many there are. -/
theorem Fresh.performAll (hfresh : editor.Fresh) (h : editor.Sound origin)
    {operations : List Operation} (hcalm : editor.Calm operations) :
    (editor.performAll operations).2.Fresh := by
  induction operations generalizing editor origin with
  | nil => exact hfresh
  | cons operation operations ih =>
      obtain ⟨hfirst, hrest⟩ := hcalm
      exact ih (hfresh.perform h hfirst) (h.perform operation) hrest

/-- While the cursor and the loaded lines are left alone, a column other than the cursor's is aimed
at until some operation lets go of it. -/
theorem fresh_performAll_iff (h : editor.Sound origin) {operations : List Operation}
    (hcalm : editor.Calm operations) :
    (editor.performAll operations).2.Fresh ↔ editor.Fresh ∨
      ∃ passed rest, operations = passed ++ rest ∧
        (editor.performAll passed).2.goalColumn = none := by
  constructor
  · intro hlast
    induction operations generalizing editor origin with
    | nil => exact .inl hlast
    | cons operation operations ih =>
        obtain ⟨hfirst, hrest⟩ := hcalm
        obtain ⟨hcursor, hkept⟩ := aim_perform_of_not_stirs h hfirst
        rcases hkept with hnone | haim
        · exact .inr ⟨[operation], operations, rfl, hnone⟩
        · rcases ih (h.perform operation) hrest hlast with hfresh | ⟨passed, rest, hsplit, hnone⟩
          · rw [Fresh, haim, hcursor] at hfresh
            exact .inl hfresh
          · exact .inr ⟨operation :: passed, rest, congrArg _ hsplit, hnone⟩
  · rintro (hfresh | ⟨passed, rest, hsplit, hnone⟩)
    · exact hfresh.performAll h hcalm
    · subst hsplit
      induction passed generalizing editor origin with
      | nil => exact (fresh_of_goalColumn hnone).performAll h hcalm
      | cons operation passed ih =>
          obtain ⟨-, hrest⟩ := hcalm
          have hdropped : ((editor.perform operation).2.performAll passed).2.goalColumn = none :=
            hnone
          exact ih (h.perform operation) hdropped hrest

/-- The column that vertical moves aim at. After any operation that is no vertical move and that
moves the cursor or changes a loaded line, and after others that do neither, a vertical move aims at
the cursor's own column, with one exception: where a formatter has been applied, a column that was
remembered before and is not the cursor's is aimed at until some operation lets go of it. -/
theorem aims_at_cursor_iff (settings : Settings) (earlier : List Operation) {operation : Operation}
    (hvertical : operation.verticalMove? ((new settings).performAll earlier).2.mode = none)
    (hstirs : ((new settings).performAll earlier).2.Stirs operation) {later : List Operation}
    (hcalm : (((new settings).performAll earlier).2.perform operation).2.Calm later) :
    let editor := ((new settings).performAll earlier).2
    let after := (editor.perform operation).2
    let last := (after.performAll later).2
    (∀ move, last.target? move ≠ none → (last.moveBy move).cursor.column =
      (last.moveBy move).currentLine.byteForColumn last.aim last.settings.tabWidth) ∧
    (last.aim = last.cursor.visualColumn ↔
      editor.formatter? operation = none ∨
      (∀ goal ∈ editor.goalColumn, goal = after.cursor.visualColumn) ∨
      ∃ passed rest, later = passed ++ rest ∧
        (after.performAll passed).2.goalColumn = none) := by
  intro editor after last
  have hafter : after.Sound _ := ((sound_new settings).performAll earlier).perform operation
  have hlast : last.Sound _ := hafter.performAll later
  refine ⟨fun move hmoves => (cursor_moveBy hlast.buffer hmoves).2, ?_⟩
  have hfresh : last.Fresh ↔ _ := fresh_performAll_iff hafter hcalm
  rw [← Fresh, hfresh]
  cases hformat : editor.formatter? operation with
  | none =>
      -- what stirs does not rest, so the column has been let go of
      have hnone : after.goalColumn = none := by
        cases releases_perform hvertical hformat with
        | drops hnone => exact hnone
        | rests hrests =>
            rcases hstirs with hmoved | hchanged
            · exact absurd hrests.cursor hmoved
            · exact absurd hrests.lines hchanged
      exact iff_of_true (.inl (fresh_of_goalColumn hnone)) (.inl rfl)
  | some formatter =>
      have hkept : after.goalColumn = editor.goalColumn := goalColumn_perform_of_formatter? hformat
      rw [fresh_iff, hkept]
      simp only [reduceCtorEq, false_or]

/-- After a move down onto a shorter line and a goto on the same line, which lets go of the column,
a move up aims at the cursor's column, also if a prompt for a file name has come and gone. -/
theorem aims_at_cursor_after_goto :
    let earlier : List Operation :=
      [.loadText "long line\nab\nanother line".toList, .goto 1 (some 8), .moveDown]
    let editor := ((new .usual).performAll earlier).2
    let after := (editor.perform (.goto 2 (some 1))).2
    let later : List Operation := [.executeLine "save".toList, .key (.plain .escape)]
    let last := (after.performAll later).2
    editor.aim = 8 ∧ editor.Stirs (.goto 2 (some 1)) ∧ after.Calm later ∧
      last.cursor.visualColumn = 1 ∧ last.aim = 1 := by
  intro earlier editor after later last
  have hvertical : (Operation.goto 2 (some 1)).verticalMove? editor.mode = none := rfl
  have haim : editor.aim = 8 := by decide +kernel
  have hbefore : editor.cursor = ⟨1, 2, 2⟩ := by decide +kernel
  have hafter : after.cursor = ⟨1, 1, 1⟩ := by decide +kernel
  have hstirs : editor.Stirs (.goto 2 (some 1)) := by
    left
    rw [hbefore]
    exact fun heq => absurd (hafter.symm.trans heq) (by decide)
  have hcalm : after.Calm later := by
    have hsaved : (after.perform (.executeLine "save".toList)).2.cursor = after.cursor ∧
        after.buffer.lines <+: (after.perform (.executeLine "save".toList)).2.buffer.lines := by
      decide +kernel
    have hescaped : last.cursor = (after.perform (.executeLine "save".toList)).2.cursor ∧
        (after.perform (.executeLine "save".toList)).2.buffer.lines <+: last.buffer.lines := by
      decide +kernel
    exact ⟨not_stirs_iff.2 hsaved, not_stirs_iff.2 hescaped, trivial⟩
  have hlast : last.cursor.visualColumn = 1 := by decide +kernel
  -- nothing more is computed from here on
  clear_value earlier later
  obtain ⟨-, hiff⟩ := aims_at_cursor_iff .usual earlier hvertical hstirs hcalm
  exact ⟨haim, hstirs, hcalm, hlast, (hiff.2 (.inl rfl)).trans hlast⟩

/-- A formatter shortens the line that a move down has come to. The cursor is then in column 1, but
a move up goes to column 8. -/
theorem aim_kept_by_formatter :
    let earlier : List Operation :=
      [.loadText "long line\nab\nanother line".toList, .goto 1 (some 8), .moveDown]
    let editor := ((new .usual).performAll earlier).2
    let operation : Operation := .formatWith (.constant "long line\nx\nanother line".toList)
    let after := (editor.perform operation).2
    operation.verticalMove? editor.mode = none ∧ editor.Stirs operation ∧
      after.cursor = ⟨1, 1, 1⟩ ∧ after.aim = 8 ∧ after.target? .up ≠ none ∧
      (after.moveBy .up).cursor = ⟨0, 8, 8⟩ ∧
      (after.moveBy .up).currentLine.byteForColumn after.cursor.visualColumn
        after.settings.tabWidth = 1 := by
  intro earlier editor operation after
  have hbefore : editor.cursor = ⟨1, 2, 2⟩ := by decide +kernel
  have hafter : after.cursor = ⟨1, 1, 1⟩ := by decide +kernel
  have hstirs : editor.Stirs operation := by
    left
    rw [hbefore]
    exact fun heq => absurd (hafter.symm.trans heq) (by decide)
  exact ⟨rfl, hstirs, hafter, by decide +kernel, by decide +kernel, by decide +kernel,
    by decide +kernel⟩

end TextEditor.Editor
