import TextEditor.Editor.Operation
import TextEditor.Proofs.Editor.Reading

/-!
# What keys mean from one operation to the next

The mode of an editor, its search and whether saving leads to quitting make up its stance. Keys and
command lines change it; whatever else is done with an editor, from reading lines of a stream to
editing the document, leaves it as it is and asks nothing of the host.

Main statements: `stance_jumpTo`, `stance_afterEdit`, `stance_requestSave`, `stance_perform` and
`perform_ne_request`.
-/

namespace TextEditor.Editor

/-- What an editor takes the next key for. -/
def stance (editor : Editor) : Mode × LineSearch × Bool :=
  (editor.mode, editor.search, editor.quitAfterSave)

/-! ## Reading lines and placing the cursor -/

/-- Reading towards a line leaves the stance. -/
theorem stance_ensureLoaded (editor : Editor) (line : Nat) :
    (editor.ensureLoaded line).stance = editor.stance := by
  refine ensureLoaded_induction (P := fun after => after.stance = editor.stance) ?_ rfl line
  intro after loader _ h _
  exact h

/-- Reading to the end leaves the stance. -/
theorem stance_finishLoading (editor : Editor) :
    editor.finishLoading.2.stance = editor.stance := by
  refine finishLoading_induction (P := fun after => after.stance = editor.stance) ?_ ?_ rfl
  · intro after loader _ h _
    exact h
  · intro after loader _ _ _ _ h
    exact h

/-- To move the cursor leaves the stance. -/
theorem stance_moveCursor (editor : Editor) (line column : Nat) :
    (editor.moveCursor line column).stance = editor.stance := stance_ensureLoaded editor line

/-- A jump leaves the stance. -/
theorem stance_jumpTo (editor : Editor) (line column : Nat) :
    (editor.jumpTo line column).stance = editor.stance := stance_moveCursor ..

/-- What follows on an edit leaves the stance. -/
theorem stance_afterEdit (editor : Editor) (buffer : LineBuffer) (line column : Nat) :
    (editor.afterEdit buffer line column).stance = editor.stance := stance_jumpTo ..

/-! ## Typing -/

/-- To insert a text leaves the stance. -/
theorem stance_insertText (editor : Editor) (text : Text) :
    (editor.insertText text).stance = editor.stance := by
  unfold insertText
  split
  · rfl
  · exact stance_afterEdit ..

/-- To split a line leaves the stance. -/
theorem stance_splitLine (editor : Editor) : editor.splitLine.stance = editor.stance := by
  unfold splitLine
  simp only
  split
  · exact stance_afterEdit ..
  · exact stance_afterEdit ..

/-- To put a character in leaves the stance. -/
theorem stance_typeAt (editor : Editor) (column : Nat) (c : Char) :
    (editor.typeAt column c).stance = editor.stance := by
  unfold typeAt
  simp only
  split
  · exact stance_afterEdit ..
  · exact stance_afterEdit ..
  · exact stance_jumpTo ..

/-- To type a character leaves the stance. -/
theorem stance_insertChar (editor : Editor) (c : Char) :
    (editor.insertChar c).stance = editor.stance := by
  unfold insertChar
  split
  · exact stance_splitLine editor
  · split
    · exact stance_typeAt editor.dedentCursor.2 _ c
    · exact stance_typeAt editor _ c

/-- To delete backwards leaves the stance. -/
theorem stance_backspace (editor : Editor) : editor.backspace.stance = editor.stance := by
  unfold backspace
  simp only
  split
  · split
    · rfl
    · split
      · exact stance_afterEdit ..
      · rfl
  · split
    · exact stance_afterEdit ..
    · exact stance_afterEdit ..

/-- To delete forwards leaves the stance. -/
theorem stance_deleteForward (editor : Editor) : editor.deleteForward.stance = editor.stance := by
  unfold deleteForward
  simp only
  split
  · exact stance_afterEdit ..
  · split
    · exact stance_afterEdit ..
    · rfl

/-! ## Moving -/

/-- A move to the left leaves the stance. -/
theorem stance_moveLeft (editor : Editor) : editor.moveLeft.stance = editor.stance := by
  unfold moveLeft
  simp only
  split
  · exact stance_jumpTo ..
  · split
    · exact stance_jumpTo ..
    · rfl

/-- A move to the right leaves the stance. -/
theorem stance_moveRight (editor : Editor) : editor.moveRight.stance = editor.stance := by
  unfold moveRight
  simp only
  split
  · exact stance_jumpTo ..
  · split
    · exact stance_jumpTo ..
    · rfl

/-- A vertical move leaves the stance. -/
theorem stance_moveVertically (editor : Editor) (line : Nat) :
    (editor.moveVertically line).stance = editor.stance :=
  (stance_moveCursor _ _ _).trans (stance_ensureLoaded _ line)

/-- A move up leaves the stance. -/
theorem stance_moveUp (editor : Editor) : editor.moveUp.stance = editor.stance := by
  unfold moveUp
  split
  · exact stance_moveVertically editor _
  · rfl

/-- A move down leaves the stance. -/
theorem stance_moveDown (editor : Editor) : editor.moveDown.stance = editor.stance := by
  have hloaded := editor.stance_ensureLoaded (editor.cursor.line + 1)
  unfold moveDown
  simp only
  split
  · exact (stance_moveVertically _ _).trans hloaded
  · exact hloaded

/-! ## The document as a whole -/

/-- Another grammar leaves the stance. -/
theorem stance_selectGrammar (editor : Editor) (language : Language) :
    (editor.selectGrammar language).stance = editor.stance := by
  unfold selectGrammar
  split
  · rfl
  · rfl

/-- A grammar that is asked for by its name leaves the stance. -/
theorem stance_selectGrammarById (editor : Editor) (id : Text) :
    (editor.selectGrammarById id).2.stance = editor.stance := by
  unfold selectGrammarById
  split
  · exact stance_selectGrammar ..
  · rfl

/-- Another file name leaves the stance. -/
theorem stance_setFileName (editor : Editor) (path : Text) :
    (editor.setFileName path).stance = editor.stance := stance_selectGrammar ..

/-- To open a stream leaves the stance. -/
theorem stance_openStream (editor : Editor) (source : LineSource) :
    (editor.openStream source).2.stance = editor.stance := by
  unfold openStream
  simp only
  split
  · exact stance_jumpTo ..
  · rfl

/-- Diagnostics leave the stance. -/
theorem stance_setDiagnostics (editor : Editor) (diagnostics : List Diagnostic) :
    (editor.setDiagnostics diagnostics).stance = editor.stance := by
  unfold setDiagnostics
  simp only
  split
  · exact stance_jumpTo ..
  · rfl

/-! ## Commands -/

/-- To save a document leaves the stance; it is not what opens the prompt for a name. -/
theorem stance_requestSave (editor : Editor) (quitAfter : Bool) :
    (editor.requestSave quitAfter).2.stance = editor.stance := by
  have hloaded := editor.stance_finishLoading
  unfold requestSave
  split
  · rfl
  · split
    · next heq =>
        rw [heq] at hloaded
        exact hloaded
    · next heq =>
        rw [heq] at hloaded
        exact hloaded

/-- To go to a line leaves the stance. -/
theorem stance_goto (editor : Editor) (line : Nat) (column : Option Nat) :
    (editor.goto line column).stance = editor.stance := by
  unfold goto
  simp only
  split
  · exact (stance_jumpTo _ _ _).trans (stance_ensureLoaded _ _)
  · exact stance_jumpTo ..

/-- A formatter leaves the stance. -/
theorem stance_formatWith (editor : Editor) (formatter : Formatter) :
    (editor.formatWith formatter).2.stance = editor.stance := by
  have hloaded := editor.stance_finishLoading
  unfold formatWith
  split
  · next heq =>
      rw [heq] at hloaded
      exact hloaded
  · next heq =>
      rw [heq] at hloaded
      split
      · exact (stance_moveCursor _ _ _).trans hloaded
      · exact hloaded

/-- The command to format leaves the stance. -/
theorem stance_format (editor : Editor) : editor.format.stance = editor.stance := by
  unfold format
  split
  · split
    · exact stance_formatWith editor _
    · rfl
  · rfl

/-! ## Prompts -/

/-- A key at a prompt that gives no command changes the text of the prompt only. -/
theorem stance_promptKey (editor : Editor) (event : KeyEvent) :
    (editor.promptKey event).stance = editor.stance := by
  unfold promptKey
  split
  · rfl
  · rfl

/-- To go to a result leaves the search as it is. -/
theorem stance_gotoResult (editor : Editor) : editor.gotoResult.stance = editor.stance := by
  unfold gotoResult
  split
  · rfl
  · exact stance_jumpTo ..

/-! ## Operations -/

/-- Whether an operation takes what a user has typed: a key or a command line. -/
def takesInput : Operation → Prop
  | .key _ => True
  | .executeLine _ => True
  | _ => False

/-- Only what a user types changes what the next key is taken for. -/
theorem stance_perform (editor : Editor) {operation : Operation} (h : ¬ takesInput operation) :
    (editor.perform operation).2.stance = editor.stance := by
  cases operation with
  | key event => exact absurd trivial h
  | executeLine line => exact absurd trivial h
  | selectGrammar language => exact stance_selectGrammar editor language
  | selectGrammarById id => exact stance_selectGrammarById editor id
  | setFileName path => exact stance_setFileName editor path
  | loadText text => exact stance_jumpTo ..
  | openStream source =>
      have hopen := stance_openStream editor source
      simp only [perform]
      split
      · next heq =>
          rw [heq] at hopen
          exact hopen
      · next heq =>
          rw [heq] at hopen
          exact hopen
  | finishLoading => exact stance_finishLoading editor
  | goto line column => exact stance_goto editor line column
  | setDiagnostics diagnostics => exact stance_setDiagnostics editor diagnostics
  | formatWith formatter => exact stance_formatWith editor formatter
  | insertChar c => exact stance_insertChar editor c
  | insertText text => exact stance_insertText editor text
  | insertTab => exact stance_insertText editor ['\t']
  | backspace => exact stance_backspace editor
  | deleteForward => exact stance_deleteForward editor
  | splitLine => exact stance_splitLine editor
  | moveLeft => exact stance_moveLeft editor
  | moveRight => exact stance_moveRight editor
  | moveUp => exact stance_moveUp editor
  | moveDown => exact stance_moveDown editor
  | pageUp => exact stance_moveVertically editor _
  | pageDown => exact stance_moveVertically editor _
  | moveHome => exact stance_jumpTo ..
  | moveEnd => exact stance_jumpTo ..
  | moveWordLeft => exact stance_jumpTo ..
  | moveWordRight => exact stance_jumpTo ..
  | resize | markSaved | setStatus | clearStatus | setFormatter => rfl

/-- Whether something has succeeded is no request. -/
theorem ofResult_ne_request (result : Except EditorError Unit) (asked : Request) :
    Outcome.ofResult result ≠ .request asked := by
  intro h
  cases result with
  | error error => cases h
  | ok done => cases h

/-- Only what a user types asks something of the host. -/
theorem perform_ne_request (editor : Editor) {operation : Operation} (h : ¬ takesInput operation)
    (asked : Request) : (editor.perform operation).1 ≠ .request asked := by
  intro hasked
  cases operation with
  | key event => exact h trivial
  | executeLine line => exact h trivial
  | selectGrammarById id => exact ofResult_ne_request _ _ hasked
  | finishLoading => exact ofResult_ne_request _ _ hasked
  | openStream source =>
      simp only [perform] at hasked
      split at hasked
      · cases hasked
      · cases hasked
  | _ => cases hasked

end TextEditor.Editor
