import TextEditor.Editor.Operation
import TextEditor.Proofs.Editor.Reading

/-!
# Where an operation leaves the cursor

Whatever an operation does to the document, it ends in one of two ways: cursor, window and settings
are those from before, or the cursor has been moved and the window scrolled after it. Only another
size of the screen changes the settings.

Main statements: `stays_ensureLoaded` and `stays_finishLoading`, one lemma for each operation, and
from them `settles_perform`.
-/

namespace TextEditor.Editor

variable {editor before after : Editor}

/-- The part of the document that an editor shows, and the settings that it goes by. -/
def window (editor : Editor) : Viewport × Settings := (editor.viewport, editor.settings)

/-- Cursor, window and settings are as they were. -/
structure Stays (editor after : Editor) : Prop where
  cursor : after.cursor = editor.cursor
  window : after.window = editor.window

/-- An operation has left the cursor where it was, or has ended by moving it. -/
inductive Settles (editor : Editor) : Editor → Prop where
  | stays {after : Editor} (h : Stays editor after) : Settles editor after
  | moves {before : Editor} (h : before.window = editor.window) (line column : Nat) :
      Settles editor (before.moveCursor line column)

/-- To do nothing leaves cursor, window and settings. -/
theorem Stays.refl (editor : Editor) : Stays editor editor := ⟨rfl, rfl⟩

/-- What leaves the window leaves the settings. -/
theorem Stays.settings_eq (h : Stays editor after) : after.settings = editor.settings :=
  congrArg (·.2) h.window

/-- What leaves the window leaves the part of the document that is shown. -/
theorem Stays.viewport_eq (h : Stays editor after) : after.viewport = editor.viewport :=
  congrArg (·.1) h.window

/-- To do nothing leaves the cursor where it was. -/
theorem Settles.refl (editor : Editor) : Settles editor editor := .stays (.refl editor)

/-- What comes before an operation may change anything but cursor, window and settings. -/
theorem Stays.of_before (h : Stays before after) (hbefore : Stays editor before) :
    Stays editor after :=
  ⟨h.cursor.trans hbefore.cursor, h.window.trans hbefore.window⟩

/-- What comes before an operation does not matter here, if it leaves cursor, window and
settings. -/
theorem Settles.of_before (h : Settles before after) (hbefore : Stays editor before) :
    Settles editor after := by
  cases h with
  | stays hafter => exact .stays (hafter.of_before hbefore)
  | moves hafter line column => exact .moves (hafter.trans hbefore.window) line column

/-! ## Reading lines -/

/-- Reading towards a line moves nothing. -/
theorem stays_ensureLoaded (editor : Editor) (line : Nat) :
    Stays editor (editor.ensureLoaded line) := by
  refine ensureLoaded_induction (P := fun after => Stays editor after) ?_ (.refl editor) line
  intro after loader _ h n
  exact ⟨h.cursor, h.window⟩

/-- Reading to the end moves nothing. -/
theorem stays_finishLoading (editor : Editor) : Stays editor editor.finishLoading.2 := by
  refine finishLoading_induction (P := fun after => Stays editor after) ?_ ?_ (.refl editor)
  · intro after loader _ h n
    exact ⟨h.cursor, h.window⟩
  · intro after loader n _ _ _ h
    exact ⟨h.cursor, h.window⟩

/-- Whether the cursor has been moved or not, the settings are those from before. -/
theorem Settles.settings_eq (h : Settles editor after) : after.settings = editor.settings := by
  cases h with
  | stays h => exact h.settings_eq
  | @moves before h line column =>
      exact (before.stays_ensureLoaded line).settings_eq.trans (congrArg (·.2) h)

/-! ## Placing the cursor -/

/-- A jump ends by moving the cursor. -/
theorem settles_jumpTo (h : before.window = editor.window) (line column : Nat) :
    Settles editor (before.jumpTo line column) := by
  have hwindow : { before with goalColumn := none }.window = editor.window := h
  exact Settles.moves hwindow line column

/-- An edit ends by a jump. -/
theorem settles_afterEdit (editor : Editor) (buffer : LineBuffer) (line column : Nat) :
    Settles editor (editor.afterEdit buffer line column) := by
  have hwindow : { editor with buffer := buffer, dirty := true }.window = editor.window := rfl
  exact settles_jumpTo hwindow line column

/-! ## Typing -/

/-- To insert a text moves the cursor behind it, unless the text is empty. -/
theorem settles_insertText (editor : Editor) (text : Text) :
    Settles editor (editor.insertText text) := by
  unfold insertText
  split
  · exact .refl editor
  · exact settles_afterEdit ..

/-- To split a line moves the cursor to the new one. -/
theorem settles_splitLine (editor : Editor) : Settles editor editor.splitLine := by
  unfold splitLine
  simp only
  split
  · exact settles_afterEdit ..
  · exact settles_afterEdit ..

/-- A character that is put in moves the cursor. -/
theorem settles_typeAt (editor : Editor) (column : Nat) (c : Char) :
    Settles editor (editor.typeAt column c) := by
  unfold typeAt
  simp only
  split
  · exact settles_afterEdit ..
  · exact settles_afterEdit ..
  · exact settles_jumpTo rfl ..

/-- To type a character moves the cursor. -/
theorem settles_insertChar (editor : Editor) (c : Char) : Settles editor (editor.insertChar c) := by
  unfold insertChar
  split
  · exact settles_splitLine editor
  · split
    · have hdedented : Stays editor editor.dedentCursor.2 := ⟨rfl, rfl⟩
      exact (settles_typeAt editor.dedentCursor.2 _ c).of_before hdedented
    · exact settles_typeAt editor _ c

/-- To delete backwards moves the cursor, unless nothing is there to delete. -/
theorem settles_backspace (editor : Editor) : Settles editor editor.backspace := by
  unfold backspace
  simp only
  split
  · split
    · exact .refl editor
    · split
      · exact settles_afterEdit ..
      · exact .refl editor
  · split
    · exact settles_afterEdit ..
    · exact settles_afterEdit ..

/-- To delete forwards puts the cursor where it is once more, unless nothing is there to delete. -/
theorem settles_deleteForward (editor : Editor) : Settles editor editor.deleteForward := by
  unfold deleteForward
  simp only
  split
  · exact settles_afterEdit ..
  · split
    · exact settles_afterEdit ..
    · exact .refl editor

/-! ## Moving -/

/-- A move to the left moves the cursor, or stays at the start of the document. -/
theorem settles_moveLeft (editor : Editor) : Settles editor editor.moveLeft := by
  unfold moveLeft
  simp only
  split
  · exact settles_jumpTo rfl ..
  · split
    · exact settles_jumpTo rfl ..
    · exact .stays ⟨rfl, rfl⟩

/-- A move to the right moves the cursor, or stays at the end of what is loaded. -/
theorem settles_moveRight (editor : Editor) : Settles editor editor.moveRight := by
  unfold moveRight
  simp only
  split
  · exact settles_jumpTo rfl ..
  · split
    · exact settles_jumpTo rfl ..
    · exact .stays ⟨rfl, rfl⟩

/-- A vertical move moves the cursor. -/
theorem settles_moveVertically (editor : Editor) (line : Nat) :
    Settles editor (editor.moveVertically line) := by
  have hwindow : ({ editor with goalColumn := some editor.aim }.ensureLoaded line).window =
      editor.window := (stays_ensureLoaded _ line).window
  exact Settles.moves hwindow _ _

/-- A move up moves the cursor, or stays on the first line. -/
theorem settles_moveUp (editor : Editor) : Settles editor editor.moveUp := by
  unfold moveUp
  split
  · exact settles_moveVertically editor _
  · exact .refl editor

/-- A move down moves the cursor, or stays on the last line. -/
theorem settles_moveDown (editor : Editor) : Settles editor editor.moveDown := by
  have hloaded := editor.stays_ensureLoaded (editor.cursor.line + 1)
  unfold moveDown
  simp only
  split
  · exact (settles_moveVertically _ _).of_before hloaded
  · exact .stays hloaded

/-! ## The document as a whole -/

/-- Another grammar moves nothing. -/
theorem stays_selectGrammar (editor : Editor) (language : Language) :
    Stays editor (editor.selectGrammar language) := by
  unfold selectGrammar
  split
  · exact .refl editor
  · exact ⟨rfl, rfl⟩

/-- A grammar that is asked for by its name moves nothing. -/
theorem settles_selectGrammarById (editor : Editor) (id : Text) :
    Settles editor (editor.selectGrammarById id).2 := by
  unfold selectGrammarById
  split
  · exact .stays (editor.stays_selectGrammar _)
  · exact .refl editor

/-- Another file name moves nothing. -/
theorem stays_setFileName (editor : Editor) (path : Text) :
    Stays editor (editor.setFileName path) := by
  have hlanguage := editor.stays_selectGrammar (.ofPath path)
  exact ⟨hlanguage.cursor, hlanguage.window⟩

/-- To load a text moves the cursor to its start. -/
theorem settles_loadText (editor : Editor) (text : Text) :
    Settles editor (editor.loadText text) := by
  unfold loadText
  refine settles_jumpTo ?_ ..
  rfl

/-- To open a stream moves the cursor to its start, or moves nothing if it fails. -/
theorem settles_openStream (editor : Editor) (source : LineSource) :
    Settles editor (editor.openStream source).2 := by
  unfold openStream
  simp only
  split
  · refine settles_jumpTo ?_ ..
    rfl
  · exact .stays ⟨rfl, rfl⟩

/-- Diagnostics move the cursor to the first of them, if there is one to go to. -/
theorem settles_setDiagnostics (editor : Editor) (diagnostics : List Diagnostic) :
    Settles editor (editor.setDiagnostics diagnostics) := by
  unfold setDiagnostics
  simp only
  split
  · refine settles_jumpTo ?_ ..
    rfl
  · exact .stays ⟨rfl, rfl⟩

/-! ## Commands -/

/-- To save moves nothing. -/
theorem stays_requestSave (editor : Editor) (quitAfter : Bool) :
    Stays editor (editor.requestSave quitAfter).2 := by
  have hloaded := editor.stays_finishLoading
  unfold requestSave
  split
  · exact .refl editor
  · split
    · next heq =>
        rw [heq] at hloaded
        exact hloaded
    · next heq =>
        rw [heq] at hloaded
        exact hloaded

/-- To go to a line moves the cursor. -/
theorem settles_goto (editor : Editor) (line : Nat) (column : Option Nat) :
    Settles editor (editor.goto line column) := by
  unfold goto
  simp only
  split
  · exact settles_jumpTo (editor.stays_ensureLoaded _).window ..
  · exact settles_jumpTo rfl ..

/-- To format moves the cursor back into the document, or nothing if it fails. -/
theorem settles_formatWith (editor : Editor) (formatter : Formatter) :
    Settles editor (editor.formatWith formatter).2 := by
  have hloaded := editor.stays_finishLoading
  unfold formatWith
  split
  · next heq =>
      rw [heq] at hloaded
      exact .stays hloaded
  · next loaded heq =>
      rw [heq] at hloaded
      split
      · refine Settles.moves ?_ ..
        exact hloaded.window
      · exact .stays ⟨hloaded.cursor, hloaded.window⟩

/-- The command to format moves the cursor back into the document, or nothing. -/
theorem settles_format (editor : Editor) : Settles editor editor.format := by
  unfold format
  split
  · split
    · exact settles_formatWith editor _
    · exact .stays ⟨rfl, rfl⟩
  · exact .stays ⟨rfl, rfl⟩

/-- Only the commands to go somewhere and to format may move the cursor. -/
theorem stays_execute (editor : Editor) {command : Command}
    (hgoto : ∀ line column, command ≠ .goto line column) (hformat : command ≠ .format) :
    Stays editor (editor.execute command).2 := by
  cases command with
  | quit =>
      simp only [execute]
      split
      · exact ⟨rfl, rfl⟩
      · exact .refl editor
  | save path =>
      cases path with
      | some path =>
          have hsaved := (editor.setFileName path).stays_requestSave false
          exact hsaved.of_before (editor.stays_setFileName path)
      | none =>
          simp only [execute]
          split
          · exact ((editor.promptSave false).stays_requestSave false).of_before ⟨rfl, rfl⟩
          · exact editor.stays_requestSave false
  | goto line column => exact absurd rfl (hgoto line column)
  | setEncoding encoding => exact ⟨rfl, rfl⟩
  | format => exact absurd rfl hformat
  | test => exact .refl editor

/-- Every command leaves the cursor, or ends by moving it. -/
theorem settles_execute (editor : Editor) (command : Command) :
    Settles editor (editor.execute command).2 := by
  cases command with
  | goto line column => exact settles_goto editor line column
  | format => exact settles_format editor
  | _ => exact .stays (stays_execute editor nofun nofun)

/-- Every line at the prompt for commands leaves the cursor, or ends by moving it. -/
theorem settles_executeLine (editor : Editor) (line : Text) :
    Settles editor (editor.executeLine line).2 := by
  unfold executeLine
  split
  · exact .refl editor
  · next command _ =>
      have hreported : Stays editor (editor.report .debug ("command: " ++ command.summary)) :=
        ⟨rfl, rfl⟩
      exact (settles_execute _ command).of_before hreported
  · exact .stays ⟨rfl, rfl⟩

/-! ## Keys -/

/-- A search goes to a result by a jump, or stays. -/
theorem settles_gotoResult (editor : Editor) : Settles editor editor.gotoResult := by
  unfold gotoResult
  split
  · exact .refl editor
  · exact settles_jumpTo rfl ..

/-- Every key leaves the cursor or ends by moving it while the document is edited. -/
theorem settles_editingKey (editor : Editor) (event : KeyEvent) :
    Settles editor (editor.editingKey event) := by
  unfold editingKey
  split
  · exact .stays ⟨rfl, rfl⟩
  · split
    · exact .stays ⟨rfl, rfl⟩
    · split
      · split
        · exact settles_jumpTo rfl ..
        · exact settles_moveLeft editor
      · split
        · exact settles_jumpTo rfl ..
        · exact settles_moveRight editor
      · exact settles_moveUp editor
      · exact settles_moveDown editor
      · exact settles_jumpTo rfl ..
      · exact settles_jumpTo rfl ..
      · exact settles_moveVertically editor _
      · exact settles_moveVertically editor _
      · exact settles_splitLine editor
      · exact settles_backspace editor
      · exact settles_deleteForward editor
      · exact settles_insertText editor _
      · split
        · exact settles_insertChar editor _
        · exact .refl editor
      · split
        · exact settles_insertChar editor _
        · exact .refl editor

/-- A key at a prompt that gives no command moves nothing. -/
theorem stays_promptKey (editor : Editor) (event : KeyEvent) :
    Stays editor (editor.promptKey event) := by
  unfold promptKey
  split
  · exact ⟨rfl, rfl⟩
  · exact ⟨rfl, rfl⟩

/-- A key at the prompt for commands moves what the command moves. -/
theorem settles_commandKey (editor : Editor) (event : KeyEvent) :
    Settles editor (editor.commandKey event).2 := by
  unfold commandKey
  split
  · exact .stays ⟨rfl, rfl⟩
  · have hclosed : Stays editor { editor with mode := .editing, input := [] } := ⟨rfl, rfl⟩
    exact (settles_executeLine _ editor.input).of_before hclosed
  · exact .stays (editor.stays_promptKey event)

/-- A key of a search goes to a result or moves nothing. -/
theorem settles_findKey (editor : Editor) (event : KeyEvent) :
    Settles editor (editor.findKey event) := by
  have hsearch (search : LineSearch) :
      Settles editor { editor with search := search }.gotoResult := by
    have hfound : Stays editor { editor with search := search } := ⟨rfl, rfl⟩
    exact (settles_gotoResult _).of_before hfound
  unfold findKey
  split
  · exact .stays ⟨rfl, rfl⟩
  · exact .stays ⟨rfl, rfl⟩
  · exact hsearch _
  · exact hsearch _
  · exact hsearch _
  · exact hsearch _
  · exact hsearch _
  · split
    · exact hsearch _
    · exact .refl editor

/-- A key at the prompt for a file name moves nothing. -/
theorem stays_savePromptKey (editor : Editor) (event : KeyEvent) :
    Stays editor (editor.savePromptKey event).2 := by
  unfold savePromptKey
  split
  · exact ⟨rfl, rfl⟩
  · simp only
    split
    · exact ⟨rfl, rfl⟩
    · have hnamed := stays_setFileName
        { editor with mode := .editing, input := [], quitAfterSave := false } editor.input.trim
      exact ((stays_requestSave _ _).of_before hnamed).of_before ⟨rfl, rfl⟩
  · exact editor.stays_promptKey event

/-- A key that answers the question before quitting moves nothing. -/
theorem stays_quitPromptKey (editor : Editor) (event : KeyEvent) :
    Stays editor (editor.quitPromptKey event).2 := by
  have hclosed : Stays editor { editor with mode := .editing } := ⟨rfl, rfl⟩
  unfold quitPromptKey
  simp only
  split
  · exact hclosed
  · split
    · exact (stays_requestSave _ true).of_before hclosed
    · exact ⟨rfl, rfl⟩

/-- Every key leaves the cursor or ends by moving it, in any mode. -/
theorem settles_handleKey (editor : Editor) (event : KeyEvent) :
    Settles editor (editor.handleKey event).2 := by
  unfold handleKey
  split
  · exact settles_editingKey editor event
  · exact settles_commandKey editor event
  · exact settles_findKey editor event
  · exact .stays (stays_savePromptKey editor event)
  · exact .stays (stays_quitPromptKey editor event)

/-! ## Operations -/

/-- Whether an operation asks for another size of the screen. -/
def resizes : Operation → Prop
  | .resize _ _ => True
  | _ => False

/-- Every operation but another size of the screen leaves the cursor where it was or ends by moving
it. -/
theorem settles_perform (editor : Editor) {operation : Operation} (h : ¬ resizes operation) :
    Settles editor (editor.perform operation).2 := by
  cases operation with
  | key event => exact settles_handleKey editor event
  | executeLine line => exact settles_executeLine editor line
  | selectGrammar language => exact .stays (editor.stays_selectGrammar language)
  | selectGrammarById id => exact settles_selectGrammarById editor id
  | setFileName path => exact .stays (editor.stays_setFileName path)
  | loadText text => exact settles_loadText editor text
  | openStream source =>
      have hopen := settles_openStream editor source
      simp only [perform]
      split
      · next heq =>
          rw [heq] at hopen
          exact hopen
      · next heq =>
          rw [heq] at hopen
          exact hopen
  | finishLoading => exact .stays editor.stays_finishLoading
  | resize width height => exact absurd trivial h
  | goto line column => exact settles_goto editor line column
  | markSaved => exact .stays ⟨rfl, rfl⟩
  | setStatus message => exact .stays ⟨rfl, rfl⟩
  | clearStatus => exact .stays ⟨rfl, rfl⟩
  | setDiagnostics diagnostics => exact settles_setDiagnostics editor diagnostics
  | setFormatter formatter => exact .stays ⟨rfl, rfl⟩
  | formatWith formatter => exact settles_formatWith editor formatter
  | insertChar c => exact settles_insertChar editor c
  | insertText text => exact settles_insertText editor text
  | insertTab => exact settles_insertText editor ['\t']
  | backspace => exact settles_backspace editor
  | deleteForward => exact settles_deleteForward editor
  | splitLine => exact settles_splitLine editor
  | moveLeft => exact settles_moveLeft editor
  | moveRight => exact settles_moveRight editor
  | moveUp => exact settles_moveUp editor
  | moveDown => exact settles_moveDown editor
  | pageUp => exact settles_moveVertically editor _
  | pageDown => exact settles_moveVertically editor _
  | moveHome => exact settles_jumpTo rfl ..
  | moveEnd => exact settles_jumpTo rfl ..
  | moveWordLeft => exact settles_jumpTo rfl ..
  | moveWordRight => exact settles_jumpTo rfl ..

/-- No operation changes more of the settings than the size of the screen. -/
theorem settings_perform (editor : Editor) (operation : Operation) :
    ∃ width height,
      (editor.perform operation).2.settings = editor.settings.withScreen width height := by
  by_cases hresizes : resizes operation
  · cases operation with
    | resize width height => exact ⟨width, height, rfl⟩
    | _ => exact absurd hresizes id
  · exact ⟨editor.settings.screenWidth, editor.settings.screenHeight,
      (settles_perform editor hresizes).settings_eq⟩

end TextEditor.Editor
