import TextEditor.Proofs.Guarded.Commands
import TextEditor.Proofs.Guarded.Moving
import TextEditor.Proofs.Guarded.Typing

/-!
# Every run stays within range

Keys and operations with every step guarded. That an editor is sound is what keeps each of them
within range, and each of them leaves the editor sound for the next.

Main statements: `perform_eq`, `performAll_eq` and, for the runs of a new editor, `performAll_new`.
-/

namespace TextEditor.Guarded

/-! ## Keys -/

/-- The editor after a key in editing mode. -/
def editingKey (editor : Editor) (event : KeyEvent) : Option Editor :=
  if event.isCtrlChar 'f' then some { editor with mode := .find, search := .empty }
  else if event.isCtrlChar 'e' then some { editor with mode := .command, input := [] }
  else match event.key with
    | .left => if event.jumpsWords then moveWordLeft editor else moveLeft editor
    | .right => if event.jumpsWords then moveWordRight editor else moveRight editor
    | .up => moveUp none editor
    | .down => moveDown none editor
    | .home => moveHome editor
    | .lineEnd => moveEnd editor
    | .pageUp => pageUp none editor
    | .pageDown => pageDown none editor
    | .enter => splitAtCursor editor
    | .backspace => backspace editor
    | .delete => deleteForward editor
    | .tab => insertText editor ['\t']
    | .escape | .char _ =>
        match event.typed? with
        | some c => insertChar editor c
        | none => some editor

/-- The editor after a key in command mode, and what the command asks of the host. -/
def commandKey (editor : Editor) (event : KeyEvent) : Option (Option Request × Editor) :=
  match event.key with
  | .escape => some (none, { editor with mode := .editing, input := [] })
  | .enter => executeLine { editor with mode := .editing, input := [] } editor.input
  | _ => some (none, editor.promptKey event)

/-- The search with the result after the selected one selected. -/
def nextResult (search : LineSearch) : Option LineSearch := do
  if search.results.isEmpty then return search
  return { search with current := ← remainder (search.current + 1) search.results.length }

/-- The search with the result before the selected one selected. -/
def previousResult (search : LineSearch) : Option LineSearch := do
  if search.results.isEmpty then return search
  let before ← minus (search.current + search.results.length) 1
  return { search with current := ← remainder before search.results.length }

/-- The editor with its cursor at the query in the selected line of the search. -/
def gotoResult (editor : Editor) : Option Editor :=
  match editor.search.line? with
  | none => some editor
  | some line =>
      jumpTo editor line ((Text.find? editor.search.query (editor.buffer.line line)).getD 0)

/-- The editor after a key in find mode. -/
def findKey (editor : Editor) (event : KeyEvent) : Option Editor := do
  match event.key with
  | .escape | .enter => return { editor with mode := .editing }
  | .backspace => gotoResult { editor with search := editor.search.pop editor.buffer }
  | .down | .right => gotoResult { editor with search := ← nextResult editor.search }
  | .up | .left => gotoResult { editor with search := ← previousResult editor.search }
  | _ =>
      match event.typed? with
      | some c => gotoResult { editor with search := editor.search.push c editor.buffer }
      | none => return editor

/-- The editor after a key at the prompt for a file name. -/
def savePromptKey (editor : Editor) (event : KeyEvent) : Option (Option Request × Editor) :=
  match event.key with
  | .escape => some (none, { editor with mode := .editing, input := [], quitAfterSave := false })
  | .enter =>
      let name := editor.input.trim
      let quitAfter := editor.quitAfterSave
      let editor := { editor with mode := .editing, input := [], quitAfterSave := false }
      if name.isEmpty then some (none, editor)
      else do requestSave (← setFileName editor name) quitAfter
  | _ => some (none, editor.promptKey event)

/-- The editor after the answer to whether to save before quitting. -/
def quitPromptKey (editor : Editor) (event : KeyEvent) : Option (Option Request × Editor) :=
  let editor := { editor with mode := .editing }
  if event.key = .char 'n' ∨ event.key = .char 'N' then some (some .quit, editor)
  else if editor.fileName.isSome then requestSave editor true
  else some (none, editor.promptSave true)

/-- What a key asks of the host, and the editor after it. -/
def handleKey (editor : Editor) (event : KeyEvent) : Option (Option Request × Editor) :=
  match editor.mode with
  | .editing => do return (none, ← editingKey editor event)
  | .command => commandKey editor event
  | .find => do return (none, ← findKey editor event)
  | .savePrompt => savePromptKey editor event
  | .quitPrompt => quitPromptKey editor event

/-! ## Operations -/

/-- What comes of an operation, and the editor after it. -/
def perform (editor : Editor) : Operation → Option (Outcome × Editor)
  | .key event => do
      let (asked, editor) ← handleKey editor event
      return (.ofRequest? asked, editor)
  | .executeLine line => do
      let (asked, editor) ← executeLine editor line
      return (.ofRequest? asked, editor)
  | .selectGrammar language => do return (.nothing, ← selectGrammar editor language)
  | .selectGrammarById id => do
      let (result, editor) ← selectGrammarById editor id
      return (.ofResult result, editor)
  | .setFileName path => do return (.nothing, ← setFileName editor path)
  | .loadText text => do return (.nothing, ← loadText editor text)
  | .openStream source => do
      match ← openStream editor source with
      | (.ok count, editor) => return (.loaded count, editor)
      | (.error error, editor) => return (.failed error, editor)
  | .finishLoading => do
      let (result, editor) ← finishLoading editor
      return (.ofResult result, editor)
  | .resize width height => do return (.nothing, ← resize editor width height)
  | .goto line column => do return (.nothing, ← goto editor line column)
  | .markSaved => some (.nothing, editor.markSaved)
  | .setStatus message => some (.nothing, editor.setStatus message)
  | .clearStatus => some (.nothing, editor.clearStatus)
  | .setDiagnostics diagnostics => do return (.nothing, ← setDiagnostics editor diagnostics)
  | .setFormatter formatter => some (.nothing, { editor with formatter := some formatter })
  | .formatWith formatter => do
      let (success, editor) ← formatWith editor formatter
      return (.formatted success, editor)
  | .insertChar c => do return (.nothing, ← insertChar editor c)
  | .insertText text => do return (.nothing, ← insertText editor text)
  | .insertTab => do return (.nothing, ← insertText editor ['\t'])
  | .backspace => do return (.nothing, ← backspace editor)
  | .deleteForward => do return (.nothing, ← deleteForward editor)
  | .splitLine => do return (.nothing, ← splitAtCursor editor)
  | .moveLeft => do return (.nothing, ← moveLeft editor)
  | .moveRight => do return (.nothing, ← moveRight editor)
  | .moveUp => do return (.nothing, ← moveUp none editor)
  | .moveDown => do return (.nothing, ← moveDown none editor)
  | .pageUp => do return (.nothing, ← pageUp none editor)
  | .pageDown => do return (.nothing, ← pageDown none editor)
  | .moveHome => do return (.nothing, ← moveHome editor)
  | .moveEnd => do return (.nothing, ← moveEnd editor)
  | .moveWordLeft => do return (.nothing, ← moveWordLeft editor)
  | .moveWordRight => do return (.nothing, ← moveWordRight editor)

/-- What comes of a list of operations, in order, and the editor after them. -/
def performAll (editor : Editor) : List Operation → Option (List Outcome × Editor)
  | [] => some ([], editor)
  | operation :: operations => do
      let (outcome, editor) ← perform editor operation
      let (outcomes, editor) ← performAll editor operations
      return (outcome :: outcomes, editor)

/-! ## Equations -/

variable {editor : Editor} {origin : Option LineSource}

/-- Any key can be pressed while the document is edited. -/
theorem editingKey_eq (h : editor.Sound origin) (event : KeyEvent) :
    editingKey editor event = some (editor.editingKey event) := by
  unfold editingKey Editor.editingKey
  split
  · rfl
  · split
    · rfl
    · cases event.key with
      | left =>
          simp only [moveWordLeft_eq h, moveLeft_eq h.buffer]
          split
          · rfl
          · rfl
      | right =>
          simp only [moveWordRight_eq h, moveRight_eq h.buffer]
          split
          · rfl
          · rfl
      | up => exact moveUp_eq h.buffer
      | down => exact moveDown_eq h.buffer
      | home => exact jumpTo_eq h.buffer ..
      | lineEnd => exact jumpTo_eq h.buffer ..
      | pageUp => exact pageUp_eq h.buffer
      | pageDown => exact pageDown_eq h.buffer
      | enter => exact splitAtCursor_eq h
      | backspace => exact backspace_eq h
      | delete => exact deleteForward_eq h
      | tab => exact insertText_eq h.buffer _
      | escape =>
          cases event.typed? with
          | none => rfl
          | some c => exact insertChar_eq h c
      | char c =>
          cases event.typed? with
          | none => rfl
          | some c => exact insertChar_eq h c

/-- Any key can be pressed at the prompt for commands. -/
theorem commandKey_eq (h : editor.Sound origin) (event : KeyEvent) :
    commandKey editor event = some (editor.commandKey event) := by
  have hedit : { editor with mode := .editing, input := [] }.Sound origin :=
    ⟨h.buffer, h.cursor, h.loader⟩
  unfold commandKey Editor.commandKey
  cases event.key with
  | enter => exact executeLine_eq hedit _
  | _ => rfl

/-- The next result can be selected, also where there is none. -/
@[simp] theorem nextResult_eq (search : LineSearch) : nextResult search = some search.next := by
  unfold nextResult LineSearch.next
  split
  · rfl
  · next hsome =>
      rw [remainder_of_pos (by simpa [List.length_pos_iff] using hsome)]
      rfl

/-- The result before can be selected, also where there is none. -/
@[simp] theorem previousResult_eq (search : LineSearch) :
    previousResult search = some search.previous := by
  unfold previousResult LineSearch.previous
  split
  · rfl
  · next hsome =>
      have hpos : 0 < search.results.length := by simpa [List.length_pos_iff] using hsome
      rw [minus_of_le (by omega), Option.bind_eq_bind, Option.bind_some, remainder_of_pos hpos]
      rfl

/-- A search can go to the result that is selected. -/
theorem gotoResult_eq (h : editor.buffer.InStep) :
    gotoResult editor = some editor.gotoResult := by
  unfold gotoResult Editor.gotoResult
  cases editor.search.line? with
  | none => rfl
  | some line => exact jumpTo_eq h ..

/-- Any key can be pressed in a search. -/
theorem findKey_eq (h : editor.buffer.InStep) (event : KeyEvent) :
    findKey editor event = some (editor.findKey event) := by
  have hsearch (search : LineSearch) : gotoResult { editor with search := search } =
      some { editor with search := search }.gotoResult := by
    apply gotoResult_eq
    exact h
  simp only [findKey, hsearch, nextResult_eq, previousResult_eq, Option.bind_eq_bind,
    Option.bind_some, Option.pure_def, Editor.findKey]
  cases event.key with
  | escape => rfl
  | enter => rfl
  | backspace => rfl
  | down => rfl
  | right => rfl
  | up => rfl
  | left => rfl
  | _ => cases event.typed? <;> rfl

/-- Any key can be pressed at the prompt for a file name. -/
theorem savePromptKey_eq (h : editor.Sound origin) (event : KeyEvent) :
    savePromptKey editor event = some (editor.savePromptKey event) := by
  have hedit : { editor with mode := .editing, input := [], quitAfterSave := false }.Sound origin :=
    ⟨h.buffer, h.cursor, h.loader⟩
  unfold savePromptKey Editor.savePromptKey
  cases event.key with
  | enter =>
      simp only [setFileName_eq, requestSave_eq (hedit.setFileName _).buffer, Option.bind_eq_bind,
        Option.bind_some]
      split
      · rfl
      · rfl
  | _ => rfl

/-- Any key can be pressed at the question before quitting. -/
theorem quitPromptKey_eq (h : editor.buffer.InStep) (event : KeyEvent) :
    quitPromptKey editor event = some (editor.quitPromptKey event) := by
  have hedit : { editor with mode := .editing }.buffer.InStep := h
  unfold quitPromptKey Editor.quitPromptKey
  simp only [requestSave_eq hedit]
  split
  · rfl
  · split
    · rfl
    · rfl

/-- Any key can be pressed in any mode. -/
theorem handleKey_eq (h : editor.Sound origin) (event : KeyEvent) :
    handleKey editor event = some (editor.handleKey event) := by
  unfold handleKey Editor.handleKey
  cases editor.mode with
  | editing => simp only [editingKey_eq h, Option.bind_eq_bind, Option.bind_some, Option.pure_def]
  | command => exact commandKey_eq h event
  | find =>
      simp only [findKey_eq h.buffer, Option.bind_eq_bind, Option.bind_some, Option.pure_def]
  | savePrompt => exact savePromptKey_eq h event
  | quitPrompt => exact quitPromptKey_eq h.buffer event

/-- A step within range of which nothing comes but the editor after it. -/
theorem nothing_eq {step : Option Editor} {next : Editor} (h : step = some next) :
    (do return (Outcome.nothing, ← step)) = some (Outcome.nothing, next) := by
  rw [h]
  rfl

/-- No operation on a sound editor takes a step out of range. -/
theorem perform_eq (h : editor.Sound origin) (operation : Operation) :
    perform editor operation = some (editor.perform operation) := by
  cases operation with
  | key event =>
      simp only [perform, handleKey_eq h, Option.bind_eq_bind, Option.bind_some, Option.pure_def,
        Editor.perform]
  | executeLine line =>
      simp only [perform, executeLine_eq h, Option.bind_eq_bind, Option.bind_some,
        Option.pure_def, Editor.perform]
  | selectGrammar language => exact nothing_eq (selectGrammar_eq editor language)
  | selectGrammarById id =>
      simp only [perform, selectGrammarById_eq, Option.bind_eq_bind, Option.bind_some,
        Option.pure_def, Editor.perform]
  | setFileName path => exact nothing_eq (setFileName_eq editor path)
  | loadText text => exact nothing_eq (loadText_eq editor text)
  | openStream source =>
      simp only [perform, openStream_eq h.buffer, Option.bind_eq_bind, Option.bind_some,
        Editor.perform]
      obtain ⟨result, opened⟩ := editor.openStream source
      cases result with
      | error error => rfl
      | ok count => rfl
  | finishLoading =>
      simp only [perform, finishLoading_eq h.buffer, Option.bind_eq_bind, Option.bind_some,
        Option.pure_def, Editor.perform]
  | resize width height => exact nothing_eq (scrollToCursor_eq _)
  | goto line column => exact nothing_eq (goto_eq h.buffer line column)
  | markSaved => rfl
  | setStatus message => rfl
  | clearStatus => rfl
  | setDiagnostics diagnostics => exact nothing_eq (setDiagnostics_eq h.buffer diagnostics)
  | setFormatter formatter => rfl
  | formatWith formatter =>
      simp only [perform, formatWith_eq h.buffer, Option.bind_eq_bind, Option.bind_some,
        Option.pure_def, Editor.perform]
  | insertChar c => exact nothing_eq (insertChar_eq h c)
  | insertText text => exact nothing_eq (insertText_eq h.buffer text)
  | insertTab => exact nothing_eq (insertText_eq h.buffer _)
  | backspace => exact nothing_eq (backspace_eq h)
  | deleteForward => exact nothing_eq (deleteForward_eq h)
  | splitLine => exact nothing_eq (splitAtCursor_eq h)
  | moveLeft => exact nothing_eq (moveLeft_eq h.buffer)
  | moveRight => exact nothing_eq (moveRight_eq h.buffer)
  | moveUp => exact nothing_eq (moveUp_eq h.buffer)
  | moveDown => exact nothing_eq (moveDown_eq h.buffer)
  | pageUp => exact nothing_eq (pageUp_eq h.buffer)
  | pageDown => exact nothing_eq (pageDown_eq h.buffer)
  | moveHome => exact nothing_eq (jumpTo_eq h.buffer _ _)
  | moveEnd => exact nothing_eq (jumpTo_eq h.buffer _ _)
  | moveWordLeft => exact nothing_eq (moveWordLeft_eq h)
  | moveWordRight => exact nothing_eq (moveWordRight_eq h)

/-- No run of a sound editor takes a step out of range. -/
theorem performAll_eq (h : editor.Sound origin) (operations : List Operation) :
    performAll editor operations = some (editor.performAll operations) := by
  induction operations generalizing editor origin with
  | nil => rfl
  | cons operation operations ih =>
      simp only [performAll, perform_eq h, ih (h.perform operation), Option.bind_eq_bind,
        Option.bind_some, Option.pure_def, Editor.performAll]

/-- Whatever is done with a new editor, no step goes out of range; and afterwards the cursor is on a
line of the document, at a character boundary of that line, and its visual column is the one of this
place. -/
theorem performAll_new (settings : Settings) (operations : List Operation) :
    performAll (Editor.new settings) operations =
        some ((Editor.new settings).performAll operations) ∧
      let editor := ((Editor.new settings).performAll operations).2
      let line := editor.buffer.line editor.cursor.line
      editor.cursor.line < editor.buffer.length ∧
        editor.cursor.column ≤ line.size ∧
        line.isBoundary editor.cursor.column = true ∧
        editor.cursor.visualColumn =
          line.visualColumn editor.cursor.column editor.settings.tabWidth := by
  have hnew := Editor.sound_new settings
  have hcursor := (hnew.performAll operations).cursor
  refine ⟨performAll_eq hnew operations, hcursor.line_lt, ?_, hcursor.boundary,
    hcursor.visualColumn⟩
  exact Text.le_size_of_isBoundary hcursor.boundary

end TextEditor.Guarded
