import TextEditor.Editor.Commands
import TextEditor.Proofs.Guarded.Reach

/-!
# Documents and commands within range

What is done with the document as a whole, and what commands do, with every step guarded.

Main statements: `openStream_eq`, `requestSave_eq`, `goto_eq`, `formatWith_eq` and `executeLine_eq`.
-/

namespace TextEditor.Guarded

/-! ## The document as a whole -/

/-- The editor with its document in a language. -/
def selectGrammar (editor : Editor) (language : Language) : Option Editor :=
  if language = editor.language then some editor
  else do
    let buffer ← setHighlighter editor.buffer (.ofLanguage language)
    return (editor.setBuffer buffer).report .info ("grammar: " ++ language.displayName)

/-- The editor with its document in the language that an identifier names. -/
def selectGrammarById (editor : Editor) (id : Text) : Option (Except EditorError Unit × Editor) :=
  match Language.ofId? id with
  | some language => do return (.ok (), ← selectGrammar editor language)
  | none => some (.error (.unknownLanguage id), editor)

/-- The editor with another name for its document, which also chooses the language. -/
def setFileName (editor : Editor) (path : Text) : Option Editor := do
  return { (← selectGrammar editor (.ofPath path)) with fileName := some path }

/-- The editor with a text as its document and the cursor at its start. -/
def loadText (editor : Editor) (text : Text) : Option Editor := do
  let buffer ← replaceAll editor.buffer text
  let editor := { editor with loader := none }.setBuffer buffer
  jumpTo { editor with dirty := false } 0 0

/-- The editor with the first lines of a source as its document, and the number of lines read. -/
def openStream (editor : Editor) (source : LineSource) :
    Option (Except EditorError Nat × Editor) := do
  let loading ← loadInitial (Loader.new source) editor.buffer editor.settings.chunkLines
  match loading.result with
  | .ok count => return (.ok count, ← jumpTo { editor.absorb loading with dirty := false } 0 0)
  | .error error =>
      return (.error error, { editor with journal := editor.journal ++ loading.records })

/-- The editor for another size of the screen. -/
def resize (editor : Editor) (width height : Nat) : Option Editor :=
  let settings := editor.settings.withScreen width height
  scrollToCursor none { editor with
    settings := settings
    viewport := editor.viewport.resize width settings.textRows }

/-- The editor with other diagnostics and the cursor on the line of the first of them that is about
the document. -/
def setDiagnostics (editor : Editor) (diagnostics : List Diagnostic) : Option Editor :=
  let editor := { editor with diagnostics := diagnostics }
  match editor.firstDiagnosticLine? diagnostics with
  | some line => jumpTo editor line editor.cursor.column
  | none => some editor

/-! ## Commands -/

/-- The request to save the document, if it has a name and can be read to its end. -/
def requestSave (editor : Editor) (quitAfter : Bool) : Option (Option Request × Editor) :=
  match editor.fileName with
  | none => some (none, editor)
  | some path => do
      match ← finishLoading editor with
      | (.error _, editor) => return (none, editor)
      | (.ok (), editor) =>
          let request : SaveRequest := ⟨path, editor.buffer.serialize, editor.encoding⟩
          return (some (if quitAfter then .saveAndQuit request else .save request), editor)

/-- The editor with its cursor on a line, counted from one, and at a byte offset in it. -/
def goto (editor : Editor) (line : Nat) (column : Option Nat) : Option Editor := do
  let editor ← if 1 ≤ line then do ensureLoaded editor (← minus line 1) else some editor
  let target ←
    if 1 ≤ line ∧ line ≤ editor.buffer.length then minus line 1 else some editor.cursor.line
  let column := match column with
    | some column =>
        if column ≤ editor.buffer.lineSize target then column else editor.cursor.column
    | none => 0
  jumpTo editor target column

/-- The editor with its document reformatted by a formatter, and whether that succeeded. -/
def formatWith (editor : Editor) (formatter : Formatter) : Option (Bool × Editor) := do
  match ← finishLoading editor with
  | (.error _, editor) => return (false, editor)
  | (.ok (), editor) =>
      match formatter.reformat editor.language editor.buffer.serialize with
      | .ok text =>
          let editor := editor.setBuffer (← replaceAll editor.buffer text)
          return (true, ← moveCursor none { editor with dirty := false, status := none }
            editor.cursor.line editor.cursor.column)
      | .error error =>
          return (false, (editor.report .warn error.message).setStatus error.message)

/-- The editor with its document reformatted by the formatter it has. -/
def format (editor : Editor) : Option Editor :=
  match editor.formatter with
  | some formatter =>
      if formatter.supports editor.language then do return (← formatWith editor formatter).2
      else some (editor.setStatus ("No formatter for " ++ editor.language.displayName))
  | none => some (editor.setStatus ("No formatter for " ++ editor.language.displayName))

/-- What a command asks of the host, and the editor after it. -/
def execute (editor : Editor) : Command → Option (Option Request × Editor)
  | .quit =>
      if editor.dirty then some (none, { editor with mode := .quitPrompt })
      else some (some .quit, editor)
  | .save (some path) => do requestSave (← setFileName editor path) false
  | .save none =>
      requestSave (if editor.fileName.isNone then editor.promptSave false else editor) false
  | .goto line column => do return (none, ← goto editor line column)
  | .setEncoding encoding => some (none,
      { editor with encoding := encoding }.setStatus ("Encoding: " ++ encoding.name))
  | .format => do return (none, ← format editor)
  | .test => some (some .runTests, editor)

/-- What a command line asks of the host, and the editor after it. -/
def executeLine (editor : Editor) (line : Text) : Option (Option Request × Editor) :=
  match Command.parse line with
  | .ok none => some (none, editor)
  | .ok (some command) => execute (editor.report .debug ("command: " ++ command.summary)) command
  | .error error => some (none, (editor.report .debug error.message).setStatus error.message)

/-! ## Equations -/

variable {editor : Editor} {origin : Option LineSource}

/-- Another grammar can be selected. -/
@[simp] theorem selectGrammar_eq (editor : Editor) (language : Language) :
    selectGrammar editor language = some (editor.selectGrammar language) := by
  unfold selectGrammar Editor.selectGrammar
  split
  · rfl
  · rw [setHighlighter_eq]
    rfl

/-- A grammar can be asked for by its name, whether there is one or not. -/
@[simp] theorem selectGrammarById_eq (editor : Editor) (id : Text) :
    selectGrammarById editor id = some (editor.selectGrammarById id) := by
  unfold selectGrammarById Editor.selectGrammarById
  cases Language.ofId? id with
  | none => rfl
  | some language =>
      simp only [selectGrammar_eq, Option.bind_eq_bind, Option.bind_some, Option.pure_def]

/-- Any file name can be given. -/
@[simp] theorem setFileName_eq (editor : Editor) (path : Text) :
    setFileName editor path = some (editor.setFileName path) := by
  rw [setFileName, selectGrammar_eq]
  rfl

/-- Any text can be loaded. -/
@[simp] theorem loadText_eq (editor : Editor) (text : Text) :
    loadText editor text = some (editor.loadText text) := by
  rw [loadText, replaceAll_eq, Option.bind_eq_bind, Option.bind_some]
  apply jumpTo_eq
  exact LineBuffer.inStep_replaceLines _ _

/-- Any stream can be opened, also one that fails. -/
theorem openStream_eq (h : editor.buffer.InStep) (source : LineSource) :
    openStream editor source = some (editor.openStream source) := by
  unfold openStream Editor.openStream
  simp only [loadInitial_eq, Option.bind_eq_bind, Option.bind_some]
  have hread : { editor.absorb ((Loader.new source).loadInitial editor.buffer
      editor.settings.chunkLines) with dirty := false }.buffer.InStep :=
    Loader.inStep_loadInitial h _ _
  cases ((Loader.new source).loadInitial editor.buffer editor.settings.chunkLines).result with
  | error error => rfl
  | ok count => simp only [jumpTo_eq hread, Option.bind_some, Option.pure_def]

/-- Any diagnostics can be shown, also about lines that are not there. -/
theorem setDiagnostics_eq (h : editor.buffer.InStep) (diagnostics : List Diagnostic) :
    setDiagnostics editor diagnostics = some (editor.setDiagnostics diagnostics) := by
  have hnew : { editor with diagnostics := diagnostics }.buffer.InStep := h
  unfold setDiagnostics Editor.setDiagnostics
  simp only
  cases { editor with diagnostics := diagnostics }.firstDiagnosticLine? diagnostics with
  | none => rfl
  | some line => exact jumpTo_eq hnew ..

/-- A document can be saved, also if its stream fails. -/
theorem requestSave_eq (h : editor.buffer.InStep) (quitAfter : Bool) :
    requestSave editor quitAfter = some (editor.requestSave quitAfter) := by
  unfold requestSave Editor.requestSave
  cases editor.fileName with
  | none => rfl
  | some path =>
      simp only [finishLoading_eq h, Option.bind_eq_bind, Option.bind_some]
      obtain ⟨result, loaded⟩ := editor.finishLoading
      cases result with
      | error error => rfl
      | ok done =>
          cases done
          rfl

/-- The cursor can be sent to any line and column. -/
theorem goto_eq (h : editor.buffer.InStep) (line : Nat) (column : Option Nat) :
    goto editor line column = some (editor.goto line column) := by
  by_cases hline : 1 ≤ line
  · have hloaded := Editor.inStep_ensureLoaded h (line - 1)
    simp only [goto, Editor.goto, if_pos hline, minus_of_le hline, ensureLoaded_eq h,
      jumpTo_eq hloaded, Option.bind_eq_bind, Option.bind_some]
    split
    · rfl
    · rfl
  · have hout : ¬(1 ≤ line ∧ line ≤ editor.buffer.length) := fun hin => hline hin.1
    simp only [goto, Editor.goto, if_neg hline, if_neg hout, Option.bind_eq_bind,
      Option.bind_some]
    exact jumpTo_eq h ..

/-- Any formatter can be applied. -/
theorem formatWith_eq (h : editor.buffer.InStep) (formatter : Formatter) :
    formatWith editor formatter = some (editor.formatWith formatter) := by
  unfold formatWith Editor.formatWith
  simp only [finishLoading_eq h, Option.bind_eq_bind, Option.bind_some]
  obtain ⟨result, loaded⟩ := editor.finishLoading
  cases result with
  | error error => rfl
  | ok done =>
      cases done
      simp only
      cases formatter.reformat loaded.language loaded.buffer.serialize with
      | error error => rfl
      | ok text =>
          have hreplaced : { loaded.setBuffer (loaded.buffer.replaceAll text) with
              dirty := false, status := none }.buffer.InStep :=
            LineBuffer.inStep_replaceLines _ _
          simp only [replaceAll_eq, moveCursor_eq hreplaced, Option.bind_some, Option.pure_def]

/-- The command to format can be carried out, whatever formatter there is. -/
theorem format_eq (h : editor.buffer.InStep) : format editor = some editor.format := by
  unfold format Editor.format
  cases editor.formatter with
  | none => rfl
  | some formatter =>
      simp only [formatWith_eq h, Option.bind_eq_bind, Option.bind_some, Option.pure_def]
      split
      · rfl
      · rfl

/-- Every command can be carried out. -/
theorem execute_eq (h : editor.Sound origin) (command : Command) :
    execute editor command = some (editor.execute command) := by
  cases command with
  | quit =>
      simp only [execute, Editor.execute]
      split
      · rfl
      · rfl
  | save path =>
      cases path with
      | some path =>
          simp only [execute, setFileName_eq, requestSave_eq (h.setFileName path).buffer,
            Option.bind_eq_bind, Option.bind_some, Editor.execute]
      | none =>
          -- asking for a name first changes nothing that saving goes by
          apply requestSave_eq
          split
          · exact h.buffer
          · exact h.buffer
  | goto line column =>
      simp only [execute, goto_eq h.buffer, Option.bind_eq_bind, Option.bind_some,
        Option.pure_def, Editor.execute]
  | setEncoding encoding => rfl
  | format =>
      simp only [execute, format_eq h.buffer, Option.bind_eq_bind, Option.bind_some,
        Option.pure_def, Editor.execute]
  | test => rfl

/-- Every line at the prompt for commands can be carried out. -/
theorem executeLine_eq (h : editor.Sound origin) (line : Text) :
    executeLine editor line = some (editor.executeLine line) := by
  unfold executeLine Editor.executeLine
  cases Command.parse line with
  | error error => rfl
  | ok parsed =>
      cases parsed with
      | none => rfl
      | some command =>
          apply execute_eq
          exact ⟨h.buffer, h.cursor, h.loader⟩

end TextEditor.Guarded
