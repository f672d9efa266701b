import TextEditor.Editor.Keys

/-!
# Operations of an editor

Everything that can be done with an editor, as one type. `Editor.perform` carries an operation out
and says what came of it; `Editor.performAll` carries out a whole list.
-/

namespace TextEditor

/-- An operation of an editor. -/
inductive Operation where
  | key (event : KeyEvent)
  | executeLine (line : Text)
  | selectGrammar (language : Language)
  | selectGrammarById (id : Text)
  | setFileName (path : Text)
  | loadText (text : Text)
  | openStream (source : LineSource)
  | finishLoading
  | resize (width height : Nat)
  | goto (line : Nat) (column : Option Nat)
  | markSaved
  | setStatus (message : String)
  | clearStatus
  | setDiagnostics (diagnostics : List Diagnostic)
  | setFormatter (formatter : Formatter)
  | formatWith (formatter : Formatter)
  | insertChar (c : Char)
  | insertText (text : Text)
  | insertTab
  | backspace
  | deleteForward
  | splitLine
  | moveLeft
  | moveRight
  | moveUp
  | moveDown
  | pageUp
  | pageDown
  | moveHome
  | moveEnd
  | moveWordLeft
  | moveWordRight

/-- What came of an operation. -/
inductive Outcome where
  | nothing
  | request (request : Request)
  | failed (error : EditorError)
  | loaded (count : Nat)
  | formatted (success : Bool)
  deriving DecidableEq, Repr

namespace Outcome

/-- The outcome of an operation that may ask something of the host. -/
def ofRequest? : Option Request → Outcome
  | some asked => request asked
  | none => nothing

/-- The outcome of an operation that may fail. -/
def ofResult : Except EditorError Unit → Outcome
  | .ok () => nothing
  | .error error => failed error

end Outcome

namespace Editor

/-- What comes of an operation, and the editor after it. -/
def perform (editor : Editor) : Operation → Outcome × Editor
  | .key event => let (asked, editor) := editor.handleKey event; (.ofRequest? asked, editor)
  | .executeLine line => let (asked, editor) := editor.executeLine line; (.ofRequest? asked, editor)
  | .selectGrammar language => (.nothing, editor.selectGrammar language)
  | .selectGrammarById id =>
      let (result, editor) := editor.selectGrammarById id
      (.ofResult result, editor)
  | .setFileName path => (.nothing, editor.setFileName path)
  | .loadText text => (.nothing, editor.loadText text)
  | .openStream source =>
      match editor.openStream source with
      | (.ok count, editor) => (.loaded count, editor)
      | (.error error, editor) => (.failed error, editor)
  | .finishLoading => let (result, editor) := editor.finishLoading; (.ofResult result, editor)
  | .resize width height => (.nothing, editor.resize width height)
  | .goto line column => (.nothing, editor.goto line column)
  | .markSaved => (.nothing, editor.markSaved)
  | .setStatus message => (.nothing, editor.setStatus message)
  | .clearStatus => (.nothing, editor.clearStatus)
  | .setDiagnostics diagnostics => (.nothing, editor.setDiagnostics diagnostics)
  | .setFormatter formatter => (.nothing, { editor with formatter := some formatter })
  | .formatWith formatter =>
      let (success, editor) := editor.formatWith formatter
      (.formatted success, editor)
  | .insertChar c => (.nothing, editor.insertChar c)
  | .insertText text => (.nothing, editor.insertText text)
  | .insertTab => (.nothing, editor.insertTab)
  | .backspace => (.nothing, editor.backspace)
  | .deleteForward => (.nothing, editor.deleteForward)
  | .splitLine => (.nothing, editor.splitLine)
  | .moveLeft => (.nothing, editor.moveLeft)
  | .moveRight => (.nothing, editor.moveRight)
  | .moveUp => (.nothing, editor.moveUp)
  | .moveDown => (.nothing, editor.moveDown)
  | .pageUp => (.nothing, editor.pageUp)
  | .pageDown => (.nothing, editor.pageDown)
  | .moveHome => (.nothing, editor.moveHome)
  | .moveEnd => (.nothing, editor.moveEnd)
  | .moveWordLeft => (.nothing, editor.moveWordLeft)
  | .moveWordRight => (.nothing, editor.moveWordRight)

/-- What comes of a list of operations, in order, and the editor after them. -/
def performAll (editor : Editor) : List Operation → List Outcome × Editor
  | [] => ([], editor)
  | operation :: operations =>
      let (outcome, editor) := editor.perform operation
      let (outcomes, editor) := editor.performAll operations
      (outcome :: outcomes, editor)

/-- The requests among outcomes, in order. -/
def requests (outcomes : List Outcome) : List Request :=
  outcomes.filterMap fun outcome => match outcome with
    | .request asked => some asked
    | _ => none

end Editor

end TextEditor
