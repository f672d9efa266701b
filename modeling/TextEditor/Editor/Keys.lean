import TextEditor.Editor.Commands
import TextEditor.Editor.Moving
import TextEditor.Editor.Typing
import TextEditor.Key

/-!
# Keys in each mode

A key edits the document, or what is typed at the prompt, as the mode has it. Control with `f`
begins a search and control with `e` a command; escape leads back to editing.
-/

namespace TextEditor

namespace Editor

/-- The editor after a key in editing mode. -/
def editingKey (editor : Editor) (event : KeyEvent) : Editor :=
  if event.isCtrlChar 'f' then { editor with mode := .find, search := .empty }
  else if event.isCtrlChar 'e' then { editor with mode := .command, input := [] }
  else match event.key with
    | .left => if event.jumpsWords then editor.moveWordLeft else editor.moveLeft
    | .right => if event.jumpsWords then editor.moveWordRight else editor.moveRight
    | .up => editor.moveUp
    | .down => editor.moveDown
    | .home => editor.moveHome
    | .lineEnd => editor.moveEnd
    | .pageUp => editor.pageUp
    | .pageDown => editor.pageDown
    | .enter => editor.splitLine
    | .backspace => editor.backspace
    | .delete => editor.deleteForward
    | .tab => editor.insertTab
    | .escape | .char _ =>
        match event.typed? with
        | some c => editor.insertChar c
        | none => editor

/-- The editor with a key typed at a prompt: backspace takes the last character off. -/
def promptKey (editor : Editor) (event : KeyEvent) : Editor :=
  match event.key with
  | .backspace => { editor with input := editor.input.dropLast }
  | _ => { editor with input := editor.input ++ event.typed?.toList }

/-- The editor after a key in command mode, and what the command asks of the host. -/
def commandKey (editor : Editor) (event : KeyEvent) : Option Request × Editor :=
  match event.key with
  | .escape => (none, { editor with mode := .editing, input := [] })
  | .enter => { editor with mode := .editing, input := [] }.executeLine editor.input
  | _ => (none, editor.promptKey event)

/-- The editor with its cursor at the query in the selected line of the search, if there is one. -/
def gotoResult (editor : Editor) : Editor :=
  match editor.search.line? with
  | none => editor
  | some line =>
      editor.jumpTo line ((Text.find? editor.search.query (editor.buffer.line line)).getD 0)

/-- The editor after a key in find mode. -/
def findKey (editor : Editor) (event : KeyEvent) : Editor :=
  match event.key with
  | .escape | .enter => { editor with mode := .editing }
  | .backspace => { editor with search := editor.search.pop editor.buffer }.gotoResult
  | .down | .right => { editor with search := editor.search.next }.gotoResult
  | .up | .left => { editor with search := editor.search.previous }.gotoResult
  | _ =>
      match event.typed? with
      | some c => { editor with search := editor.search.push c editor.buffer }.gotoResult
      | none => editor

/-- The editor after a key at the prompt for a file name, and the request to save that the name
leads to. -/
def savePromptKey (editor : Editor) (event : KeyEvent) : Option Request × Editor :=
  match event.key with
  | .escape => (none, { editor with mode := .editing, input := [], quitAfterSave := false })
  | .enter =>
      let name := editor.input.trim
      let quitAfter := editor.quitAfterSave
      let editor := { editor with mode := .editing, input := [], quitAfterSave := false }
      if name.isEmpty then (none, editor) else (editor.setFileName name).requestSave quitAfter
  | _ => (none, editor.promptKey event)

/-- The editor after the answer to whether to save before quitting: `n` quits, any other key
saves. -/
def quitPromptKey (editor : Editor) (event : KeyEvent) : Option Request × Editor :=
  let editor := { editor with mode := .editing }
  if event.key = .char 'n' ∨ event.key = .char 'N' then (some .quit, editor)
  else if editor.fileName.isSome then editor.requestSave true
  else (none, editor.promptSave true)

/-- What a key asks of the host, and the editor after it. -/
def handleKey (editor : Editor) (event : KeyEvent) : Option Request × Editor :=
  match editor.mode with
  | .editing => (none, editor.editingKey event)
  | .command => editor.commandKey event
  | .find => (none, editor.findKey event)
  | .savePrompt => editor.savePromptKey event
  | .quitPrompt => editor.quitPromptKey event

end Editor

end TextEditor
