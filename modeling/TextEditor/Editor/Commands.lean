import TextEditor.Editor.Document
import TextEditor.Prompt.Command

/-!
# Carrying out commands

What the commands of the command line do. Saving and formatting first read the document to its end;
if that fails they do nothing more. A stream that has failed before is not read again: the lines
that came before the failure are then taken for the whole document.
-/

namespace TextEditor

namespace Editor

/-- The editor asking for a file name. -/
def promptSave (editor : Editor) (quitAfter : Bool) : Editor :=
  { editor with mode := .savePrompt, input := [], quitAfterSave := quitAfter }

/-- The request to save the document, if it has a name and can be read to its end. -/
def requestSave (editor : Editor) (quitAfter : Bool) : Option Request × Editor :=
  match editor.fileName with
  | none => (none, editor)
  | some path =>
      match editor.finishLoading with
      | (.error _, editor) => (none, editor)
      | (.ok (), editor) =>
          let request : SaveRequest := ⟨path, editor.buffer.serialize, editor.encoding⟩
          (some (if quitAfter then .saveAndQuit request else .save request), editor)

/-- The editor with its cursor on a line, counted from one, and at a byte offset in it. A line that
is not there stands for the cursor's line, a byte offset past the line for the cursor's. -/
def goto (editor : Editor) (line : Nat) (column : Option Nat) : Editor :=
  let editor := if 1 ≤ line then editor.ensureLoaded (line - 1) else editor
  let target := if 1 ≤ line ∧ line ≤ editor.buffer.length then line - 1 else editor.cursor.line
  let column := match column with
    | some column =>
        if column ≤ editor.buffer.lineSize target then column else editor.cursor.column
    | none => 0
  editor.jumpTo target column

/-- The editor with its document reformatted by a formatter, and whether that succeeded. -/
def formatWith (editor : Editor) (formatter : Formatter) : Bool × Editor :=
  match editor.finishLoading with
  | (.error _, editor) => (false, editor)
  | (.ok (), editor) =>
      match formatter.reformat editor.language editor.buffer.serialize with
      | .ok text =>
          let editor := editor.setBuffer (editor.buffer.replaceAll text)
          (true, { editor with dirty := false, status := none }.moveCursor editor.cursor.line
            editor.cursor.column)
      | .error error => (false, (editor.report .warn error.message).setStatus error.message)

/-- The editor with its document reformatted by the formatter it has, if that supports the
language. -/
def format (editor : Editor) : Editor :=
  match editor.formatter with
  | some formatter =>
      if formatter.supports editor.language then (editor.formatWith formatter).2
      else editor.setStatus ("No formatter for " ++ editor.language.displayName)
  | none => editor.setStatus ("No formatter for " ++ editor.language.displayName)

/-- What a command asks of the host, and the editor after it. -/
def execute (editor : Editor) : Command → Option Request × Editor
  | .quit =>
      if editor.dirty then (none, { editor with mode := .quitPrompt }) else (some .quit, editor)
  | .save (some path) => (editor.setFileName path).requestSave false
  | .save none =>
      (if editor.fileName.isNone then editor.promptSave false else editor).requestSave false
  | .goto line column => (none, editor.goto line column)
  | .setEncoding encoding =>
      (none, { editor with encoding := encoding }.setStatus ("Encoding: " ++ encoding.name))
  | .format => (none, editor.format)
  | .test => (some .runTests, editor)

/-- What a command line asks of the host, and the editor after it. -/
def executeLine (editor : Editor) (line : Text) : Option Request × Editor :=
  match Command.parse line with
  | .ok none => (none, editor)
  | .ok (some command) =>
      (editor.report .debug ("command: " ++ command.summary)).execute command
  | .error error => (none, (editor.report .debug error.message).setStatus error.message)

end Editor

end TextEditor
