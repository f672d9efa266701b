import TextEditor.Buffer.View
import TextEditor.Editor.State
import TextEditor.Text.Quoted

/-!
# What an editor shows

The lines in view, what each shows, and a one-line account of the editor as a whole.
-/

namespace TextEditor

/-- The one-word name of a mode. -/
def Mode.summaryName : Mode → String
  | .editing => "Editing"
  | .command => "Command"
  | .find => "Find"
  | .savePrompt => "SavePrompt"
  | .quitPrompt => "QuitPrompt"

namespace Editor

/-- The lines in view. -/
def visibleLines (editor : Editor) : List LineView :=
  let (start, stop) := editor.viewport.rows editor.buffer.length
  editor.buffer.views start stop

/-- What a line shows in the window; nothing past the end. -/
def renderLine (editor : Editor) (line : Nat) : List Segment :=
  match editor.buffer.view? line with
  | some view => view.segments editor.viewport.left editor.viewport.width editor.settings.tabWidth
  | none => []

/-- A one-line account of an editor. -/
def summary (editor : Editor) : String :=
  let fileName := match editor.fileName with
    | some path => "Some(" ++ path.quoted ++ ")"
    | none => "None"
  "Editor \x7b language: " ++ editor.language.summaryName ++
    ", lines: " ++ toString editor.buffer.length ++
    ", cursor: Cursor \x7b line: " ++ toString editor.cursor.line ++
    ", column: " ++ toString editor.cursor.column ++
    ", visual_column: " ++ toString editor.cursor.visualColumn ++
    " \x7d, mode: " ++ editor.mode.summaryName ++
    ", dirty: " ++ toString editor.dirty ++
    ", file_name: " ++ fileName ++
    ", streaming: " ++ toString editor.isStreaming ++ ", .. \x7d"

end Editor

end TextEditor
