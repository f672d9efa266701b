import TextEditor.Buffer.Edit
import TextEditor.Editor.Diagnostic
import TextEditor.Editor.Formatter
import TextEditor.Editor.Settings
import TextEditor.Prompt.Encoding
import TextEditor.Prompt.LineSearch
import TextEditor.Screen.Viewport
import TextEditor.Stream.Loader

/-!
# The state of an editor

An editor is a document with a cursor, a window onto it, and a mode that says what keys mean. What
it needs of the world outside, such as writing a file, it asks of its host by a request.
-/

namespace TextEditor

/-- What keys mean: text, a command, the query of a search, the name of a file, or the answer to
whether to save before quitting. -/
inductive Mode where
  | editing
  | command
  | find
  | savePrompt
  | quitPrompt
  deriving DecidableEq, Repr

/-- The cursor: a line, a byte offset in it, and the column where that is shown. -/
structure Cursor where
  line : Nat
  column : Nat
  visualColumn : Nat
  deriving DecidableEq, Repr

/-- The cursor at a position of a buffer, moved back to a line that is there and to a character
boundary. -/
def Cursor.place (buffer : LineBuffer) (line column tabWidth : Nat) : Cursor :=
  let line := buffer.clampLine line
  let text := buffer.line line
  ⟨line, text.floor column, text.visualColumn column tabWidth⟩

/-- A document to be written to a file. -/
structure SaveRequest where
  path : Text
  contents : Text
  encoding : Encoding
  deriving DecidableEq, Repr

/-- What an editor asks of its host. -/
inductive Request where
  | save (request : SaveRequest)
  | saveAndQuit (request : SaveRequest)
  | quit
  | runTests
  deriving DecidableEq, Repr

/-- The state of an editor. -/
structure Editor where
  buffer : LineBuffer
  cursor : Cursor
  /-- The visual column that vertical moves aim at, once one has been made. -/
  goalColumn : Option Nat
  viewport : Viewport
  mode : Mode
  settings : Settings
  fileName : Option Text
  /-- Whether the document has been changed since it was loaded or saved. -/
  dirty : Bool
  encoding : Encoding
  diagnostics : List Diagnostic
  status : Option String
  /-- The text typed at a prompt. -/
  input : Text
  search : LineSearch
  /-- Whether saving from the prompt is followed by quitting. -/
  quitAfterSave : Bool
  /-- The stream that the document has been opened from; it may be read to its end. -/
  loader : Option Loader
  formatter : Option Formatter
  /-- The records of what has been done, the latest last. -/
  journal : List LogRecord

namespace Editor

/-- An editor of an empty document in plain text. -/
def new (settings : Settings) : Editor where
  buffer := .empty .plain
  cursor := ⟨0, 0, 0⟩
  goalColumn := none
  viewport := .new settings.screenWidth settings.textRows
  mode := .editing
  settings := settings
  fileName := none
  dirty := false
  encoding := .usual
  diagnostics := []
  status := none
  input := []
  search := .empty
  quitAfterSave := false
  loader := none
  formatter := none
  journal := []

/-- The language of the document. -/
def language (editor : Editor) : Language := editor.buffer.language

/-- The stream that lines of the document are still to be read from. -/
def unfinished? (editor : Editor) : Option Loader := editor.loader.filter (!·.isFinished)

/-- Whether lines of the document are still to be read. -/
def isStreaming (editor : Editor) : Bool := editor.unfinished?.isSome

/-- The text of the cursor's line. -/
def currentLine (editor : Editor) : Text := editor.buffer.line editor.cursor.line

/-- The editor with one more record in its journal. -/
def report (editor : Editor) (level : LogLevel) (message : String) : Editor :=
  { editor with journal := editor.journal ++ [⟨level, "editor", message⟩] }

/-- The editor with another buffer all of whose lines have been highlighted afresh. -/
def setBuffer (editor : Editor) (buffer : LineBuffer) : Editor :=
  { editor with buffer := buffer, journal := editor.journal ++ [buffer.retokenized] }

/-- The text of the status line: a diagnostic of the document or, if it has none, the last
message. -/
def statusLine (editor : Editor) : Option String :=
  (editor.fileName.bind fun path =>
    Diagnostic.status? editor.diagnostics path editor.cursor.line).or editor.status

/-- The column and row of the screen where the cursor is shown. -/
def cursorOnScreen? (editor : Editor) : Option (Nat × Nat) :=
  editor.viewport.toScreen? editor.cursor.line editor.cursor.visualColumn

end Editor

end TextEditor
