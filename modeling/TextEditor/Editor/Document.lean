import TextEditor.Editor.Reach

/-!
# The document as a whole

Choosing the language and the name of the document, loading its text at once or from a stream, and
what the host reports back: that the file has been written, and what is wrong in it.
-/

namespace TextEditor

namespace Editor

/-- The editor with its document in a language. -/
def selectGrammar (editor : Editor) (language : Language) : Editor :=
  if language = editor.language then editor
  else (editor.setBuffer (editor.buffer.setHighlighter (.ofLanguage language))).report .info
    ("grammar: " ++ language.displayName)

/-- The editor with its document in the language that an identifier names. -/
def selectGrammarById (editor : Editor) (id : Text) : Except EditorError Unit × Editor :=
  match Language.ofId? id with
  | some language => (.ok (), editor.selectGrammar language)
  | none => (.error (.unknownLanguage id), editor)

/-- The editor with another name for its document, which also chooses the language. -/
def setFileName (editor : Editor) (path : Text) : Editor :=
  { editor.selectGrammar (.ofPath path) with fileName := some path }

/-- The editor with a text as its document and the cursor at its start. -/
def loadText (editor : Editor) (text : Text) : Editor :=
  let editor := { editor with loader := none }.setBuffer (editor.buffer.replaceAll text)
  { editor with dirty := false }.jumpTo 0 0

/-- The editor with the first lines of a source as its document and the others to come, the cursor
at its start, and the number of lines read. If reading fails, the document stays. -/
def openStream (editor : Editor) (source : LineSource) : Except EditorError Nat × Editor :=
  let loading := (Loader.new source).loadInitial editor.buffer editor.settings.chunkLines
  match loading.result with
  | .ok count =>
      (.ok count, { editor.absorb loading with dirty := false }.jumpTo 0 0)
  | .error error =>
      (.error error, { editor with journal := editor.journal ++ loading.records })

/-- The editor for another size of the screen. -/
def resize (editor : Editor) (width height : Nat) : Editor :=
  let settings := editor.settings.withScreen width height
  { editor with
    settings := settings
    viewport := editor.viewport.resize width settings.textRows }.scrollToCursor

/-- The editor after the host has written the document. -/
def markSaved (editor : Editor) : Editor :=
  { editor with
    dirty := false
    status := match editor.fileName with
      | some path => some ("Saved " ++ String.ofList path)
      | none => editor.status }

/-- The editor with a message for the status line. -/
def setStatus (editor : Editor) (message : String) : Editor :=
  { editor with status := some message }

/-- The editor without a message for the status line. -/
def clearStatus (editor : Editor) : Editor := { editor with status := none }

/-- The line of the first of the diagnostics that is about the document and in its loaded lines. -/
def firstDiagnosticLine? (editor : Editor) (diagnostics : List Diagnostic) : Option Nat :=
  editor.fileName.bind fun path =>
    ((Diagnostic.forFile diagnostics path).map (·.line)).find? (· < editor.buffer.length)

/-- The editor with other diagnostics and the cursor on the line of the first of them that is about
the document. -/
def setDiagnostics (editor : Editor) (diagnostics : List Diagnostic) : Editor :=
  let editor := { editor with diagnostics := diagnostics }
  match editor.firstDiagnosticLine? diagnostics with
  | some line => editor.jumpTo line editor.cursor.column
  | none => editor

end Editor

end TextEditor
