import TextEditor.Editor.State

/-!
# Reaching a position

Moving the cursor first reads as many lines of a pending stream as are needed around the new
position, and then scrolls until the cursor is in view. Reading goes on until enough lines are there
or the stream has no more; a stream that fails is given up, and the failure shown.
-/

namespace TextEditor

namespace Editor

/-- The editor after a step of loading. -/
def absorb (editor : Editor) (loading : Loading) : Editor :=
  { editor with
    buffer := loading.buffer
    loader := some loading.loader
    status := match loading.result with
      | .ok _ => editor.status
      | .error error => some error.message
    journal := editor.journal ++ loading.records }

/-- Whether a line and the margin after it are loaded. -/
def hasLoaded (editor : Editor) (line : Nat) : Bool :=
  addCapped line editor.settings.prefetchMargin < editor.buffer.length

/-- The editor after at most `budget` steps of loading towards a line. -/
def loadTowards (line : Nat) : Nat → Editor → Editor
  | 0, editor => editor
  | budget + 1, editor =>
      if editor.hasLoaded line then editor
      else match editor.unfinished? with
        | none => editor
        | some loader =>
            let loading := loader.appendMore editor.buffer editor.settings.chunkLines
            match loading.result with
            | .ok (_ + 1) => loadTowards line budget (editor.absorb loading)
            | _ => editor.absorb loading

/-- The editor with a line and the margin after it loaded, as far as the stream goes. -/
def ensureLoaded (editor : Editor) (line : Nat) : Editor :=
  if editor.hasLoaded line then editor
  else editor.loadTowards line ((editor.loader.map Loader.pending).getD 0)

/-- The editor after at most `budget` steps of loading to the end of the stream, and why reading
failed, if it did. A batch without lines is taken for the end. -/
def loadRest : Nat → Editor → Except EditorError Unit × Editor
  | 0, editor => (.ok (), { editor with loader := editor.loader.map Loader.close })
  | budget + 1, editor =>
      match editor.unfinished? with
      | none => (.ok (), editor)
      | some loader =>
          let loading := loader.appendMore editor.buffer (max editor.settings.chunkLines 1)
          match loading.result with
          | .ok (_ + 1) => loadRest budget (editor.absorb loading)
          | .ok 0 => (.ok (), { editor.absorb loading with loader := some loading.loader.close })
          | .error error => (.error error, editor.absorb loading)

/-- Reads the stream to its end. -/
def finishLoading (editor : Editor) : Except EditorError Unit × Editor :=
  editor.loadRest ((editor.loader.map Loader.pending).getD 0 + 1)

/-- The editor scrolled until its cursor is in view. -/
def scrollToCursor (editor : Editor) : Editor :=
  { editor with
    viewport := editor.viewport.scrollTo editor.cursor.line editor.cursor.visualColumn }

/-- The editor with its cursor at a position, or as near as there is one. -/
def moveCursor (editor : Editor) (line column : Nat) : Editor :=
  let editor := editor.ensureLoaded line
  { editor with
    cursor := .place editor.buffer line column editor.settings.tabWidth }.scrollToCursor

/-- The editor with its cursor at a position that does not come from a vertical move. -/
def jumpTo (editor : Editor) (line column : Nat) : Editor :=
  { editor with goalColumn := none }.moveCursor line column

/-- The editor after its buffer has been edited, with the cursor at a position. -/
def afterEdit (editor : Editor) (buffer : LineBuffer) (line column : Nat) : Editor :=
  { editor with buffer := buffer, dirty := true }.jumpTo line column

end Editor

end TextEditor
