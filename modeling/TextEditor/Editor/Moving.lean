import TextEditor.Editor.Reach
import TextEditor.Typing.WordJump
import TextEditor.Unicode.Clusters

/-!
# Moving

The moves of the cursor. Moves to the left and right go by clusters and cross line ends. Vertical
moves aim at the column where the first of them began, whatever lines they cross; any other move
lets go of that column.
-/

namespace TextEditor

namespace Editor

/-- The editor with its cursor one cluster to the left, or at the end of the line before. -/
def moveLeft (editor : Editor) : Editor :=
  let line := editor.cursor.line
  let column := editor.cursor.column
  if 0 < column then editor.jumpTo line (editor.currentLine.previousCluster column)
  else if 0 < line then editor.jumpTo (line - 1) (editor.buffer.lineSize (line - 1))
  else { editor with goalColumn := none }

/-- The editor with its cursor one cluster to the right, or at the start of the next line. -/
def moveRight (editor : Editor) : Editor :=
  let line := editor.cursor.line
  let column := editor.cursor.column
  if column < editor.currentLine.size then
    editor.jumpTo line (editor.currentLine.nextCluster column)
  else if line + 1 < editor.buffer.length then editor.jumpTo (line + 1) 0
  else { editor with goalColumn := none }

/-- The column that the next vertical move aims at. -/
def aim (editor : Editor) : Nat := editor.goalColumn.getD editor.cursor.visualColumn

/-- The editor with its cursor on another line, as near to the column aimed at as that allows. -/
def moveVertically (editor : Editor) (line : Nat) : Editor :=
  let goal := editor.aim
  let editor := { editor with goalColumn := some goal }.ensureLoaded line
  let line := editor.buffer.clampLine line
  editor.moveCursor line
    ((editor.buffer.line line).byteForColumn goal editor.settings.tabWidth)

/-- The editor with its cursor one line up. -/
def moveUp (editor : Editor) : Editor :=
  if 0 < editor.cursor.line then editor.moveVertically (editor.cursor.line - 1) else editor

/-- The editor with its cursor one line down. -/
def moveDown (editor : Editor) : Editor :=
  let line := editor.cursor.line + 1
  let editor := editor.ensureLoaded line
  if line < editor.buffer.length then editor.moveVertically line else editor

/-- Number of lines that a page move goes over. -/
def pageRows (editor : Editor) : Nat := max (editor.viewport.height - 1) 1

/-- The editor with its cursor one page up. -/
def pageUp (editor : Editor) : Editor :=
  editor.moveVertically (editor.cursor.line - editor.pageRows)

/-- The editor with its cursor one page down. -/
def pageDown (editor : Editor) : Editor :=
  editor.moveVertically (editor.cursor.line + editor.pageRows)

/-- The editor with its cursor at the start of its line. -/
def moveHome (editor : Editor) : Editor := editor.jumpTo editor.cursor.line 0

/-- The editor with its cursor at the end of its line. -/
def moveEnd (editor : Editor) : Editor :=
  editor.jumpTo editor.cursor.line editor.currentLine.size

/-- The editor with its cursor at the start of the word before it, on the same line. -/
def moveWordLeft (editor : Editor) : Editor :=
  editor.jumpTo editor.cursor.line (editor.currentLine.previousWordStart editor.cursor.column)

/-- The editor with its cursor at the end of the word after it, on the same line. -/
def moveWordRight (editor : Editor) : Editor :=
  editor.jumpTo editor.cursor.line (editor.currentLine.nextWordEnd editor.cursor.column)

end Editor

end TextEditor
