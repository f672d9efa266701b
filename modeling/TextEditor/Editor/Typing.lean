import TextEditor.Editor.Reach
import TextEditor.Typing.Indentation
import TextEditor.Unicode.Clusters

/-!
# Typing

What typing, deleting and splitting lines do to the document at the cursor. Typing closes pairs and
lets a closing bracket fall back to the indentation of its opener; deleting takes whole clusters,
and both brackets of an empty pair; a split line continues with the indentation that its language
asks for.
-/

namespace TextEditor

namespace Editor

/-- The editor with a text inserted at the cursor. -/
def insertText (editor : Editor) (text : Text) : Editor :=
  if text.isEmpty then editor
  else
    let (position, buffer) := editor.buffer.insert editor.cursor.line editor.cursor.column text
    editor.afterEdit buffer position.line position.column

/-- The editor with a tab inserted at the cursor. -/
def insertTab (editor : Editor) : Editor := editor.insertText ['\t']

/-- The editor with the line split between the brackets around the cursor: the closing bracket goes
two lines down, and the cursor to an indented line between. -/
def splitBrackets (editor : Editor) : Editor :=
  let line := editor.cursor.line
  let column := editor.cursor.column
  let text := editor.currentLine
  let inner := text.leadingBlanks ++ editor.settings.indentUnit
  let closing := text.leadingBlanks ++ text.after column
  let buffer := (editor.buffer.removeRange line column text.size).2
  editor.afterEdit (buffer.insertLinesAfter line [inner, closing]) (line + 1) inner.size

/-- The indentation of the line that a split at byte `column` of a line makes. -/
def splitIndent (editor : Editor) (text : Text) (column : Nat) : Text :=
  let indent := editor.buffer.highlighter.grammar.indent.nextIndent (text.before column)
    editor.settings.indentUnit
  if editor.settings.autoDedent &&
      (Text.trimLeft (text.after column)).head?.any isClosingBracket then
    indent.dedent editor.settings.tabWidth
  else indent

/-- The editor with the line split at the cursor, and the second part indented. -/
def splitLine (editor : Editor) : Editor :=
  let line := editor.cursor.line
  let column := editor.cursor.column
  let text := editor.currentLine
  if editor.settings.bracketSplit &&
      (CharPair.around? editor.settings.pairs text column).isSome then
    editor.splitBrackets
  else
    let indent := editor.splitIndent text column
    let (newLine, buffer) := editor.buffer.splitLine line column indent
    editor.afterEdit buffer newLine indent.size

/-- Whether a closing bracket typed at byte `column` of a line has only blanks before it. -/
def dedentsAt (editor : Editor) (text : Text) (column : Nat) (c : Char) : Bool :=
  let before := text.before column
  editor.settings.autoDedent && isClosingBracket c && !before.isEmpty && before.all isIndentChar

/-- The editor with one level of indentation taken off before the cursor, and where the cursor then
belongs. -/
def dedentCursor (editor : Editor) : Nat × Editor :=
  let column := editor.cursor.column
  let keep := ((editor.currentLine.before column).dedent editor.settings.tabWidth).size
  (keep, { editor with
    buffer := (editor.buffer.removeRange editor.cursor.line keep column).2, dirty := true })

/-- The editor with a character typed at byte `column` of the cursor's line, and its closer or none
or no character at all, as the pairs have it. -/
def typeAt (editor : Editor) (column : Nat) (c : Char) : Editor :=
  let line := editor.cursor.line
  let action :=
    if editor.settings.autoClose then
      CharPair.action editor.settings.pairs editor.currentLine column c
    else .insert
  let typed (text : Text) : Editor :=
    editor.afterEdit (editor.buffer.insert line column text).2 line (column + c.utf8Size)
  match action with
  | .insert => typed [c]
  | .autoClose closer => typed [c, closer]
  | .skipOver => editor.jumpTo line (column + c.utf8Size)

/-- The editor with a character typed at the cursor; a line terminator splits the line. -/
def insertChar (editor : Editor) (c : Char) : Editor :=
  if isTerminator c then editor.splitLine
  else if editor.dedentsAt editor.currentLine editor.cursor.column c then
    let (column, editor) := editor.dedentCursor
    editor.typeAt column c
  else editor.typeAt editor.cursor.column c

/-- The editor with the cluster before the cursor deleted, or both brackets around it, or the line
break before it. -/
def backspace (editor : Editor) : Editor :=
  let line := editor.cursor.line
  let column := editor.cursor.column
  if column = 0 then
    if line = 0 then editor
    else match editor.buffer.joinWithNext (line - 1) with
      | some (join, buffer) => editor.afterEdit buffer (line - 1) join
      | none => editor
  else
    let text := editor.currentLine
    match CharPair.around? editor.settings.pairs text column with
    | some (opener, closer) =>
        let start := column - opener.utf8Size
        editor.afterEdit (editor.buffer.removeRange line start (column + closer.utf8Size)).2 line
          start
    | none =>
        let start := text.previousCluster column
        editor.afterEdit (editor.buffer.removeRange line start column).2 line start

/-- The editor with the cluster after the cursor deleted, or the line break after it. -/
def deleteForward (editor : Editor) : Editor :=
  let line := editor.cursor.line
  let column := editor.cursor.column
  let text := editor.currentLine
  if column < text.size then
    editor.afterEdit (editor.buffer.removeRange line column (text.nextCluster column)).2 line column
  else match editor.buffer.joinWithNext line with
    | some (_, buffer) => editor.afterEdit buffer line column
    | none => editor

end Editor

end TextEditor
