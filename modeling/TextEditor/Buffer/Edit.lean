import TextEditor.Buffer.Basic

/-!
# Editing a buffer

The operations that change a buffer. Each puts right the lines that it touches, and with them their
tokens and regions; `BufferEdit` lists the operations, and `BufferEdit.run` performs one.
-/

namespace TextEditor

/-- The list with more items before the one at `index`. -/
def insertItems {α : Type} (items : List α) (index : Nat) (more : List α) : List α :=
  items.take index ++ more ++ items.drop index

/-- The lines with `tail` after the last of them. -/
def extendLast (tail : Text) : List Text → List Text
  | [] => []
  | [last] => [last ++ tail]
  | line :: lines => line :: extendLast tail lines

namespace LineBuffer

/-- The buffer with the tokens and regions of a line found afresh. -/
def rehighlight (buffer : LineBuffer) (index : Nat) : LineBuffer :=
  let found := buffer.highlighter.highlight (buffer.line index)
  { buffer with
    tokenLists := buffer.tokenLists.set index found.tokens
    regionLists := buffer.regionLists.set index found.regions }

/-- The buffer with the tokens and regions of all lines found afresh. -/
def rehighlightAll (buffer : LineBuffer) : LineBuffer :=
  let found := buffer.lines.map buffer.highlighter.highlight
  { buffer with
    tokenLists := found.map (·.tokens)
    regionLists := found.map (·.regions) }

/-- The buffer with another text in a line. -/
def setLine (buffer : LineBuffer) (index : Nat) (text : Text) : LineBuffer :=
  { buffer with lines := buffer.lines.set index text }.rehighlight index

/-- The buffer with more lines after one. -/
def insertLinesAfter (buffer : LineBuffer) (line : Nat) (texts : List Text) : LineBuffer :=
  let index := buffer.clampLine line + 1
  let lines := Text.flattenLines texts
  let found := lines.map buffer.highlighter.highlight
  { buffer with
    lines := insertItems buffer.lines index lines
    tokenLists := insertItems buffer.tokenLists index (found.map (·.tokens))
    regionLists := insertItems buffer.regionLists index (found.map (·.regions)) }

/-- The buffer without one of its lines. -/
def eraseLine (buffer : LineBuffer) (index : Nat) : LineBuffer :=
  { buffer with
    lines := buffer.lines.eraseIdx index
    tokenLists := buffer.tokenLists.eraseIdx index
    regionLists := buffer.regionLists.eraseIdx index }

/-- The buffer with a text inserted, and the position after the text. Of a text with terminators
the first line stays on the line where it is inserted, and what stood behind goes after the last. -/
def insert (buffer : LineBuffer) (line column : Nat) (text : Text) : Position × LineBuffer :=
  let line := buffer.clampLine line
  let old := buffer.line line
  let head := old.before column
  let tail := old.after column
  if !text.hasTerminator then
    (⟨line, head.size + text.size⟩, buffer.setLine line (head ++ text ++ tail))
  else
    let parts := Text.splitLines text
    let rest := parts.tail
    (⟨line + rest.length, (rest.getLastD []).size⟩,
      (buffer.setLine line (head ++ parts.headD [])).insertLinesAfter line (extendLast tail rest))

/-- The buffer with a stretch of a line removed, and what has been removed. -/
def removeRange (buffer : LineBuffer) (line start stop : Nat) : Text × LineBuffer :=
  let line := buffer.clampLine line
  let old := buffer.line line
  let stop := old.floor stop
  let start := min (old.floor start) stop
  if start = stop then ([], buffer)
  else (old.between start stop, buffer.setLine line (old.before start ++ old.after stop))

/-- The buffer with another text in place of a line. -/
def replaceLine (buffer : LineBuffer) (line : Nat) (text : Text) : LineBuffer :=
  let line := buffer.clampLine line
  ({ buffer with lines := buffer.lines.set line [] }.insert line 0 text).2

/-- The buffer with a line split in two, the second part after `lead`; and the number of the line
after the first part. -/
def splitLine (buffer : LineBuffer) (line column : Nat) (lead : Text) : Nat × LineBuffer :=
  let line := buffer.clampLine line
  let old := buffer.line line
  (line + 1,
    (buffer.setLine line (old.before column)).insertLinesAfter line [lead ++ old.after column])

/-- The buffer with a line and the next made one, and the size that the line had; `none` for the
last line. The number of the next line may be any here; `Guarded.joinWithNext` has a value only if
it is an offset. -/
def joinWithNext (buffer : LineBuffer) (line : Nat) : Option (Nat × LineBuffer) :=
  if line + 1 < buffer.length then
    some (buffer.lineSize line,
      (buffer.eraseLine (line + 1)).setLine line (buffer.line line ++ buffer.line (line + 1)))
  else none

/-- The buffer with more lines at its end, and their number. -/
def appendLines (buffer : LineBuffer) (texts : List Text) : Nat × LineBuffer :=
  let longer := buffer.insertLinesAfter (buffer.length - 1) (Text.flattenLines texts)
  (longer.length - buffer.length, longer)

/-- The buffer with other lines; no line stands for one empty line. -/
def replaceLines (buffer : LineBuffer) (texts : List Text) : LineBuffer :=
  let lines := Text.flattenLines texts
  let lines := if lines.isEmpty then [[]] else lines
  { buffer with lines := lines }.rehighlightAll

/-- The buffer with another text. -/
def replaceAll (buffer : LineBuffer) (text : Text) : LineBuffer :=
  buffer.replaceLines (Text.splitLines text)

/-- The buffer with another highlighter. -/
def setHighlighter (buffer : LineBuffer) (highlighter : Highlighter) : LineBuffer :=
  { buffer with highlighter := highlighter }.rehighlightAll

/-- A buffer of a text. -/
def ofText (text : Text) (highlighter : Highlighter) : LineBuffer :=
  (empty highlighter).replaceAll text

end LineBuffer

/-- An operation on a buffer. -/
inductive BufferEdit where
  | insert (line column : Nat) (text : Text)
  | removeRange (line start stop : Nat)
  | replaceLine (line : Nat) (text : Text)
  | splitLine (line column : Nat) (lead : Text)
  | insertLinesAfter (line : Nat) (texts : List Text)
  | joinWithNext (line : Nat)
  | appendLines (texts : List Text)
  | replaceLines (texts : List Text)
  | replaceAll (text : Text)
  | setHighlighter (highlighter : Highlighter)

/-- What an operation on a buffer tells besides the new buffer. -/
inductive EditResult where
  | nothing
  | position (position : Position)
  | text (text : Text)
  | number (n : Nat)
  deriving DecidableEq, Repr

namespace BufferEdit

/-- The result of an operation, the new buffer, and the records of what has been done. -/
def run (edit : BufferEdit) (buffer : LineBuffer) : EditResult × LineBuffer × List LogRecord :=
  match edit with
  | insert line column text =>
      let (position, buffer) := buffer.insert line column text
      (.position position, buffer, [])
  | removeRange line start stop =>
      let (text, buffer) := buffer.removeRange line start stop
      (.text text, buffer, [])
  | replaceLine line text => (.nothing, buffer.replaceLine line text, [])
  | splitLine line column lead =>
      let (index, buffer) := buffer.splitLine line column lead
      (.number index, buffer, [])
  | insertLinesAfter line texts => (.nothing, buffer.insertLinesAfter line texts, [])
  | joinWithNext line =>
      match buffer.joinWithNext line with
      | some (size, buffer) => (.number size, buffer, [])
      | none => (.nothing, buffer, [])
  | appendLines texts =>
      let (count, buffer) := buffer.appendLines texts
      (.number count, buffer, [])
  | replaceLines texts =>
      let buffer := buffer.replaceLines texts
      (.nothing, buffer, [buffer.retokenized])
  | replaceAll text =>
      let buffer := buffer.replaceAll text
      (.nothing, buffer, [buffer.retokenized])
  | setHighlighter highlighter =>
      let buffer := buffer.setHighlighter highlighter
      (.nothing, buffer, [buffer.retokenized])

end BufferEdit

end TextEditor
