import TextEditor.Proofs.Buffer.InStep

/-!
# A buffer as one text

The whole text of a buffer around one of its lines: the lines ahead of it, each with its line feed,
the line, and the lines behind it, each after its line feed. `offset` counts the bytes of the whole
text up to a column of a line; cutting the whole text there is cutting the line at the column.

Main statements: `serialize_eq`, `serialize_setLine`, `serialize_insertLinesAfter`, and
`serialize_eq_cut` with `offset_eq_size`.
-/

namespace TextEditor.LineBuffer

variable {buffer : LineBuffer} {index : Nat}

/-- The lines ahead of one, each with its line feed. -/
def textAhead (buffer : LineBuffer) (index : Nat) : Text :=
  (buffer.lines.take index).flatMap (· ++ ['\n'])

/-- The lines behind one, each after its line feed. -/
def textBehind (buffer : LineBuffer) (index : Nat) : Text :=
  (buffer.lines.drop (index + 1)).flatMap ('\n' :: ·)

/-- The byte of the whole text where a column of a line stands. -/
def offset (buffer : LineBuffer) (line column : Nat) : Nat :=
  let line := buffer.clampLine line
  (buffer.textAhead line).size + (buffer.line line).floor column

/-- The offset of a column of a line that is there, without moving the line number back. -/
theorem offset_of_lt (h : index < buffer.length) (column : Nat) :
    buffer.offset index column =
      (buffer.textAhead index).size + (buffer.line index).floor column := by
  rw [offset, clampLine_of_lt h]

/-- A boundary of a line is as many bytes behind the lines ahead. -/
theorem offset_of_isBoundary {column : Nat} (hindex : index < buffer.length)
    (hcolumn : (buffer.line index).isBoundary column = true) :
    buffer.offset index column = (buffer.textAhead index).size + column := by
  rw [offset_of_lt hindex, Text.floor_eq_of_isBoundary hcolumn]

/-- The whole text in three pieces around a line. -/
theorem serialize_eq (h : index < buffer.length) :
    buffer.serialize =
      buffer.textAhead index ++ (buffer.line index ++ buffer.textBehind index) := by
  have hjoin := Text.joinLines_append_cons (buffer.lines.take index)
    (buffer.lines.drop (index + 1)) (buffer.line index)
  rwa [← lines_eq_append h] at hjoin

/-- Behind a line come its line feed and the next line. -/
theorem textBehind_eq {index : Nat} (h : index + 1 < buffer.length) :
    buffer.textBehind index =
      '\n' :: (buffer.line (index + 1) ++ buffer.textBehind (index + 1)) := by
  have hdrop := List.drop_eq_getElem_cons (show index + 1 < buffer.lines.length from h)
  rw [textBehind, hdrop, List.flatMap_cons, line_of_lt h, textBehind]
  rfl

/-! ## Lines in the list -/

section LinesEq

variable {front back : List Text} {line : Text} (h : buffer.lines = front ++ line :: back)
include h

/-- A buffer is as long as the lines ahead of one, that line, and the lines behind it. -/
theorem length_of_lines_eq : buffer.length = front.length + (back.length + 1) := by
  rw [length, h, List.length_append, List.length_cons]

/-- The line behind so many others has their number as its index. -/
theorem line_of_lines_eq : buffer.line front.length = line := by
  simp [LineBuffer.line, line?, h]

/-- The text ahead of a line comes from the lines ahead of it only. -/
theorem textAhead_of_lines_eq :
    buffer.textAhead front.length = front.flatMap (· ++ ['\n']) := by
  rw [textAhead, h, List.take_left]

/-- The whole text from the lines around one of them. -/
theorem serialize_of_lines_eq :
    buffer.serialize = front.flatMap (· ++ ['\n']) ++ (line ++ back.flatMap ('\n' :: ·)) := by
  rw [serialize, h, Text.joinLines_append_cons]

end LinesEq

/-- So many lines are ahead of a line as its index says. -/
theorem length_take_lines (h : index < buffer.length) :
    (buffer.lines.take index).length = index := by
  rw [List.length_take]
  exact Nat.min_eq_left (Nat.le_of_lt h)

/-- A changed line stands between the same lines as the old one. -/
theorem lines_setLine_eq (h : index < buffer.length) (text : Text) :
    (buffer.setLine index text).lines =
      buffer.lines.take index ++ text :: buffer.lines.drop (index + 1) := by
  rw [lines_setLine, List.set_eq_take_append_cons_drop]
  exact if_pos h

/-- Lines are put in right behind a line, each cut at its terminators. -/
theorem lines_insertLinesAfter_eq (h : index < buffer.length) (texts : List Text) :
    (buffer.insertLinesAfter index texts).lines =
      buffer.lines.take index ++ buffer.line index ::
        (Text.flattenLines texts ++ buffer.lines.drop (index + 1)) := by
  have hfront : buffer.lines.take (index + 1) =
      buffer.lines.take index ++ [buffer.line index] := by
    rw [List.take_add_one, line, line?, List.getElem?_eq_getElem h]
    rfl
  rw [lines_insertLinesAfter, clampLine_of_lt h, insertItems, hfront]
  simp

/-- Lines that are inserted behind a changed line. -/
theorem lines_insertLinesAfter_setLine (h : index < buffer.length) (text : Text)
    (texts : List Text) :
    ((buffer.setLine index text).insertLinesAfter index texts).lines =
      buffer.lines.take index ++ text ::
        (Text.flattenLines texts ++ buffer.lines.drop (index + 1)) := by
  have hset : index < (buffer.setLine index text).length := by
    rw [length_setLine]
    exact h
  rw [lines_insertLinesAfter_eq hset, line_setLine h, lines_setLine,
    List.take_set_of_le (Nat.le_refl _), List.drop_set_of_lt (Nat.lt_succ_self _)]

/-- A buffer grows by the lines put in, counted after the cuts at their terminators. -/
theorem length_insertLinesAfter (buffer : LineBuffer) (line : Nat) (texts : List Text) :
    (buffer.insertLinesAfter line texts).length =
      buffer.length + (Text.flattenLines texts).length := by
  simp only [length, lines_insertLinesAfter, insertItems, List.length_append, List.length_take,
    List.length_drop]
  omega

/-- A line in whose place another text stands, and the next of which is gone. -/
theorem lines_setLine_eraseLine {index : Nat} (h : index + 1 < buffer.length) (text : Text) :
    ((buffer.eraseLine (index + 1)).setLine index text).lines =
      buffer.lines.take index ++ text :: buffer.lines.drop (index + 2) := by
  have hfront : (buffer.lines.take (index + 1)).length = index + 1 := length_take_lines h
  have herase : (buffer.eraseLine (index + 1)).lines =
      buffer.lines.take (index + 1) ++ buffer.lines.drop (index + 2) :=
    List.eraseIdx_eq_take_drop_succ ..
  have hindex : index < (buffer.eraseLine (index + 1)).length := by
    rw [length, herase, List.length_append]
    omega
  rw [lines_setLine_eq hindex, herase, List.take_append_of_le_length (by omega), List.take_take,
    Nat.min_eq_left (Nat.le_succ index), List.drop_left' hfront]

/-! ## The whole text of a changed buffer -/

/-- In the whole text, a changed line takes the place of the old one. -/
theorem serialize_setLine (h : index < buffer.length) (text : Text) :
    (buffer.setLine index text).serialize =
      buffer.textAhead index ++ (text ++ buffer.textBehind index) :=
  serialize_of_lines_eq (lines_setLine_eq h text)

/-- Inserted lines follow the end of their line, each in normal form after a line feed. -/
theorem serialize_insertLinesAfter_setLine (h : index < buffer.length) (text : Text)
    (texts : List Text) :
    ((buffer.setLine index text).insertLinesAfter index texts).serialize =
      buffer.textAhead index ++ (text ++
        (texts.flatMap (fun text => '\n' :: text.normalize) ++ buffer.textBehind index)) := by
  rw [serialize_of_lines_eq (lines_insertLinesAfter_setLine h text texts), List.flatMap_append,
    Text.flatMap_feed_flattenLines]
  rfl

/-- In the whole text, each line put in follows on the line, after a line feed and with line feeds
as its only terminators. -/
theorem serialize_insertLinesAfter (h : index < buffer.length) (texts : List Text) :
    (buffer.insertLinesAfter index texts).serialize =
      buffer.textAhead index ++ (buffer.line index ++
        (texts.flatMap (fun text => '\n' :: text.normalize) ++ buffer.textBehind index)) := by
  rw [serialize_of_lines_eq (lines_insertLinesAfter_eq h texts), List.flatMap_append,
    Text.flatMap_feed_flattenLines]
  rfl

/-! ## Cutting the whole text -/

/-- The whole text in two pieces, cut at a column of a line. -/
theorem serialize_eq_cut (h : buffer.InStep) (line column : Nat) :
    buffer.serialize =
      (buffer.textAhead (buffer.clampLine line) ++
        (buffer.line (buffer.clampLine line)).before column) ++
      ((buffer.line (buffer.clampLine line)).after column ++
        buffer.textBehind (buffer.clampLine line)) := by
  rw [serialize_eq (h.clampLine_lt line), List.append_assoc, ← List.append_assoc (Text.before _ _),
    Text.before_append_after]

/-- An offset is the size of the text up to it. -/
theorem offset_eq_size (buffer : LineBuffer) (line column : Nat) :
    buffer.offset line column =
      (buffer.textAhead (buffer.clampLine line) ++
        (buffer.line (buffer.clampLine line)).before column).size :=
  (Text.size_append _ _).symm

/-- The end of a line as an offset. -/
theorem offset_lineSize (buffer : LineBuffer) (line : Nat) :
    buffer.offset line (buffer.lineSize (buffer.clampLine line)) =
      (buffer.textAhead (buffer.clampLine line)).size +
        (buffer.line (buffer.clampLine line)).size := by
  rw [offset, lineSize, Text.floor_of_size_le (Nat.le_refl _)]

end TextEditor.LineBuffer
