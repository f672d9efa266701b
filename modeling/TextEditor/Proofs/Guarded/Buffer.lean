import TextEditor.Proofs.Buffer.FlatText
import TextEditor.Proofs.Guarded.Highlight

/-!
# Editing a buffer within range

The operations on a buffer, with every cut of a line guarded and every access to one of the three
lists. The lists are accessed one by one, by the number of a line; that these accesses succeed is
what the lists being in step is good for. Line numbers are moved back to a line that is there before
anything is added to them, except where a line is joined with the next: there the sum is taken of
whatever number is given, and has to be within a limit.

Main statements: `setLine_eq` and `insertLinesAfter_eq`, an equation for each operation, and
`run_eq_iff` for all of them.
-/

namespace TextEditor.Guarded

/-- The line that a line number stands for. -/
def clampLine (buffer : LineBuffer) (index : Nat) : Option Nat := do
  return min index (← minus buffer.length 1)

/-- The buffer with the tokens and regions of a line found afresh. -/
def rehighlight (buffer : LineBuffer) (index : Nat) : Option LineBuffer := do
  let found ← highlight buffer.highlighter (← itemAt buffer.lines index)
  return { buffer with
    tokenLists := ← setAt buffer.tokenLists index found.tokens
    regionLists := ← setAt buffer.regionLists index found.regions }

/-- The buffer with the tokens and regions of all lines found afresh. -/
def rehighlightAll (buffer : LineBuffer) : Option LineBuffer := do
  let found ← buffer.lines.mapM (highlight buffer.highlighter)
  return { buffer with
    tokenLists := found.map (·.tokens)
    regionLists := found.map (·.regions) }

/-- The buffer with another text in a line. -/
def setLine (buffer : LineBuffer) (index : Nat) (text : Text) : Option LineBuffer := do
  rehighlight { buffer with lines := ← setAt buffer.lines index text } index

/-- The buffer with more lines after one. -/
def insertLinesAfter (buffer : LineBuffer) (line : Nat) (texts : List Text) :
    Option LineBuffer := do
  let index := (← clampLine buffer line) + 1
  let lines := Text.flattenLines texts
  if lines.isEmpty then return buffer
  let found ← lines.mapM (highlight buffer.highlighter)
  return { buffer with
    lines := ← insertAt buffer.lines index lines
    tokenLists := ← insertAt buffer.tokenLists index (found.map (·.tokens))
    regionLists := ← insertAt buffer.regionLists index (found.map (·.regions)) }

/-- The buffer with a text inserted, and the position after the text. -/
def insert (buffer : LineBuffer) (line column : Nat) (text : Text) :
    Option (Position × LineBuffer) := do
  let line ← clampLine buffer line
  let old ← itemAt buffer.lines line
  let column ← floor old column
  let head ← front old column
  let tail ← back old column
  if !text.hasTerminator then
    return (⟨line, column + text.size⟩, ← setLine buffer line (head ++ text ++ tail))
  else
    let parts := Text.splitLines text
    let rest := parts.tail
    let buffer ← setLine buffer line (head ++ parts.headD [])
    return (⟨line + rest.length, Text.size (rest.getLastD [])⟩,
      ← insertLinesAfter buffer line (extendLast tail rest))

/-- The buffer with a stretch of a line removed, and what has been removed. -/
def removeRange (buffer : LineBuffer) (line start stop : Nat) : Option (Text × LineBuffer) := do
  let line ← clampLine buffer line
  let old ← itemAt buffer.lines line
  let stop ← floor old stop
  let start := min (← floor old start) stop
  if start = stop then return ([], buffer)
  let removed ← old.slice? start stop
  return (removed, ← setLine buffer line ((← front old start) ++ (← back old stop)))

/-- The buffer with another text in place of a line: the line is emptied first. -/
def replaceLine (buffer : LineBuffer) (line : Nat) (text : Text) : Option LineBuffer := do
  let line ← clampLine buffer line
  let (_, buffer) ← insert { buffer with lines := ← setAt buffer.lines line [] } line 0 text
  return buffer

/-- The buffer with a line split in two, the second part after `lead`; and the number of the line
after the first part. -/
def splitLine (buffer : LineBuffer) (line column : Nat) (lead : Text) :
    Option (Nat × LineBuffer) := do
  let line ← clampLine buffer line
  let old ← itemAt buffer.lines line
  let column ← floor old column
  let head ← front old column
  let tail ← back old column
  let buffer ← setLine buffer line head
  return (line + 1, ← insertLinesAfter buffer line [lead ++ tail])

/-- The buffer with a line and the next made one, and the size that the line had; `none` for the
last line. -/
def joinWithNext (limit : Option Nat) (buffer : LineBuffer) (line : Nat) :
    Option (Option (Nat × LineBuffer)) := do
  let index ← plus limit line 1
  if index < buffer.length then
    let old ← itemAt buffer.lines line
    let next ← itemAt buffer.lines index
    let buffer := { buffer with
      lines := ← eraseAt buffer.lines index
      tokenLists := ← eraseAt buffer.tokenLists index
      regionLists := ← eraseAt buffer.regionLists index }
    return some (old.size, ← setLine buffer line ((← itemAt buffer.lines line) ++ next))
  else return none

/-- The buffer with more lines at its end, and their number. -/
def appendLines (buffer : LineBuffer) (texts : List Text) : Option (Nat × LineBuffer) := do
  let last ← minus buffer.length 1
  let longer ← insertLinesAfter buffer last (Text.flattenLines texts)
  return (← minus longer.length buffer.length, longer)

/-- The buffer with other lines; no line stands for one empty line. -/
def replaceLines (buffer : LineBuffer) (texts : List Text) : Option LineBuffer :=
  let lines := Text.flattenLines texts
  let lines := if lines.isEmpty then [[]] else lines
  rehighlightAll { buffer with lines := lines }

/-- The buffer with another text. -/
def replaceAll (buffer : LineBuffer) (text : Text) : Option LineBuffer :=
  replaceLines buffer (Text.splitLines text)

/-- The buffer with another highlighter. -/
def setHighlighter (buffer : LineBuffer) (highlighter : Highlighter) : Option LineBuffer :=
  rehighlightAll { buffer with highlighter := highlighter }

/-- The result of an operation on a buffer, the new buffer, and the records of what has been
done. -/
def run (limit : Option Nat) (edit : BufferEdit) (buffer : LineBuffer) :
    Option (EditResult × LineBuffer × List LogRecord) :=
  match edit with
  | .insert line column text => do
      let (position, buffer) ← insert buffer line column text
      return (.position position, buffer, [])
  | .removeRange line start stop => do
      let (text, buffer) ← removeRange buffer line start stop
      return (.text text, buffer, [])
  | .replaceLine line text => do return (.nothing, ← replaceLine buffer line text, [])
  | .splitLine line column lead => do
      let (index, buffer) ← splitLine buffer line column lead
      return (.number index, buffer, [])
  | .insertLinesAfter line texts => do
      return (.nothing, ← insertLinesAfter buffer line texts, [])
  | .joinWithNext line => do
      match ← joinWithNext limit buffer line with
      | some (size, buffer) => return (.number size, buffer, [])
      | none => return (.nothing, buffer, [])
  | .appendLines texts => do
      let (count, buffer) ← appendLines buffer texts
      return (.number count, buffer, [])
  | .replaceLines texts => do
      let buffer ← replaceLines buffer texts
      return (.nothing, buffer, [buffer.retokenized])
  | .replaceAll text => do
      let buffer ← replaceAll buffer text
      return (.nothing, buffer, [buffer.retokenized])
  | .setHighlighter highlighter => do
      let buffer ← setHighlighter buffer highlighter
      return (.nothing, buffer, [buffer.retokenized])

/-! ## Lines in range -/

variable {buffer : LineBuffer} {index : Nat}

/-- A line number can be moved back in a buffer that has a line. -/
theorem clampLine_eq (h : buffer.InStep) (index : Nat) :
    clampLine buffer index = some (buffer.clampLine index) := by
  rw [clampLine, minus_of_le h.length_pos]
  rfl

/-- A line that is there is found at its index. -/
theorem itemAt_lines (h : index < buffer.length) :
    itemAt buffer.lines index = some (buffer.line index) := by
  rw [itemAt_of_lt h, LineBuffer.line_of_lt h]
  rfl

/-- There are as many lists of tokens as lines. -/
theorem length_tokenLists (h : buffer.InStep) : buffer.tokenLists.length = buffer.length := by
  rw [h.tokenLists_eq, List.length_map, LineBuffer.length]

/-- There are as many lists of regions as lines. -/
theorem length_regionLists (h : buffer.InStep) : buffer.regionLists.length = buffer.length := by
  rw [h.regionLists_eq, List.length_map, LineBuffer.length]

/-- A line that is there can be changed, and its row is there to be changed with it. -/
theorem setLine_eq (h : buffer.InStep) (hindex : index < buffer.length) (text : Text) :
    setLine buffer index text = some (buffer.setLine index text) := by
  have hset : index < (buffer.lines.set index text).length := by
    rw [List.length_set]
    exact hindex
  have htokens : index < buffer.tokenLists.length := by rwa [length_tokenLists h]
  have hregions : index < buffer.regionLists.length := by rwa [length_regionLists h]
  have hline : itemAt (buffer.lines.set index text) index = some text := by
    rw [itemAt_of_lt hset, List.getElem_set_self]
  have htext : ({ buffer with lines := buffer.lines.set index text } : LineBuffer).line index =
      text := by
    simp [LineBuffer.line, LineBuffer.line?, show index < buffer.lines.length from hindex]
  simp only [setLine, setAt_of_lt hindex, rehighlight, hline, highlight_eq, setAt_of_lt htokens,
    setAt_of_lt hregions, LineBuffer.setLine, LineBuffer.rehighlight, htext, Option.bind_eq_bind,
    Option.bind_some, Option.pure_def]

/-- All lines can be highlighted afresh, whatever the rows were. -/
theorem rehighlightAll_eq (buffer : LineBuffer) :
    rehighlightAll buffer = some buffer.rehighlightAll := by
  rw [rehighlightAll, mapM_eq_some fun line _ => highlight_eq buffer.highlighter line]
  rfl

/-- To put in no items changes nothing. -/
@[simp] theorem insertItems_nil {α : Type} (items : List α) (index : Nat) :
    insertItems items index [] = items := by
  simp [insertItems]

/-- Lines can be put in behind any line, and their rows at the same place. -/
theorem insertLinesAfter_eq (h : buffer.InStep) (line : Nat) (texts : List Text) :
    insertLinesAfter buffer line texts = some (buffer.insertLinesAfter line texts) := by
  have hlt := h.clampLine_lt line
  have hlines : buffer.clampLine line + 1 ≤ buffer.lines.length := hlt
  have htokens : buffer.clampLine line + 1 ≤ buffer.tokenLists.length := by
    rwa [length_tokenLists h]
  have hregions : buffer.clampLine line + 1 ≤ buffer.regionLists.length := by
    rwa [length_regionLists h]
  simp only [insertLinesAfter, clampLine_eq h, Option.bind_eq_bind, Option.bind_some,
    LineBuffer.insertLinesAfter]
  split
  · next hempty =>
      rw [List.isEmpty_iff.1 hempty]
      simp
  · simp only [mapM_eq_some fun line _ => highlight_eq buffer.highlighter line,
      insertAt_of_le hlines, insertAt_of_le htokens, insertAt_of_le hregions, Option.bind_some,
      Option.pure_def]

/-! ## Operations in range -/

/-- Text can be inserted at any line and column. -/
theorem insert_eq (h : buffer.InStep) (line column : Nat) (text : Text) :
    insert buffer line column text = some (buffer.insert line column text) := by
  have hlt := h.clampLine_lt line
  have hboundary := Text.isBoundary_floor (buffer.line (buffer.clampLine line)) column
  simp only [insert, clampLine_eq h, itemAt_lines hlt, floor_eq, front_of_isBoundary hboundary,
    back_of_isBoundary hboundary, Text.before_floor, Text.after_floor, Option.bind_eq_bind,
    Option.bind_some, LineBuffer.insert]
  split
  · rw [setLine_eq h hlt]
    rfl
  · rw [setLine_eq h hlt, Option.bind_some, insertLinesAfter_eq]
    · rfl
    · apply LineBuffer.inStep_setLine h
      rw [Text.hasTerminator_append, Text.hasTerminator_before (h.hasTerminator_line _),
        Text.hasTerminator_headD_splitLines, Bool.or_false]

/-- Any stretch of any line can be removed. -/
theorem removeRange_eq (h : buffer.InStep) (line start stop : Nat) :
    removeRange buffer line start stop = some (buffer.removeRange line start stop) := by
  have hlt := h.clampLine_lt line
  simp only [removeRange, clampLine_eq h, itemAt_lines hlt, floor_eq, Option.bind_eq_bind,
    Option.bind_some, LineBuffer.removeRange]
  generalize buffer.line (buffer.clampLine line) = old
  have hstop := Text.isBoundary_floor old stop
  have hstart : old.isBoundary (min (old.floor start) (old.floor stop)) = true := by
    rw [Nat.min_def]
    split
    · exact Text.isBoundary_floor old start
    · exact hstop
  have hslice : old.slice? (min (old.floor start) (old.floor stop)) (old.floor stop) =
      some (old.between (min (old.floor start) (old.floor stop)) (old.floor stop)) := by
    rw [Text.slice?, hstart, hstop, decide_eq_true (Nat.min_le_right _ _)]
    rfl
  split
  · rfl
  · simp only [hslice, front_of_isBoundary hstart, back_of_isBoundary hstop, setLine_eq h hlt,
      Option.bind_some, Option.pure_def]

/-- The tokens of a line are found afresh with its text, so that those it had before do not
matter. -/
theorem setLine_setLine (buffer : LineBuffer) (index : Nat) (old text : Text) :
    setLine (buffer.setLine index old) index text =
      setLine { buffer with lines := buffer.lines.set index old } index text := by
  simp [setLine, rehighlight, setAt, LineBuffer.setLine, LineBuffer.rehighlight]

/-- Any line can be replaced. -/
theorem replaceLine_eq (h : buffer.InStep) (line : Nat) (text : Text) :
    replaceLine buffer line text = some (buffer.replaceLine line text) := by
  obtain ⟨index, hindex⟩ : ∃ index, index = buffer.clampLine line := ⟨_, rfl⟩
  have hlt : index < buffer.length := hindex ▸ h.clampLine_lt line
  have hemptied : (buffer.setLine index []).InStep :=
    LineBuffer.inStep_setLine h Text.hasTerminator_nil
  have hclamp : (buffer.setLine index []).clampLine index = index :=
    LineBuffer.clampLine_of_lt (by rwa [LineBuffer.length_setLine])
  have hguarded := clampLine_eq hemptied index
  rw [hclamp] at hguarded
  -- the tokens of the emptied line are not looked at before they are found afresh
  have hinsert : insert { buffer with lines := buffer.lines.set index [] } index 0 text =
      insert (buffer.setLine index []) index 0 text := by
    have hsame : clampLine { buffer with lines := buffer.lines.set index [] } index =
        some index := hguarded
    simp only [insert, hsame, hguarded, setLine_setLine, LineBuffer.lines_setLine,
      Option.bind_eq_bind, Option.bind_some]
  have hplain : (buffer.setLine index []).insert index 0 text =
      ({ buffer with lines := buffer.lines.set index [] } : LineBuffer).insert index 0 text := by
    have hsame : ({ buffer with lines := buffer.lines.set index [] } : LineBuffer).clampLine index =
        index := hclamp
    have hline : (buffer.setLine index []).line index =
        ({ buffer with lines := buffer.lines.set index [] } : LineBuffer).line index := rfl
    simp only [LineBuffer.insert, hsame, hclamp, hline, LineBuffer.setLine_withLine,
      LineBuffer.setLine_setLine]
  rw [replaceLine, clampLine_eq h, ← hindex]
  simp only [setAt_of_lt hlt, hinsert, insert_eq hemptied, hplain, Option.bind_eq_bind,
    Option.bind_some, Option.pure_def, LineBuffer.replaceLine, ← hindex]

/-- Any line can be split at any column. -/
theorem splitLine_eq (h : buffer.InStep) (line column : Nat) (lead : Text) :
    splitLine buffer line column lead = some (buffer.splitLine line column lead) := by
  have hlt := h.clampLine_lt line
  have hboundary := Text.isBoundary_floor (buffer.line (buffer.clampLine line)) column
  have hstep : (buffer.setLine (buffer.clampLine line)
      ((buffer.line (buffer.clampLine line)).before column)).InStep :=
    LineBuffer.inStep_setLine h (Text.hasTerminator_before (h.hasTerminator_line _) column)
  simp only [splitLine, clampLine_eq h, itemAt_lines hlt, floor_eq, front_of_isBoundary hboundary,
    back_of_isBoundary hboundary, Text.before_floor, Text.after_floor, setLine_eq h hlt,
    insertLinesAfter_eq hstep, Option.bind_eq_bind, Option.bind_some, Option.pure_def,
    LineBuffer.splitLine]

/-- A line is joined with the next if its number and one more are within the limit. -/
theorem joinWithNext_of_within (h : buffer.InStep) {limit : Option Nat} {line : Nat}
    (hwithin : Within limit (line + 1)) :
    joinWithNext limit buffer line = some (buffer.joinWithNext line) := by
  unfold joinWithNext LineBuffer.joinWithNext
  rw [plus_of_within hwithin, Option.bind_eq_bind, Option.bind_some]
  by_cases hnext : line + 1 < buffer.length
  · have hlt : line < buffer.length := Nat.lt_of_succ_lt hnext
    have htokens : line + 1 < buffer.tokenLists.length := by rwa [length_tokenLists h]
    have hregions : line + 1 < buffer.regionLists.length := by rwa [length_regionLists h]
    have herased : (buffer.eraseLine (line + 1)).InStep :=
      LineBuffer.inStep_eraseLine h (by omega)
    have hlength : line < (buffer.eraseLine (line + 1)).length := by
      have herase : (buffer.eraseLine (line + 1)).lines.length = buffer.lines.length - 1 := by
        rw [LineBuffer.eraseLine, List.length_eraseIdx]
        exact if_pos hnext
      unfold LineBuffer.length at hnext ⊢
      omega
    -- the line before the one that is erased is still where it was
    have hline : (buffer.eraseLine (line + 1)).line line = buffer.line line := by
      simp [LineBuffer.line, LineBuffer.line?, LineBuffer.eraseLine,
        List.getElem?_eraseIdx_of_lt (Nat.lt_succ_self line)]
    have hitem := itemAt_lines hlength
    have hset := setLine_eq herased hlength (buffer.line line ++ buffer.line (line + 1))
    rw [hline] at hitem
    rw [LineBuffer.eraseLine] at hitem hset
    simp only [if_pos hnext, itemAt_lines hlt, itemAt_lines hnext, eraseAt_of_lt hnext,
      eraseAt_of_lt htokens, eraseAt_of_lt hregions, hitem, hset, Option.bind_eq_bind,
      Option.bind_some, Option.pure_def]
    rfl
  · rw [if_neg hnext, if_neg hnext]
    rfl

/-- A line number that one more leads over the limit is not looked for. -/
theorem joinWithNext_of_not_within {limit : Option Nat} {line : Nat}
    (h : ¬ Within limit (line + 1)) : joinWithNext limit buffer line = none := by
  rw [joinWithNext, plus_of_not_within h]
  rfl

/-- Any line can be joined with the next, as far as slices and indices go. -/
theorem joinWithNext_eq (h : buffer.InStep) (line : Nat) :
    joinWithNext none buffer line = some (buffer.joinWithNext line) :=
  joinWithNext_of_within h (within_none _)

/-- Lines can be put at the end. -/
theorem appendLines_eq (h : buffer.InStep) (texts : List Text) :
    appendLines buffer texts = some (buffer.appendLines texts) := by
  have hlength := LineBuffer.length_insertLinesAfter buffer (buffer.length - 1)
    (Text.flattenLines texts)
  have hle : buffer.length ≤
      (buffer.insertLinesAfter (buffer.length - 1) (Text.flattenLines texts)).length := by
    omega
  simp only [appendLines, minus_of_le h.length_pos, insertLinesAfter_eq h, minus_of_le hle,
    Option.bind_eq_bind, Option.bind_some, Option.pure_def, LineBuffer.appendLines]

/-- All lines can be replaced. -/
theorem replaceLines_eq (buffer : LineBuffer) (texts : List Text) :
    replaceLines buffer texts = some (buffer.replaceLines texts) := rehighlightAll_eq _

/-- The whole text can be replaced. -/
theorem replaceAll_eq (buffer : LineBuffer) (text : Text) :
    replaceAll buffer text = some (buffer.replaceAll text) := rehighlightAll_eq _

/-- All lines can be highlighted by another highlighter. -/
theorem setHighlighter_eq (buffer : LineBuffer) (highlighter : Highlighter) :
    setHighlighter buffer highlighter = some (buffer.setHighlighter highlighter) :=
  rehighlightAll_eq _

/-! ## All operations -/

/-- The number that an operation adds one to is within the limit with it. -/
def LineFits (limit : Option Nat) : BufferEdit → Prop
  | .joinWithNext line => Within limit (line + 1)
  | _ => True

/-- An operation is carried out exactly if the number that it adds one to is within the limit. -/
theorem run_eq_iff (h : buffer.InStep) {limit : Option Nat} {edit : BufferEdit} :
    run limit edit buffer = some (edit.run buffer) ↔ LineFits limit edit := by
  cases edit with
  | joinWithNext line =>
      by_cases hwithin : Within limit (line + 1)
      · refine iff_of_true ?_ hwithin
        simp only [run, joinWithNext_of_within h hwithin, Option.bind_eq_bind, Option.bind_some,
          BufferEdit.run]
        cases buffer.joinWithNext line with
        | none => rfl
        | some joined => rfl
      · refine iff_of_false (fun heq => ?_) hwithin
        rw [run, joinWithNext_of_not_within hwithin] at heq
        cases heq
  | _ =>
      refine iff_of_true ?_ trivial
      simp only [run, insert_eq h, removeRange_eq h, replaceLine_eq h, splitLine_eq h,
        insertLinesAfter_eq h, appendLines_eq h, replaceLines_eq, replaceAll_eq, setHighlighter_eq,
        Option.bind_eq_bind, Option.bind_some, Option.pure_def, BufferEdit.run]

end TextEditor.Guarded
