import TextEditor.Buffer.Edit
import TextEditor.Proofs.Text.Cuts
import TextEditor.Proofs.Text.Joining

/-!
# Lines, tokens and regions in step

The three lists of a buffer are in step when the tokens and regions of every line are those that the
highlighter finds in its present text. Every operation is put together from four ways to change the
lists, `setLine`, `insertLinesAfter`, `eraseLine` and `rehighlightAll`, each of which keeps them in
step; so they stay in step along every sequence of edits.

Main statements: `InStep.run`, one edit keeps the lists in step, and `reachable_rows`, what this
means for each line of each buffer that edits lead to.
-/

namespace TextEditor

variable {buffer : LineBuffer}

namespace LineBuffer

/-- There is a line, no line holds a terminator, and the tokens and regions of the lines are those
that the highlighter finds in them. -/
structure InStep (buffer : LineBuffer) : Prop where
  lines_ne_nil : buffer.lines ≠ []
  noTerminator : ∀ line ∈ buffer.lines, line.hasTerminator = false
  tokenLists_eq :
    buffer.tokenLists = buffer.lines.map fun line => (buffer.highlighter.highlight line).tokens
  regionLists_eq :
    buffer.regionLists = buffer.lines.map fun line => (buffer.highlighter.highlight line).regions

/-- The buffers that edits lead to from an empty buffer or the buffer of a text. -/
inductive Reachable : LineBuffer → Prop where
  | empty (highlighter) : Reachable (.empty highlighter)
  | ofText (text highlighter) : Reachable (.ofText text highlighter)
  | run {buffer : LineBuffer} (edit : BufferEdit) :
      Reachable buffer → Reachable (edit.run buffer).2.1

/-! ## Reading lines -/

/-- A line that is there is found without falling back on the empty one. -/
theorem line_of_lt {index : Nat} (h : index < buffer.length) :
    buffer.line index = buffer.lines.get ⟨index, h⟩ := by
  have h : index < buffer.lines.length := h
  simp [line, line?, h]

/-- What is found at an index that is there is one of the lines. -/
theorem line_mem_lines {index : Nat} (h : index < buffer.length) :
    buffer.line index ∈ buffer.lines := by
  rw [line_of_lt h]
  exact List.get_mem _ _

/-- The lines around one of them. -/
theorem lines_eq_append {index : Nat} (h : index < buffer.length) :
    buffer.lines =
      buffer.lines.take index ++ buffer.line index :: buffer.lines.drop (index + 1) := by
  have hdrop := List.drop_eq_getElem_cons (show index < buffer.lines.length from h)
  rw [line_of_lt h, List.get_eq_getElem, ← hdrop, List.take_append_drop]

namespace InStep

/-- A buffer is never without lines. -/
theorem length_pos (h : buffer.InStep) : 0 < buffer.length := List.length_pos_iff.2 h.lines_ne_nil

/-- A line number moved back is that of a line that is there. -/
theorem clampLine_lt (h : buffer.InStep) (index : Nat) : buffer.clampLine index < buffer.length :=
  LineBuffer.clampLine_lt h.lines_ne_nil index

/-- No line holds a terminator, and neither does the empty text past the end. -/
theorem hasTerminator_line (h : buffer.InStep) (index : Nat) :
    (buffer.line index).hasTerminator = false := by
  by_cases hindex : index < buffer.length
  · exact h.noTerminator _ (line_mem_lines hindex)
  · simp [line, line?, List.getElem?_eq_none (Nat.not_lt.1 hindex)]

end InStep

/-! ## The four ways to change the lists -/

/-- Highlighting all lines afresh brings a buffer in step, whatever its rows were. -/
theorem inStep_rehighlightAll (hne : buffer.lines ≠ [])
    (hterm : ∀ line ∈ buffer.lines, line.hasTerminator = false) :
    buffer.rehighlightAll.InStep where
  lines_ne_nil := hne
  noTerminator := hterm
  tokenLists_eq := by simp [rehighlightAll, Function.comp_def]
  regionLists_eq := by simp [rehighlightAll, Function.comp_def]

/-- Of the lines a change touches the one at its index only. -/
@[simp] theorem lines_setLine (buffer : LineBuffer) (index : Nat) (text : Text) :
    (buffer.setLine index text).lines = buffer.lines.set index text := rfl

/-- A change of a line leaves the highlighter. -/
@[simp] theorem highlighter_setLine (buffer : LineBuffer) (index : Nat) (text : Text) :
    (buffer.setLine index text).highlighter = buffer.highlighter := rfl

/-- A change of a line leaves the number of lines. -/
@[simp] theorem length_setLine (buffer : LineBuffer) (index : Nat) (text : Text) :
    (buffer.setLine index text).length = buffer.length := by
  simp [length]

/-- A changed line is the text it was changed to. -/
theorem line_setLine {index : Nat} (h : index < buffer.length) (text : Text) :
    (buffer.setLine index text).line index = text := by
  have h : index < buffer.lines.length := h
  simp [line, line?, h]

/-- The text of a line is what its tokens are found in, so an earlier change of it is overridden. -/
theorem setLine_withLine (buffer : LineBuffer) (index : Nat) (old text : Text) :
    { buffer with lines := buffer.lines.set index old }.setLine index text =
      buffer.setLine index text := by
  simp [setLine, rehighlight]

/-- Of two texts put in place of a line the second one stays. -/
theorem setLine_setLine (buffer : LineBuffer) (index : Nat) (old text : Text) :
    (buffer.setLine index old).setLine index text = buffer.setLine index text := by
  simp [setLine, rehighlight, line, line?]

/-- Putting a text in place of a line keeps the lists in step, even where the line was not. -/
theorem inStep_setLine {index : Nat} {text : Text} (h : buffer.InStep)
    (hterm : text.hasTerminator = false) : (buffer.setLine index text).InStep := by
  by_cases hindex : index < buffer.lines.length
  · have hline : (buffer.setLine index text).line index = text := line_setLine hindex text
    refine ⟨?_, ?_, ?_, ?_⟩
    · simpa using h.lines_ne_nil
    · intro line hmem
      rcases List.mem_or_eq_of_mem_set hmem with hmem | rfl
      · exact h.noTerminator line hmem
      · exact hterm
    · rw [lines_setLine, highlighter_setLine, List.map_set, ← h.tokenLists_eq]
      exact congrArg (fun line => buffer.tokenLists.set index
        (buffer.highlighter.highlight line).tokens) hline
    · rw [lines_setLine, highlighter_setLine, List.map_set, ← h.regionLists_eq]
      exact congrArg (fun line => buffer.regionLists.set index
        (buffer.highlighter.highlight line).regions) hline
  · -- past the end nothing is there to change in any of the lists
    have hle : buffer.lines.length ≤ index := Nat.not_lt.1 hindex
    have htokens : buffer.tokenLists.length ≤ index := by
      rw [h.tokenLists_eq, List.length_map]
      exact hle
    have hregions : buffer.regionLists.length ≤ index := by
      rw [h.regionLists_eq, List.length_map]
      exact hle
    have hsame : buffer.setLine index text = buffer := by
      simp [setLine, rehighlight, List.set_eq_of_length_le, hle, htokens, hregions]
    rw [hsame]
    exact h

/-- Lines are put in behind the line whose number has been moved back, cut at their terminators. -/
@[simp] theorem lines_insertLinesAfter (buffer : LineBuffer) (line : Nat) (texts : List Text) :
    (buffer.insertLinesAfter line texts).lines =
      insertItems buffer.lines (buffer.clampLine line + 1) (Text.flattenLines texts) := rfl

/-- Putting in lines leaves the highlighter. -/
@[simp] theorem highlighter_insertLinesAfter (buffer : LineBuffer) (line : Nat)
    (texts : List Text) :
    (buffer.insertLinesAfter line texts).highlighter = buffer.highlighter := rfl

/-- Putting items into a list goes along with a function of the items, as rows are made line by
line. -/
theorem map_insertItems {α β : Type} (f : α → β) (items more : List α) (index : Nat) :
    (insertItems items index more).map f = insertItems (items.map f) index (more.map f) := by
  simp [insertItems]

/-- Lines are put in together with their rows, so that a buffer stays in step. -/
theorem inStep_insertLinesAfter (h : buffer.InStep) (line : Nat) (texts : List Text) :
    (buffer.insertLinesAfter line texts).InStep where
  lines_ne_nil := by
    have hlen := h.clampLine_lt line
    intro hnil
    have hlines := congrArg List.length hnil
    simp only [lines_insertLinesAfter, insertItems, List.length_append, List.length_take,
      List.length_nil] at hlines
    unfold length at hlen
    omega
  noTerminator := by
    intro text hmem
    simp only [lines_insertLinesAfter, insertItems, List.mem_append] at hmem
    rcases hmem with (hmem | hmem) | hmem
    · exact h.noTerminator text (List.mem_of_mem_take hmem)
    · exact Text.noTerminator_of_mem_flattenLines hmem
    · exact h.noTerminator text (List.mem_of_mem_drop hmem)
  tokenLists_eq := by
    rw [lines_insertLinesAfter, map_insertItems, highlighter_insertLinesAfter, ← h.tokenLists_eq]
    simp [insertLinesAfter, Function.comp_def]
  regionLists_eq := by
    rw [lines_insertLinesAfter, map_insertItems, highlighter_insertLinesAfter, ← h.regionLists_eq]
    simp [insertLinesAfter, Function.comp_def]

/-- A line is removed together with its row, so that a buffer of more than one stays in step. -/
theorem inStep_eraseLine {index : Nat} (h : buffer.InStep) (hlen : 1 < buffer.length) :
    (buffer.eraseLine index).InStep where
  lines_ne_nil := by
    intro hnil
    have hlines : (buffer.lines.eraseIdx index).length = 0 := congrArg List.length hnil
    rw [List.length_eraseIdx] at hlines
    unfold length at hlen
    split at hlines <;> omega
  noTerminator := fun line hmem => h.noTerminator line (List.mem_of_mem_eraseIdx hmem)
  tokenLists_eq := by
    simp [eraseLine, h.tokenLists_eq, List.eraseIdx_eq_take_drop_succ]
  regionLists_eq := by
    simp [eraseLine, h.regionLists_eq, List.eraseIdx_eq_take_drop_succ]

/-! ## Operations -/

/-- Behind the last line there is nothing but the empty text. -/
theorem line_nil_of_length_le {index : Nat} (h : buffer.length ≤ index) :
    buffer.line index = [] := by
  have h : buffer.lines.length ≤ index := h
  simp [line, line?, List.getElem?_eq_none h]

/-- Nothing put behind the last line changes nothing. -/
theorem extendLast_nil (lines : List Text) : extendLast [] lines = lines := by
  induction lines with
  | nil => rfl
  | cons line lines ih =>
      cases lines with
      | nil => simp [extendLast]
      | cons next lines => simp [extendLast, ih]

/-- Putting a text in place of a line is putting its first line there, and the others after it. -/
theorem replaceLine_eq (buffer : LineBuffer) (line : Nat) (text : Text) :
    buffer.replaceLine line text =
      if text.hasTerminator then
        (buffer.setLine (buffer.clampLine line) ((Text.splitLines text).headD [])).insertLinesAfter
          (buffer.clampLine line) (Text.splitLines text).tail
      else buffer.setLine (buffer.clampLine line) text := by
  let index := buffer.clampLine line
  let cleared : LineBuffer := { buffer with lines := buffer.lines.set index [] }
  -- the cleared line is the one that the insertion addresses, and it is empty
  have hlength : cleared.length = buffer.length := List.length_set
  have hclamp : cleared.clampLine index = index := by
    show min (min line (buffer.length - 1)) (cleared.length - 1) = min line (buffer.length - 1)
    omega
  have hold : cleared.line index = [] := by
    by_cases hindex : index < buffer.lines.length
    · simp [cleared, LineBuffer.line, line?, hindex]
    · apply line_nil_of_length_le
      rw [hlength]
      exact Nat.not_lt.1 hindex
  show (cleared.insert index 0 text).2 = _
  simp only [insert, hclamp, hold, Text.before_nil, Text.after_nil, List.nil_append,
    List.append_nil, extendLast_nil]
  by_cases hterm : text.hasTerminator = true
  · rw [if_neg (by simp [hterm]), if_pos hterm, setLine_withLine]
  · rw [if_pos (by simpa using hterm), if_neg hterm, setLine_withLine]

/-- A buffer stays in step when text is inserted, with terminators in it or without. -/
theorem inStep_insert (h : buffer.InStep) (line column : Nat) (text : Text) :
    (buffer.insert line column text).2.InStep := by
  have hold := h.hasTerminator_line (buffer.clampLine line)
  have hhead := Text.hasTerminator_before hold column
  have htail := Text.hasTerminator_after hold column
  by_cases hterm : text.hasTerminator = true
  · rw [insert, if_neg (by simp [hterm])]
    apply inStep_insertLinesAfter
    apply inStep_setLine h
    rw [Text.hasTerminator_append, hhead, Text.hasTerminator_headD_splitLines, Bool.or_false]
  · have htext : text.hasTerminator = false := by simpa using hterm
    rw [insert, if_pos (by simp [htext])]
    apply inStep_setLine h
    rw [Text.hasTerminator_append, Text.hasTerminator_append, hhead, htext, htail, Bool.or_false,
      Bool.or_false]

/-- A buffer stays in step when part of a line is removed. -/
theorem inStep_removeRange (h : buffer.InStep) (line start stop : Nat) :
    (buffer.removeRange line start stop).2.InStep := by
  have hold := h.hasTerminator_line (buffer.clampLine line)
  rw [removeRange]
  split
  · exact h
  · apply inStep_setLine h
    rw [Text.hasTerminator_append, Text.hasTerminator_before hold, Text.hasTerminator_after hold,
      Bool.or_false]

/-- A buffer stays in step when a line is replaced by one or more. -/
theorem inStep_replaceLine (h : buffer.InStep) (line : Nat) (text : Text) :
    (buffer.replaceLine line text).InStep := by
  rw [replaceLine_eq]
  split
  · apply inStep_insertLinesAfter
    exact inStep_setLine h (Text.hasTerminator_headD_splitLines text)
  · apply inStep_setLine h
    simpa using ‹¬ text.hasTerminator = true›

/-- A buffer stays in step when a line is split. -/
theorem inStep_splitLine (h : buffer.InStep) (line column : Nat) (lead : Text) :
    (buffer.splitLine line column lead).2.InStep := by
  apply inStep_insertLinesAfter
  apply inStep_setLine h
  exact Text.hasTerminator_before (h.hasTerminator_line _) column

/-- A buffer stays in step when two lines are joined. -/
theorem inStep_joinWithNext (h : buffer.InStep) (line : Nat) {size : Nat} {joined : LineBuffer}
    (hjoin : buffer.joinWithNext line = some (size, joined)) : joined.InStep := by
  unfold joinWithNext at hjoin
  split at hjoin
  · next hnext =>
      obtain ⟨-, rfl⟩ := Prod.mk.inj (Option.some.inj hjoin)
      apply inStep_setLine (inStep_eraseLine h (by omega))
      rw [Text.hasTerminator_append, h.hasTerminator_line, h.hasTerminator_line, Bool.or_false]
  · exact absurd hjoin (by simp)

/-- Whatever the lists were before, other lines bring them in step. -/
theorem inStep_replaceLines (buffer : LineBuffer) (texts : List Text) :
    (buffer.replaceLines texts).InStep := by
  rw [replaceLines]
  apply inStep_rehighlightAll
  · show (if (Text.flattenLines texts).isEmpty then [[]] else Text.flattenLines texts) ≠ []
    split
    · exact List.cons_ne_nil _ _
    · next hempty => exact fun hnil => hempty (List.isEmpty_iff.2 hnil)
  · intro line hmem
    simp only at hmem
    split at hmem
    · rw [List.mem_singleton.1 hmem, Text.hasTerminator_nil]
    · exact Text.noTerminator_of_mem_flattenLines hmem

/-- A buffer stays in step with another highlighter, by which all rows are made anew. -/
theorem inStep_setHighlighter (h : buffer.InStep) (highlighter : Highlighter) :
    (buffer.setHighlighter highlighter).InStep :=
  inStep_rehighlightAll h.lines_ne_nil h.noTerminator

/-- One edit keeps the lists in step. -/
theorem InStep.run (h : buffer.InStep) (edit : BufferEdit) : (edit.run buffer).2.1.InStep := by
  cases edit with
  | insert line column text => exact inStep_insert h line column text
  | removeRange line start stop => exact inStep_removeRange h line start stop
  | replaceLine line text => exact inStep_replaceLine h line text
  | splitLine line column lead => exact inStep_splitLine h line column lead
  | insertLinesAfter line texts => exact inStep_insertLinesAfter h line texts
  | joinWithNext line =>
      simp only [BufferEdit.run]
      cases hjoin : buffer.joinWithNext line with
      | none => exact h
      | some result => exact inStep_joinWithNext h line hjoin
  | appendLines texts => exact inStep_insertLinesAfter h _ _
  | replaceLines texts => exact inStep_replaceLines buffer texts
  | replaceAll text => exact inStep_replaceLines buffer _
  | setHighlighter highlighter => exact inStep_setHighlighter h highlighter

/-- The empty line has no tokens and no regions, whatever the highlighter. -/
theorem inStep_empty (highlighter : Highlighter) : (LineBuffer.empty highlighter).InStep where
  lines_ne_nil := by simp [LineBuffer.empty]
  noTerminator := by simp [LineBuffer.empty]
  tokenLists_eq := by simp [LineBuffer.empty, Highlighter.highlight]
  regionLists_eq := by simp [LineBuffer.empty, Highlighter.highlight]

/-- Along every sequence of edits the lists stay in step. -/
theorem Reachable.inStep (h : buffer.Reachable) : buffer.InStep := by
  induction h with
  | empty highlighter => exact inStep_empty highlighter
  | ofText text highlighter => exact inStep_replaceLines _ _
  | run edit _ ih => exact ih.run edit

/-- What lists in step say of one line. -/
theorem InStep.annotations (h : buffer.InStep) {index : Nat} (hindex : index < buffer.length) :
    buffer.tokens index = (buffer.highlighter.highlight (buffer.line index)).tokens ∧
      buffer.regions index = (buffer.highlighter.highlight (buffer.line index)).regions := by
  have hline : buffer.lines[index]? = some (buffer.line index) := by
    rw [line_of_lt hindex]
    exact List.getElem?_eq_getElem hindex
  rw [tokens, regions, h.tokenLists_eq, h.regionLists_eq, List.getElem?_map, List.getElem?_map,
    hline]
  exact ⟨rfl, rfl⟩

/-- In every buffer that edits lead to, the lists have as many entries as there are lines, no line
holds a terminator, and the entries for a line are what the highlighter finds in it now. -/
theorem reachable_rows (h : buffer.Reachable) :
    0 < buffer.length ∧
      buffer.tokenLists.length = buffer.length ∧ buffer.regionLists.length = buffer.length ∧
      (∀ line ∈ buffer.lines, '\n' ∉ line ∧ '\r' ∉ line) ∧
      ∀ index < buffer.length,
        buffer.tokens index = (buffer.highlighter.highlight (buffer.line index)).tokens ∧
          buffer.regions index = (buffer.highlighter.highlight (buffer.line index)).regions := by
  have hstep := h.inStep
  refine ⟨hstep.length_pos, ?_, ?_, ?_, ?_⟩
  · rw [hstep.tokenLists_eq, List.length_map, length]
  · rw [hstep.regionLists_eq, List.length_map, length]
  · intro line hmem
    have hnone := List.any_eq_false.1 (hstep.noTerminator line hmem)
    exact ⟨fun hfeed => hnone _ hfeed rfl, fun hreturn => hnone _ hreturn rfl⟩
  · intro index hindex
    exact hstep.annotations hindex

/-- A paste of three lines past the end of a Rust buffer, then a split inside a character, whose
lead is two lines again. -/
theorem reachable_rows_pasted :
    ∃ buffer : LineBuffer,
      buffer.lines = ["f".toList, ")".toList, "é".toList, "x".toList, []] ∧
        buffer.tokenLists.length = buffer.length ∧
        buffer.tokens 2 = (buffer.highlighter.highlight "é".toList).tokens ∧
        buffer.regions 3 = (buffer.highlighter.highlight "x".toList).regions := by
  let highlighter := Highlighter.ofLanguage .rust
  have hreach := Reachable.run (.splitLine 0 2 ")\n".toList)
    (.run (.insert 7 9 "fé\r\nx\r".toList) (.empty highlighter))
  obtain ⟨-, htokens, -, -, hrows⟩ := reachable_rows hreach
  exact ⟨_, rfl, htokens, (hrows 2 (by decide)).1, (hrows 3 (by decide)).2⟩

end LineBuffer

end TextEditor
