import TextEditor.Proofs.Guarded.Indentation
import TextEditor.Proofs.Guarded.Reach
import TextEditor.Editor.Typing

/-!
# Typing within range

Typing, deleting and splitting lines, with every step guarded. The cursor's line is cut at the
cursor without looking for a boundary first: this is where the cursor has to be at one.

Main statements: `insertText_eq`, `splitAtCursor_eq`, `insertChar_eq`, `backspace_eq` and
`deleteForward_eq`.
-/

namespace TextEditor.Guarded

/-- The editor with a text inserted at the cursor. -/
def insertText (editor : Editor) (text : Text) : Option Editor :=
  if text.isEmpty then some editor
  else do
    let (position, buffer) ← insert editor.buffer editor.cursor.line editor.cursor.column text
    afterEdit editor buffer position.line position.column

/-- The editor with the line split between the brackets around the cursor. -/
def splitBrackets (editor : Editor) : Option Editor := do
  let line := editor.cursor.line
  let column := editor.cursor.column
  let text := editor.currentLine
  let blanks ← leadingBlanks text
  let inner := blanks ++ editor.settings.indentUnit
  let closing := blanks ++ (← back text column)
  let (_, buffer) ← removeRange editor.buffer line column text.size
  afterEdit editor (← insertLinesAfter buffer line [inner, closing]) (line + 1) inner.size

/-- The indentation of the line that a split at byte `column` of a line makes. -/
def splitIndent (editor : Editor) (text : Text) (column : Nat) : Option Text := do
  let indent ← nextIndent editor.buffer.highlighter.grammar.indent (← front text column)
    editor.settings.indentUnit
  let rest ← back text column
  if editor.settings.autoDedent && (Text.trimLeft rest).head?.any isClosingBracket then
    dedent indent editor.settings.tabWidth
  else return indent

/-- The editor with the line split at the cursor, and the second part indented. -/
def splitAtCursor (editor : Editor) : Option Editor := do
  let line := editor.cursor.line
  let column := editor.cursor.column
  let text := editor.currentLine
  if editor.settings.bracketSplit then
    if (← pairAround editor.settings.pairs text column).isSome then
      return ← splitBrackets editor
  let indent ← splitIndent editor text column
  let (newLine, buffer) ← splitLine editor.buffer line column indent
  afterEdit editor buffer newLine indent.size

/-- Whether a closing bracket typed at byte `column` of a line has only blanks before it. -/
def dedentsAt (editor : Editor) (text : Text) (column : Nat) (c : Char) : Option Bool :=
  if editor.settings.autoDedent && isClosingBracket c then do
    let before ← front text column
    return !before.isEmpty && Text.size (← leadingBlanks before) == before.size
  else some false

/-- The editor with one level of indentation taken off before the cursor, and where the cursor then
belongs. -/
def dedentCursor (editor : Editor) : Option (Nat × Editor) := do
  let column := editor.cursor.column
  let keep := Text.size (← dedent (← front editor.currentLine column) editor.settings.tabWidth)
  let (_, buffer) ← removeRange editor.buffer editor.cursor.line keep column
  return (keep, { editor with buffer := buffer, dirty := true })

/-- The editor with a character typed at byte `column` of the cursor's line. -/
def typeAt (editor : Editor) (column : Nat) (c : Char) : Option Editor := do
  let line := editor.cursor.line
  let action ←
    if editor.settings.autoClose then
      pairAction editor.settings.pairs editor.currentLine column c
    else some .insert
  let typed (text : Text) : Option Editor := do
    let (_, buffer) ← insert editor.buffer line column text
    afterEdit editor buffer line (column + c.utf8Size)
  match action with
  | .insert => typed [c]
  | .autoClose closer => typed [c, closer]
  | .skipOver => jumpTo editor line (column + c.utf8Size)

/-- The editor with a character typed at the cursor. -/
def insertChar (editor : Editor) (c : Char) : Option Editor := do
  if isTerminator c then splitAtCursor editor
  else if ← dedentsAt editor editor.currentLine editor.cursor.column c then
    let (column, editor) ← dedentCursor editor
    typeAt editor column c
  else typeAt editor editor.cursor.column c

/-- The editor with what stands before the cursor deleted. -/
def backspace (editor : Editor) : Option Editor := do
  let line := editor.cursor.line
  let column := editor.cursor.column
  if column = 0 then
    if line = 0 then return editor
    else
      let previous ← minus line 1
      match ← joinWithNext none editor.buffer previous with
      | some (join, buffer) => afterEdit editor buffer previous join
      | none => return editor
  else
    let text := editor.currentLine
    match ← pairAround editor.settings.pairs text column with
    | some (opener, closer) =>
        let start ← minus column opener.utf8Size
        let (_, buffer) ← removeRange editor.buffer line start (column + closer.utf8Size)
        afterEdit editor buffer line start
    | none =>
        let start ← previousCluster text column
        let (_, buffer) ← removeRange editor.buffer line start column
        afterEdit editor buffer line start

/-- The editor with what stands after the cursor deleted. -/
def deleteForward (editor : Editor) : Option Editor := do
  let line := editor.cursor.line
  let column := editor.cursor.column
  let text := editor.currentLine
  if column < text.size then
    let (_, buffer) ← removeRange editor.buffer line column (← nextCluster text column)
    afterEdit editor buffer line column
  else match ← joinWithNext none editor.buffer line with
    | some (_, buffer) => afterEdit editor buffer line column
    | none => return editor

/-! ## Equations -/

variable {editor : Editor} {origin : Option LineSource}

/-- Any text can be inserted. -/
theorem insertText_eq (h : editor.buffer.InStep) (text : Text) :
    insertText editor text = some (editor.insertText text) := by
  unfold insertText Editor.insertText
  split
  · rfl
  · simp only [insert_eq h, afterEdit_eq (LineBuffer.inStep_insert h ..), Option.bind_eq_bind,
      Option.bind_some]

/-- Brackets can be put on lines of their own. -/
theorem splitBrackets_eq (h : editor.Sound origin) :
    splitBrackets editor = some editor.splitBrackets := by
  have hcut := h.isBoundary_currentLine
  have hremoved := LineBuffer.inStep_removeRange h.buffer editor.cursor.line editor.cursor.column
    editor.currentLine.size
  simp only [splitBrackets, leadingBlanks_eq, back_of_isBoundary hcut, removeRange_eq h.buffer,
    insertLinesAfter_eq hremoved, afterEdit_eq (LineBuffer.inStep_insertLinesAfter hremoved _ _),
    Option.bind_eq_bind, Option.bind_some, Editor.splitBrackets]

/-- The blanks before a cut can be cut out for the new line. -/
theorem splitIndent_eq {text : Text} {column : Nat} (hcut : text.isBoundary column = true) :
    splitIndent editor text column = some (editor.splitIndent text column) := by
  simp only [splitIndent, front_of_isBoundary hcut, back_of_isBoundary hcut, nextIndent_eq,
    dedent_eq, Option.bind_eq_bind, Option.bind_some, Editor.splitIndent]
  split
  · rfl
  · rfl

/-- The cursor's line can be split. -/
theorem splitAtCursor_eq (h : editor.Sound origin) :
    splitAtCursor editor = some editor.splitLine := by
  have hcut := h.isBoundary_currentLine
  simp only [splitAtCursor, pairAround_eq, splitBrackets_eq h, splitIndent_eq hcut,
    splitLine_eq h.buffer, afterEdit_eq (LineBuffer.inStep_splitLine h.buffer _ _ _),
    Option.bind_eq_bind, Option.bind_some, Editor.splitLine]
  cases editor.settings.bracketSplit with
  | false => rfl
  | true =>
      cases CharPair.around? editor.settings.pairs editor.currentLine editor.cursor.column with
      | none => rfl
      | some pair => rfl

/-- A text is all blanks when its leading blanks are as large as the text. -/
theorem size_leadingBlanks (t : Text) :
    (Text.size t.leadingBlanks == t.size) = t.all isIndentChar := by
  induction t with
  | nil => rfl
  | cons c t ih =>
      have hsize : 0 < c.utf8Size := Char.utf8Size_pos c
      unfold Text.leadingBlanks at ih ⊢
      cases hc : isIndentChar c with
      | true =>
          rw [List.takeWhile_cons_of_pos hc, List.all_cons, hc, Bool.true_and, ← ih,
            Bool.eq_iff_iff, beq_iff_eq, beq_iff_eq, Text.size_cons, Text.size_cons,
            Nat.add_left_cancel_iff]
      | false =>
          rw [List.takeWhile_cons_of_neg (by simp [hc]), List.all_cons, hc, Bool.false_and]
          simp only [Text.size_nil, Text.size_cons, beq_eq_false_iff_ne]
          omega

/-- The text before a cut can be looked at for anything but blanks. -/
theorem dedentsAt_eq {text : Text} {column : Nat} (hcut : text.isBoundary column = true)
    (editor : Editor) (c : Char) :
    dedentsAt editor text column c = some (editor.dedentsAt text column c) := by
  unfold dedentsAt Editor.dedentsAt
  split
  · next hclosing =>
      simp only [front_of_isBoundary hcut, leadingBlanks_eq, size_leadingBlanks, hclosing,
        Option.bind_eq_bind, Option.bind_some, Option.pure_def, Bool.true_and]
  · next hclosing => simp only [eq_false_of_ne_true hclosing, Bool.false_and]

/-- The cursor's line can be dedented. -/
theorem dedentCursor_eq (h : editor.Sound origin) :
    dedentCursor editor = some editor.dedentCursor := by
  have hcut := h.isBoundary_currentLine
  simp only [dedentCursor, front_of_isBoundary hcut, dedent_eq, removeRange_eq h.buffer,
    Option.bind_eq_bind, Option.bind_some, Option.pure_def, Editor.dedentCursor]

/-- A character can be put in at any column of the cursor's line. -/
theorem typeAt_eq (h : editor.buffer.InStep) (column : Nat) (c : Char) :
    typeAt editor column c = some (editor.typeAt column c) := by
  simp only [typeAt, pairAction_eq, insert_eq h, afterEdit_eq (LineBuffer.inStep_insert h _ _ _),
    jumpTo_eq h, Option.bind_eq_bind, Option.bind_some, Editor.typeAt]
  cases editor.settings.autoClose with
  | false => rfl
  | true =>
      simp only [if_true]
      cases CharPair.action editor.settings.pairs editor.currentLine column c with
      | insert => rfl
      | autoClose closer => rfl
      | skipOver => rfl

/-- Any character can be typed. -/
theorem insertChar_eq (h : editor.Sound origin) (c : Char) :
    insertChar editor c = some (editor.insertChar c) := by
  have hcut := h.isBoundary_currentLine
  -- after the dedent the cursor is not placed yet, so that only the buffer is known to be in step
  have hdedented : editor.dedentCursor.2.buffer.InStep :=
    LineBuffer.inStep_removeRange h.buffer _ _ _
  simp only [insertChar, splitAtCursor_eq h, dedentsAt_eq hcut, dedentCursor_eq h,
    typeAt_eq h.buffer, typeAt_eq hdedented, Option.bind_eq_bind, Option.bind_some,
    Editor.insertChar]
  split
  · rfl
  · split
    · rfl
    · rfl

/-- A bracket before byte `n` of a line is no larger than `n`. -/
theorem utf8Size_le_of_around? {pairs : List CharPair} {line : Text} {n : Nat}
    {opener closer : Char} (h : CharPair.around? pairs line n = some (opener, closer)) :
    opener.utf8Size ≤ n := by
  have hlast : (line.before n).getLast? = some opener := by
    unfold CharPair.around? Text.charsAround at h
    split at h
    · next heq =>
        split at h
        · obtain ⟨rfl, rfl⟩ := Prod.mk.inj (Option.some.inj h)
          exact (Prod.mk.inj heq).1
        · cases h
    · cases h
  -- the text before the floor of `n` ends with the bracket
  obtain ⟨front, hfront⟩ := List.getLast?_eq_some_iff.1 hlast
  have hsize := congrArg Text.size hfront
  have hle := Text.floor_le line n
  rw [Text.size_append, Text.size_cons, Text.size_nil] at hsize
  unfold Text.floor at hle
  omega

/-- Text before the cursor can be deleted, also at the start of the document. -/
theorem backspace_eq (h : editor.Sound origin) : backspace editor = some editor.backspace := by
  unfold backspace Editor.backspace
  by_cases hcolumn : editor.cursor.column = 0
  · by_cases hline : editor.cursor.line = 0
    · simp only [if_pos hcolumn, if_pos hline, Option.pure_def]
    · simp only [if_pos hcolumn, if_neg hline, minus_of_le (Nat.pos_of_ne_zero hline),
        joinWithNext_eq h.buffer, Option.bind_eq_bind, Option.bind_some]
      cases hjoin : editor.buffer.joinWithNext (editor.cursor.line - 1) with
      | none => rfl
      | some joined => exact afterEdit_eq (LineBuffer.inStep_joinWithNext h.buffer _ hjoin) ..
  · simp only [if_neg hcolumn, pairAround_eq, previousCluster_eq, removeRange_eq h.buffer,
      afterEdit_eq (LineBuffer.inStep_removeRange h.buffer _ _ _), Option.bind_eq_bind,
      Option.bind_some]
    cases haround : CharPair.around? editor.settings.pairs editor.currentLine
        editor.cursor.column with
    | none => rfl
    | some pair =>
        simp only [minus_of_le (utf8Size_le_of_around? haround), Option.bind_some]

/-- Text behind the cursor can be deleted, also at the end of the document. -/
theorem deleteForward_eq (h : editor.Sound origin) :
    deleteForward editor = some editor.deleteForward := by
  simp only [deleteForward, nextCluster_eq, removeRange_eq h.buffer, joinWithNext_eq h.buffer,
    afterEdit_eq (LineBuffer.inStep_removeRange h.buffer _ _ _), Option.bind_eq_bind,
    Option.bind_some, Editor.deleteForward]
  split
  · rfl
  · cases hjoin : editor.buffer.joinWithNext editor.cursor.line with
    | none => rfl
    | some joined => exact afterEdit_eq (LineBuffer.inStep_joinWithNext h.buffer _ hjoin) ..

end TextEditor.Guarded
