import TextEditor.Proofs.Editor.Splitting

/-!
# A closing bracket behind an opening one

A line that ends in an opening bracket is split, and the next line begins one unit of indentation
deeper; a closing bracket typed there takes one level off again. What is put on is the unit of the
settings, and what is taken off is one tab or as many spaces as a tab is wide, if there are so many.
So the closing bracket comes to stand below the line of its opening one if the unit is a tab or as
wide as one, and else only where no more blanks are there than the unit.

Main statements: `dedent_append_tab` and `dedent_append_spaces_iff` for the indentation,
`insertChar_dedents` for the closing bracket, and `closing_bracket_indent`.
-/

namespace TextEditor

open Unicode

namespace Text

variable {blanks t text : Text} {tabWidth width : Nat}

/-- A tab that has been put on is what is taken off. -/
theorem dedent_append_tab (blanks : Text) (tabWidth : Nat) :
    Text.dedent (blanks ++ ['\t']) tabWidth = blanks := by
  rw [dedent, List.getLast?_concat]
  exact List.dropLast_concat

/-- Number of spaces at the end of a text. -/
def trailingSpaces (t : Text) : Nat := (t.reverse.takeWhile (· == ' ')).length

/-- There are no spaces at the end of a text that ends in something else, or is empty. -/
theorem trailingSpaces_eq_zero_iff : blanks.trailingSpaces = 0 ↔ blanks.getLast? ≠ some ' ' := by
  rw [trailingSpaces, List.length_eq_zero_iff, ← List.head?_reverse]
  cases blanks.reverse with
  | nil => simp
  | cons c t => simp [List.takeWhile_cons]

/-- There are no more spaces at the end of a text than characters in it. -/
theorem trailingSpaces_le_length (t : Text) : t.trailingSpaces ≤ t.length :=
  Nat.le_trans (List.takeWhile_prefix _).length_le (Nat.le_of_eq List.length_reverse)

/-- Spaces put behind a text join those that it ends in. -/
theorem trailingSpaces_append (blanks : Text) (width : Nat) :
    trailingSpaces (blanks ++ List.replicate width ' ') = width + blanks.trailingSpaces := by
  rw [trailingSpaces, List.reverse_append, List.reverse_replicate, List.takeWhile_append_of_pos,
    List.length_append, List.length_replicate, trailingSpaces]
  intro c hc
  rw [List.eq_of_mem_replicate hc]
  rfl

/-- Of spaces that have been put on as many are taken off as a tab is wide, or all there are. -/
theorem dedent_append_spaces (hwidth : 1 ≤ width) (htab : 1 ≤ tabWidth) :
    Text.dedent (blanks ++ List.replicate width ' ') tabWidth =
      (blanks ++ List.replicate width ' ').take
        (blanks.length + width - min (width + blanks.trailingSpaces) tabWidth) := by
  have hlast : (blanks ++ List.replicate width ' ').getLast? = some ' ' := by
    rw [List.getLast?_append, List.getLast?_replicate, if_neg (by omega)]
    rfl
  have hspaces := trailingSpaces_append blanks width
  rw [trailingSpaces] at hspaces
  rw [dedent, hlast]
  simp only [hspaces, Nat.max_eq_left htab, List.length_append, List.length_replicate]
  rfl

/-- The spaces that have been put on, and no others, are those taken off if they are as wide as a
tab, or less wide with nothing more to take. -/
theorem dedent_append_spaces_iff (hwidth : 1 ≤ width) (htab : 1 ≤ tabWidth) :
    Text.dedent (blanks ++ List.replicate width ' ') tabWidth = blanks ↔
      width = tabWidth ∨ width ≤ tabWidth ∧ blanks.getLast? ≠ some ' ' := by
  rw [dedent_append_spaces hwidth htab, ← trailingSpaces_eq_zero_iff]
  have hspaces := trailingSpaces_le_length blanks
  constructor
  · intro hsame
    have hlength := congrArg List.length hsame
    rw [List.length_take, List.length_append, List.length_replicate] at hlength
    omega
  · intro hexact
    have hkeep : blanks.length + width - min (width + blanks.trailingSpaces) tabWidth =
        blanks.length := by omega
    rw [hkeep, List.take_left]

/-- The blanks in front of a text that begins with none are those that the line begins with. -/
theorem leadingBlanks_append (hblanks : ∀ c ∈ blanks, isIndentChar c = true)
    (htext : ∀ c, text.head? = some c → isIndentChar c = false) :
    leadingBlanks (blanks ++ text) = blanks := by
  have hnone : text.takeWhile isIndentChar = [] := by
    cases text with
    | nil => rfl
    | cons c text => rw [List.takeWhile_cons_of_neg (by simp [htext c rfl])]
  rw [leadingBlanks, List.takeWhile_append_of_pos hblanks, hnone, List.append_nil]

/-- White space at the ends does not hide the last character that is none. -/
theorem getLast?_trim {c : Char} (h : t.getLast? = some c) (hc : isBlank c = false) :
    t.trim.getLast? = some c := by
  obtain ⟨front, rfl⟩ := List.getLast?_eq_some_iff.1 h
  have hleft : trimLeft (front ++ [c]) = trimLeft front ++ [c] := by
    unfold trimLeft
    rw [List.dropWhile_append]
    split
    · next hempty =>
        rw [List.isEmpty_iff.1 hempty, List.dropWhile_cons_of_neg (by simp [hc])]
        rfl
    · rfl
  rw [trim, hleft, trimRight, List.reverse_append, List.reverse_singleton, List.singleton_append,
    List.dropWhile_cons_of_neg (by simp [hc]), List.getLast?_reverse]
  rfl

end Text

/-- A line that ends in an opening bracket opens a block, whatever the language. -/
theorem IndentRules.opensBlock_of_bracket (rules : IndentRules) {line : Text}
    (h : line.getLast?.any isOpeningBracket = true) : rules.opensBlock line = true := by
  cases hlast : line.getLast? with
  | none => simp [hlast] at h
  | some c =>
      have hopening : isOpeningBracket c = true := by simpa [hlast] using h
      have hblank : isBlank c = false := by
        have hcases := hopening
        simp only [isOpeningBracket, Bool.or_eq_true, beq_iff_eq] at hcases
        rcases hcases with (rfl | rfl) | rfl <;> decide +kernel
      rw [opensBlock, Text.getLast?_trim hlast hblank]
      simp [hopening]

/-- One tab, or at least one space. -/
inductive IsIndentUnit : Text → Prop where
  | tab : IsIndentUnit ['\t']
  | spaces {width : Nat} (h : 1 ≤ width) : IsIndentUnit (List.replicate width ' ')

namespace IsIndentUnit

variable {unit : Text}

/-- A unit of indentation is not empty. -/
theorem ne_nil (h : IsIndentUnit unit) : unit ≠ [] := by
  cases h with
  | tab => simp
  | spaces h =>
      rw [Ne, List.replicate_eq_nil_iff]
      omega

/-- A unit of indentation is made of blanks. -/
theorem isIndentChar (h : IsIndentUnit unit) : ∀ c ∈ unit, isIndentChar c = true := by
  cases h with
  | tab => simp [TextEditor.isIndentChar]
  | spaces h =>
      intro c hc
      rw [List.eq_of_mem_replicate hc]
      rfl

/-- Any number of copies of a unit of indentation are made of blanks. -/
theorem isIndentChar_copies (h : IsIndentUnit unit) (n : Nat) :
    ∀ c ∈ (List.replicate n unit).flatten, TextEditor.isIndentChar c = true := by
  intro c hc
  obtain ⟨copy, hcopy, hmem⟩ := List.mem_flatten.1 hc
  rw [List.eq_of_mem_replicate hcopy] at hmem
  exact h.isIndentChar c hmem

/-- What has been put on is what is taken off if the unit is a tab or as wide as one, or less wide
with no more spaces to take. -/
theorem dedent_append_iff (h : IsIndentUnit unit) {tabWidth : Nat} (htab : 1 ≤ tabWidth)
    (blanks : Text) : Text.dedent (blanks ++ unit) tabWidth = blanks ↔
      unit = ['\t'] ∨ unit.length = tabWidth ∨
        unit.length ≤ tabWidth ∧ blanks.getLast? ≠ some ' ' := by
  cases h with
  | tab => simp [Text.dedent_append_tab]
  | @spaces width hwidth =>
      have hspace : List.replicate width ' ' ≠ ['\t'] := by
        intro heq
        have htab : '\t' ∈ List.replicate width ' ' := by simp [heq]
        cases List.eq_of_mem_replicate htab
      rw [Text.dedent_append_spaces_iff hwidth htab, List.length_replicate]
      simp [hspace]

/-- Behind some units the last one is what is taken off if it is a tab or as wide as one, or less
wide and the only one. -/
theorem dedent_copies_iff (h : IsIndentUnit unit) {tabWidth : Nat} (htab : 1 ≤ tabWidth) (n : Nat) :
    Text.dedent ((List.replicate n unit).flatten ++ unit) tabWidth =
        (List.replicate n unit).flatten ↔
      unit = ['\t'] ∨ unit.length = tabWidth ∨ unit.length ≤ tabWidth ∧ n = 0 := by
  rw [h.dedent_append_iff htab]
  cases h with
  | tab => simp
  | @spaces width hwidth =>
      have hlast : (List.replicate n (List.replicate width ' ')).flatten.getLast? ≠ some ' ' ↔
          n = 0 := by
        rw [List.flatten_replicate_replicate, List.getLast?_replicate]
        have hzero : n * width = 0 ↔ n = 0 := by
          rw [Nat.mul_eq_zero]
          omega
        simp [hzero]
      rw [hlast]

end IsIndentUnit

namespace LineBuffer

variable {buffer : LineBuffer} {above below : List Text}

/-- A text is put into a line. -/
theorem lines_insert_cut {s t text : Text} (h : buffer.lines = above ++ (s ++ t) :: below)
    (htext : text.hasTerminator = false) :
    (buffer.insert above.length s.size text).2.lines = Cut.lines ⟨above, s ++ text, t, below⟩ := by
  have hlt : above.length < buffer.length := by
    rw [length_of_lines_eq h]
    omega
  rw [lines_insert hlt _ htext, line_of_lines_eq h, Text.before_append_size, Text.after_append_size,
    h, List.set_append_right _ _ (Nat.le_refl _), Nat.sub_self, List.set_cons_zero]
  rfl

end LineBuffer

namespace Editor

variable {editor : Editor} {here : Cut} {origin : Option LineSource} {closer : Char}

/-- A closing bracket behind blanks alone dedents its line if this is wanted. -/
theorem dedentsAt_eq_true (hdedent : editor.settings.autoDedent = true)
    (hcloser : isClosingBracket closer = true) {before behind : Text} (hbefore : before ≠ [])
    (hblanks : ∀ c ∈ before, isIndentChar c = true) :
    editor.dedentsAt (before ++ behind) before.size closer = true := by
  have hall : before.all isIndentChar = true := List.all_eq_true.2 hblanks
  have hsome : before.isEmpty = false := List.isEmpty_eq_false_iff.2 hbefore
  rw [dedentsAt, Text.before_append_size, hdedent, hcloser, hall, hsome]
  rfl

/-- A closing bracket behind nothing but blanks takes one level of them off. -/
theorem insertChar_dedents (h : editor.At here) (hdedent : editor.settings.autoDedent = true)
    (hclose : editor.settings.autoClose = false) (hcloser : isClosingBracket closer = true)
    (hbefore : here.before ≠ []) (hblanks : ∀ c ∈ here.before, isIndentChar c = true) :
    ∃ more, (editor.insertChar closer).At
      ⟨here.above, here.before.dedent editor.settings.tabWidth ++ [closer], here.behind,
        here.below ++ more⟩ := by
  have hterminator : isTerminator closer = false := by
    rw [isClosingBracket, Bool.or_eq_true, Bool.or_eq_true, beq_iff_eq, beq_iff_eq,
      beq_iff_eq] at hcloser
    rcases hcloser with (rfl | rfl) | rfl <;> rfl
  have hdedents : editor.dedentsAt (here.before ++ here.behind) here.before.size closer = true :=
    dedentsAt_eq_true hdedent hcloser hbefore hblanks
  obtain ⟨off, hoff⟩ := Text.dedent_isPrefix here.before editor.settings.tabWidth
  have hcursor : editor.dedentCursor =
      let kept := here.before.dedent editor.settings.tabWidth
      (kept.size, { editor with
        buffer := (editor.buffer.removeRange here.above.length kept.size here.before.size).2
        dirty := true }) := by
    rw [dedentCursor, h.currentLine_eq, h.line, h.column, Text.before_append_size]
  generalize here.before.dedent editor.settings.tabWidth = kept at hoff hcursor ⊢
  have hlines : editor.buffer.lines =
      here.above ++ (kept ++ (off ++ here.behind)) :: here.below := by
    rw [h.lines, Cut.lines, ← hoff, List.append_assoc]
  have hremoved := LineBuffer.lines_removeRange hlines
  have htyped : Text.hasTerminator [closer] = false := by simp [hterminator]
  have hinserted := LineBuffer.lines_insert_cut hremoved htyped
  rw [insertChar, if_neg (by simp [hterminator]), h.currentLine_eq, h.column, if_pos hdedents,
    hcursor, ← hoff, Text.size_append]
  simp only [typeAt, hclose, Bool.false_eq_true, if_false, h.line]
  rw [← size_append_singleton]
  exact exists_at_afterEdit hinserted

/-- The key for a new line splits the cursor's line while the document is edited. -/
theorem perform_enter (hmode : editor.mode = .editing) {event : KeyEvent}
    (h : event.key = .enter) : (editor.perform (.key event)).2 = editor.splitLine := by
  have hctrl (c : Char) : event.isCtrlChar c = false := by
    simp [KeyEvent.isCtrlChar, KeyEvent.char?, h]
  rw [perform, handleKey, hmode]
  simp only [editingKey, hctrl, h, Bool.false_eq_true, if_false]

/-- At the end of a line that ends in an opening bracket, Enter goes to a line that begins with the
blanks of the line and one unit more. -/
theorem splitLine_opens (h : editor.At here) (hplain : editor.settings.bracketSplit = false)
    (hunit : editor.settings.indentUnit.hasTerminator = false) (hbehind : here.behind = [])
    (hopens : here.before.getLast?.any isOpeningBracket = true) :
    ∃ more, editor.splitLine.At ⟨here.above ++ [here.before],
      here.before.leadingBlanks ++ editor.settings.indentUnit, [], here.below ++ more⟩ := by
  have hsplits : ¬ editor.SplitsBrackets here := by
    rintro ⟨hsplit, -⟩
    rw [hplain] at hsplit
    cases hsplit
  have hindent : editor.indentBehind here =
      here.before.leadingBlanks ++ editor.settings.indentUnit := by
    rw [indentBehind, IndentRules.opensBlock_of_bracket _ hopens, hbehind]
    simp [Text.trimLeft]
  have hterminator : here.behind.hasTerminator = false := by rw [hbehind]; rfl
  obtain ⟨buffer, hlines, hsplit⟩ := splitLine_plain h hsplits hterminator hunit
  rw [hindent, hbehind] at hlines hsplit
  rw [hsplit]
  exact exists_at_afterEdit hlines

/-- Where a closing bracket comes to stand that is typed behind an opening one. In any sound editor
in which a document is being edited, without splitting brackets and closing pairs, but with closing
brackets going back: the cursor is at the end of a line of some units of indentation and a text that
ends in an opening bracket, and Enter is pressed and a closing bracket typed. Then the bracket
stands on a line of its own, behind the blanks of the line before and one unit more with one level
taken off again. These are the blanks of the line before exactly if the unit is a tab, or as wide as
one, or less wide where those blanks do not end in a space; and if the text begins with no blank,
they are as many units as before exactly in the first two cases, or if there are no units and the
unit is no wider than a tab. -/
theorem closing_bracket_indent (h : editor.Sound origin) (hmode : editor.mode = .editing)
    (htab : 1 ≤ editor.settings.tabWidth) (hunit : IsIndentUnit editor.settings.indentUnit)
    (hdedent : editor.settings.autoDedent = true) (hplain : editor.settings.bracketSplit = false)
    (hclose : editor.settings.autoClose = false) {n : Nat} {text : Text}
    (hline : editor.currentLine = (List.replicate n editor.settings.indentUnit).flatten ++ text)
    (hopens : text.getLast?.any isOpeningBracket = true)
    (hend : editor.cursor.column = editor.currentLine.size) {enter : KeyEvent} {typing : Operation}
    (henter : enter.key = .enter) (htyping : typing.typed? = some closer)
    (hcloser : isClosingBracket closer = true) :
    let unit := editor.settings.indentUnit
    let tabWidth := editor.settings.tabWidth
    let after := (editor.performAll [.key enter, typing]).2
    let blanks := editor.currentLine.leadingBlanks
    let indent := Text.dedent (blanks ++ unit) tabWidth
    (∃ more, after.At ⟨editor.cut.above ++ [editor.currentLine], indent ++ [closer], [],
      editor.cut.below ++ more⟩) ∧
      (indent = blanks ↔ unit = ['\t'] ∨ unit.length = tabWidth ∨
        unit.length ≤ tabWidth ∧ blanks.getLast? ≠ some ' ') ∧
      ((∀ c, text.head? = some c → isIndentChar c = false) →
        (indent = (List.replicate n unit).flatten ↔ unit = ['\t'] ∨ unit.length = tabWidth ∨
          unit.length ≤ tabWidth ∧ n = 0)) := by
  intro unit tabWidth after blanks indent
  have hat := h.at_cut
  have hbefore : editor.cut.before = editor.currentLine := by
    show editor.currentLine.before editor.cursor.column = editor.currentLine
    rw [hend, Text.before_size]
  have hbehind : editor.cut.behind = [] := by
    show editor.currentLine.after editor.cursor.column = []
    rw [hend, Text.after_size]
  have hbracket : editor.cut.before.getLast?.any isOpeningBracket = true := by
    rw [hbefore, hline, List.getLast?_append]
    cases hlast : text.getLast? with
    | none => simp [hlast] at hopens
    | some c => simpa [hlast] using hopens
  refine ⟨?_, hunit.dedent_append_iff htab blanks, fun htext => ?_⟩
  · obtain ⟨more, hsplit⟩ := splitLine_opens hat hplain
      (Text.hasTerminator_of_blanks hunit.isIndentChar) hbehind hbracket
    rw [hbefore] at hsplit
    have hsettings := (settles_splitLine editor).settings_eq
    have hmode' : editor.splitLine.mode = .editing :=
      (congrArg (·.1) editor.stance_splitLine).trans hmode
    have hafter : after = editor.splitLine.insertChar closer := by
      rw [← perform_of_typed? hmode' htyping, ← perform_enter hmode henter]
      rfl
    have hblanks : ∀ c ∈ blanks ++ unit, isIndentChar c = true := by
      intro c hc
      rcases List.mem_append.1 hc with hc | hc
      · exact Text.isIndentChar_of_mem_leadingBlanks hc
      · exact hunit.isIndentChar c hc
    obtain ⟨more', hclosed⟩ := insertChar_dedents hsplit (hsettings ▸ hdedent) (hsettings ▸ hclose)
      hcloser (List.append_ne_nil_of_right_ne_nil _ hunit.ne_nil) hblanks
    rw [hsettings] at hclosed
    refine ⟨more ++ more', ?_⟩
    rw [hafter, ← List.append_assoc]
    exact hclosed
  · have hblanks : blanks = (List.replicate n unit).flatten := by
      show editor.currentLine.leadingBlanks = (List.replicate n unit).flatten
      rw [hline, Text.leadingBlanks_append (hunit.isIndentChar_copies n) htext]
    have hexact := hunit.dedent_copies_iff htab n
    rwa [← hblanks] at hexact ⊢

/-- With a unit as wide as a tab the bracket comes to stand below its line. -/
theorem closing_bracket_indent_wide :
    let settings : Settings := { Settings.usual with
      indentUnit := List.replicate 4 ' ', autoClose := false, bracketSplit := false }
    let earlier : List Operation := [.loadText "    f(\nb".toList, .goto 1 (some 6)]
    let editor := ((new settings).performAll earlier).2
    let after := (editor.performAll [.key (.plain .enter), .key (.plain (.char ')'))]).2
    after.currentLine = (List.replicate 1 editor.settings.indentUnit).flatten ++ [')'] := by
  intro settings earlier editor after
  have hmode : editor.mode = .editing := by decide +kernel
  have hsettings : editor.settings = settings := by decide +kernel
  have hline : editor.currentLine =
      (List.replicate 1 settings.indentUnit).flatten ++ ['f', '('] := by decide +kernel
  have hend : editor.cursor.column = editor.currentLine.size := by decide +kernel
  have hunit : IsIndentUnit settings.indentUnit := .spaces (by decide)
  -- nothing more is computed from here on
  clear_value earlier
  rw [← hsettings] at hline hunit
  obtain ⟨⟨more, hat⟩, -, hcopies⟩ := closing_bracket_indent ((sound_new _).performAll earlier)
    hmode (by rw [hsettings]; decide) hunit (by rw [hsettings]; rfl) (by rw [hsettings])
    (by rw [hsettings]) hline (by decide) hend
    (show (KeyEvent.plain .enter).key = .enter from rfl)
    (show (Operation.key (.plain (.char ')'))).typed? = some ')' from rfl) (by decide)
  have htext : ∀ c, ['f', '('].head? = some c → isIndentChar c = false := by
    intro c hc
    obtain rfl := Option.some.inj hc
    rfl
  have hindent := (hcopies htext).2 (.inr (.inl (by rw [hsettings]; rfl)))
  have hafter := hat.currentLine_eq
  rw [List.append_nil] at hafter
  rw [hafter, hindent]

/-- With a unit of two spaces and tabs of four, the bracket comes to stand further left than the
line of its opening one. -/
theorem closing_bracket_indent_narrow :
    let settings : Settings := { Settings.usual with
      indentUnit := List.replicate 2 ' ', autoClose := false, bracketSplit := false }
    let editor := ((new settings).performAll [.loadText "  f(".toList, .goto 1 (some 4)]).2
    let after := (editor.performAll [.key (.plain .enter), .key (.plain (.char ')'))]).2
    editor.mode = .editing ∧ editor.settings.tabWidth = 4 ∧ editor.settings.autoDedent = true ∧
      editor.currentLine = (List.replicate 1 editor.settings.indentUnit).flatten ++ "f(".toList ∧
      editor.cursor.column = editor.currentLine.size ∧ after.currentLine = [')'] ∧
      after.currentLine ≠ (List.replicate 1 editor.settings.indentUnit).flatten ++ [')'] := by
  decide +kernel

end Editor

end TextEditor
