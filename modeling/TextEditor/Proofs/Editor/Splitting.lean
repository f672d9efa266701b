import Mathlib.Data.List.TakeWhile
import TextEditor.Proofs.Buffer.Splices
import TextEditor.Proofs.Editor.Cut

/-!
# Splitting a line

A split line goes on in the next one with its indentation. Between two brackets that belong together
there is one line more, with nothing on it but a deeper indentation, and the cursor goes there. In
either case a split only inserts: what stood before the cursor still stands ahead of the inserted
text, and what stood behind it follows.

Main statements: `splitLine_plain` and `splitLine_brackets`, which say what lines a split makes, and
`splitLine_inserts`.
-/

namespace TextEditor

namespace Text

/-- Blanks end no line. -/
theorem hasTerminator_of_blanks {t : Text} (h : ∀ c ∈ t, isIndentChar c = true) :
    t.hasTerminator = false := by
  rw [hasTerminator, List.any_eq_false]
  intro c hc
  have hblank := h c hc
  rw [isIndentChar, Bool.or_eq_true, beq_iff_eq, beq_iff_eq] at hblank
  rcases hblank with rfl | rfl <;> decide

/-- The blanks that lead a line are spaces and tabs. -/
theorem isIndentChar_of_mem_leadingBlanks {t : Text} {c : Char} (h : c ∈ t.leadingBlanks) :
    isIndentChar c = true := List.mem_takeWhile_imp h

/-- There is no terminator among the blanks that lead a line. -/
theorem hasTerminator_leadingBlanks (t : Text) : t.leadingBlanks.hasTerminator = false :=
  hasTerminator_of_blanks fun _ => isIndentChar_of_mem_leadingBlanks

/-- Taking off indentation keeps the front of it. -/
theorem dedent_isPrefix (indent : Text) (tabWidth : Nat) : indent.dedent tabWidth <+: indent := by
  unfold dedent
  split
  · exact List.dropLast_prefix indent
  · exact List.take_prefix _ indent

/-- A text without a terminator begins without one. -/
theorem hasTerminator_of_isPrefix {s t : Text} (h : s <+: t) (ht : t.hasTerminator = false) :
    s.hasTerminator = false := by
  obtain ⟨rest, rfl⟩ := h
  rw [hasTerminator_append, Bool.or_eq_false_iff] at ht
  exact ht.1

end Text

namespace LineBuffer

variable {buffer : LineBuffer} {above below : List Text}

/-- Lines are put behind one. -/
theorem lines_insertLinesAfter_cut {line : Text} {texts : List Text}
    (h : buffer.lines = above ++ line :: below)
    (htexts : ∀ text ∈ texts, text.hasTerminator = false) :
    (buffer.insertLinesAfter above.length texts).lines = above ++ line :: (texts ++ below) := by
  have hlt : above.length < buffer.length := by
    rw [length_of_lines_eq h]
    omega
  rw [lines_insertLinesAfter_eq hlt, line_of_lines_eq h, Text.flattenLines_eq_self htexts, h]
  simp

/-- A line is cut, and its second part goes to the next line. -/
theorem splitLine_cut {s t lead : Text} (h : buffer.lines = above ++ (s ++ t) :: below)
    (hlead : (lead ++ t).hasTerminator = false) :
    (buffer.splitLine above.length s.size lead).1 = above.length + 1 ∧
      (buffer.splitLine above.length s.size lead).2.lines =
        Cut.lines ⟨above ++ [s], lead, t, below⟩ := by
  have hlt : above.length < buffer.length := by
    rw [length_of_lines_eq h]
    omega
  have hset : (buffer.setLine above.length s).lines = above ++ s :: below := by
    rw [lines_setLine_eq hlt, h]
    simp
  have hinserted := lines_insertLinesAfter_cut hset (List.forall_mem_singleton.2 hlead)
  simp only [splitLine, clampLine_of_lt hlt, line_of_lines_eq h, Text.before_append_size,
    Text.after_append_size, hinserted]
  simp [Cut.lines]

end LineBuffer

namespace Editor

variable {editor after : Editor} {here there : Cut} {origin : Option LineSource}

/-- A line at this cut is split with a line to itself between the brackets around the cut. -/
def SplitsBrackets (editor : Editor) (here : Cut) : Prop :=
  editor.settings.bracketSplit = true ∧
    CharPair.Enclose editor.settings.pairs here.before here.behind

/-- The indentation of the line that a split makes: the blanks before the cut, one unit more after
the opening of a block, and one level less before the closing of a bracket. -/
def indentBehind (editor : Editor) (here : Cut) : Text :=
  let opens := editor.buffer.highlighter.grammar.indent.opensBlock here.before
  let indent := here.before.leadingBlanks ++ if opens then editor.settings.indentUnit else []
  let closes := here.behind.trimLeft.head?.any isClosingBracket
  if editor.settings.autoDedent && closes then indent.dedent editor.settings.tabWidth else indent

/-- A new line is indented by blanks and units of indentation, without a terminator. -/
theorem hasTerminator_indentBehind (here : Cut)
    (hunit : editor.settings.indentUnit.hasTerminator = false) :
    (editor.indentBehind here).hasTerminator = false := by
  have hindent (opens : Bool) : Text.hasTerminator (here.before.leadingBlanks ++
      if opens then editor.settings.indentUnit else []) = false := by
    rw [Text.hasTerminator_append, Text.hasTerminator_leadingBlanks, Bool.false_or]
    cases opens
    · rfl
    · exact hunit
  unfold indentBehind
  simp only
  split
  · exact Text.hasTerminator_of_isPrefix (Text.dedent_isPrefix ..) (hindent _)
  · exact hindent _

/-- Whether brackets are put on lines of their own is seen from the pieces around the cursor. -/
theorem At.splitBrackets_iff (h : editor.At here) :
    (editor.settings.bracketSplit && (CharPair.around? editor.settings.pairs editor.currentLine
      editor.cursor.column).isSome) = true ↔ editor.SplitsBrackets here := by
  rw [Bool.and_eq_true, h.currentLine_eq, h.column, CharPair.isSome_around?_iff, SplitsBrackets]

/-- The second part of the line goes to the next line behind its indentation. -/
theorem splitLine_plain (h : editor.At here) (hplain : ¬ editor.SplitsBrackets here)
    (hbehind : here.behind.hasTerminator = false)
    (hunit : editor.settings.indentUnit.hasTerminator = false) :
    let indent := editor.indentBehind here
    let there : Cut := ⟨here.above ++ [here.before], indent, here.behind, here.below⟩
    ∃ buffer : LineBuffer, buffer.lines = there.lines ∧
      editor.splitLine = editor.afterEdit buffer there.above.length there.before.size := by
  intro indent there
  have hlead : Text.hasTerminator (indent ++ here.behind) = false := by
    rw [Text.hasTerminator_append, hasTerminator_indentBehind here hunit, hbehind]
    rfl
  obtain ⟨hnext, hlines⟩ := LineBuffer.splitLine_cut h.lines hlead
  have hindent : editor.splitIndent editor.currentLine editor.cursor.column = indent := by
    rw [splitIndent, h.currentLine_eq, h.column, Text.before_append_size, Text.after_append_size]
    rfl
  refine ⟨_, hlines, ?_⟩
  have habove : there.above.length = here.above.length + 1 := List.length_append
  rw [splitLine]
  simp only [hindent, mt h.splitBrackets_iff.1 hplain, Bool.false_eq_true, if_false]
  rw [h.line, h.column, hnext, habove]

/-- The second part of the line goes two lines down, and an empty line with a deeper indentation
between the two parts. -/
theorem splitLine_brackets (h : editor.At here) (hbrackets : editor.SplitsBrackets here)
    (hbehind : here.behind.hasTerminator = false)
    (hunit : editor.settings.indentUnit.hasTerminator = false) :
    let blanks := (here.before ++ here.behind).leadingBlanks
    let there : Cut := ⟨here.above ++ [here.before], blanks ++ editor.settings.indentUnit, [],
      (blanks ++ here.behind) :: here.below⟩
    ∃ buffer : LineBuffer, buffer.lines = there.lines ∧
      editor.splitLine = editor.afterEdit buffer there.above.length there.before.size := by
  intro blanks there
  have hblanks : blanks.hasTerminator = false := Text.hasTerminator_leadingBlanks _
  have hremoved : (editor.buffer.removeRange here.above.length here.before.size
      (here.before.size + here.behind.size)).2.lines =
        here.above ++ here.before :: here.below := by
    have hlines : editor.buffer.lines =
        here.above ++ (here.before ++ (here.behind ++ [])) :: here.below := by
      rw [List.append_nil]
      exact h.lines
    rw [LineBuffer.lines_removeRange hlines, Cut.lines, List.append_nil]
  have htexts : ∀ text ∈ [blanks ++ editor.settings.indentUnit, blanks ++ here.behind],
      text.hasTerminator = false := by
    simp [hblanks, hunit, hbehind]
  have hlines := LineBuffer.lines_insertLinesAfter_cut hremoved htexts
  refine ⟨_, hlines.trans (by simp [Cut.lines, there]), ?_⟩
  have habove : there.above.length = here.above.length + 1 := List.length_append
  rw [splitLine]
  simp only [h.splitBrackets_iff.2 hbrackets, if_true]
  rw [splitBrackets, h.currentLine_eq, h.line, h.column, Text.after_append_size, Text.size_append,
    habove]

/-- What has come in between the two parts of a document can be taken out again. -/
theorem At.applyTo?_inserted (h : editor.At here) (hafter : after.At there) {inserted : Text}
    (hinserted : there.textBefore ++ there.textBehind =
      here.textBefore ++ (inserted ++ here.textBehind)) :
    Splice.applyTo? ⟨here.textBefore.size, here.textBefore.size + inserted.size, []⟩
      after.buffer.serialize = some editor.buffer.serialize := by
  rw [hafter.serialize_eq, hinserted, applyTo?_append_append, List.append_nil, h.serialize_eq]

/-- Splitting a line only inserts. In any sound editor whose document has been read to its end, and
whose unit of indentation holds no terminator: between two brackets that belong together the line
becomes three, the first part, an empty line one unit deeper than the line, where the cursor goes,
and the second part with the blanks of the line. Otherwise it becomes two, the first part and the
second part behind its indentation, where the cursor goes. The other lines stay, and taking out what
has been inserted behind the first part leaves the document as it was. -/
theorem splitLine_inserts (h : editor.Sound origin) (hstream : editor.isStreaming = false)
    (hunit : editor.settings.indentUnit.hasTerminator = false) :
    let here := editor.cut
    let after := editor.splitLine
    let blanks := (here.before ++ here.behind).leadingBlanks
    let inner := blanks ++ editor.settings.indentUnit
    let indent := editor.indentBehind here
    let without (inserted : Text) : Option Text :=
      Splice.applyTo? ⟨here.textBefore.size, here.textBefore.size + inserted.size, []⟩
        after.buffer.serialize
    editor.At here ∧
      (editor.SplitsBrackets here →
        after.At ⟨here.above ++ [here.before], inner, [], (blanks ++ here.behind) :: here.below⟩ ∧
        without ('\n' :: inner ++ '\n' :: blanks) = some editor.buffer.serialize) ∧
      (¬ editor.SplitsBrackets here →
        after.At ⟨here.above ++ [here.before], indent, here.behind, here.below⟩ ∧
        without ('\n' :: indent) = some editor.buffer.serialize) := by
  intro here after blanks inner indent without
  have hat : editor.At here := h.at_cut
  have hloaded := unfinished?_eq_none hstream
  have hbehind : here.behind.hasTerminator = false :=
    Text.hasTerminator_after (h.buffer.hasTerminator_line _) _
  refine ⟨hat, fun hbrackets => ?_, fun hplain => ?_⟩
  · obtain ⟨buffer, hlines, hsplit⟩ := splitLine_brackets hat hbrackets hbehind hunit
    have hafter := at_afterEdit hlines hloaded
    rw [← hsplit] at hafter
    refine ⟨hafter, hat.applyTo?_inserted hafter ?_⟩
    simp [Cut.textBefore, Cut.textBehind, inner, blanks]
  · obtain ⟨buffer, hlines, hsplit⟩ := splitLine_plain hat hplain hbehind hunit
    have hafter := at_afterEdit hlines hloaded
    rw [← hsplit] at hafter
    refine ⟨hafter, hat.applyTo?_inserted hafter ?_⟩
    simp [Cut.textBefore, Cut.textBehind, indent]

/-- Between two brackets a line becomes three. With the splitting of brackets off it becomes two,
and the second bracket goes back to the blanks of its line. -/
theorem splitLine_inserts_block :
    let earlier : List Operation := [.loadText "a\n let x[]\nb".toList, .goto 2 (some 7)]
    let editor := ((new .usual).performAll earlier).2
    let plain := ((new { Settings.usual with bracketSplit := false }).performAll earlier).2
    editor.splitLine.At
        ⟨["a".toList, " let x[".toList], " \t".toList, [], [" ]".toList, "b".toList]⟩ ∧
      plain.splitLine.At
        ⟨["a".toList, " let x[".toList], " ".toList, "]".toList, ["b".toList]⟩ := by
  intro earlier editor plain
  have hcut : editor.cut = ⟨["a".toList], " let x[".toList, "]".toList, ["b".toList]⟩ := by
    decide +kernel
  have hcutPlain : plain.cut = editor.cut := by decide +kernel
  have hstream : editor.isStreaming = false ∧ plain.isStreaming = false := by decide +kernel
  have hsettings : editor.settings = .usual ∧
      plain.settings = { Settings.usual with bracketSplit := false } := by decide +kernel
  have hindent : plain.indentBehind plain.cut = " ".toList := by decide +kernel
  -- nothing more is computed from here on
  clear_value earlier
  have hbrackets : editor.SplitsBrackets editor.cut := by
    rw [SplitsBrackets, hsettings.1, hcut]
    exact ⟨rfl, '[', ']', by decide⟩
  have hplain : ¬ plain.SplitsBrackets plain.cut := by
    rintro ⟨hsplit, -⟩
    rw [hsettings.2] at hsplit
    cases hsplit
  have hunit : editor.settings.indentUnit.hasTerminator = false := by
    rw [hsettings.1]
    rfl
  have hunitPlain : plain.settings.indentUnit.hasTerminator = false := by
    rw [hsettings.2]
    rfl
  obtain ⟨-, hafter, -⟩ :=
    splitLine_inserts ((sound_new _).performAll earlier) hstream.1 hunit
  obtain ⟨-, -, hafterPlain⟩ :=
    splitLine_inserts ((sound_new _).performAll earlier) hstream.2 hunitPlain
  have hthree := (hafter hbrackets).1
  have htwo := (hafterPlain hplain).1
  rw [hcut, hsettings.1] at hthree
  rw [hindent, hcutPlain, hcut] at htwo
  exact ⟨hthree, htwo⟩

end Editor

end TextEditor
