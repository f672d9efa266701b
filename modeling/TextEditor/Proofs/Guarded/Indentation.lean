import TextEditor.Proofs.Guarded.Basic
import TextEditor.Typing.Indentation
import TextEditor.Typing.Pairs

/-!
# Pairs and indentation within range

What typing goes by, with every cut and difference guarded. Indentation is measured by taking the
size of what is left from that of the whole.

Main statements: `pairAction_eq`, `pairAround_eq`, `nextIndent_eq` and `dedent_eq`. For the count of
tags, `countOf_closing_le`: no text has more closing tags than it has opening brackets.
-/

namespace TextEditor.Guarded

/-! ## Pairs -/

/-- What typing a character at byte `column` of a line does. -/
def pairAction (pairs : List CharPair) (line : Text) (column : Nat) (c : Char) :
    Option PairAction := do
  let column ← floor line column
  let before ← front line column
  let after ← back line column
  return (pairs.findSome? (·.action? before after c)).getD .insert

/-- The characters around any column can be looked at. -/
@[simp] theorem pairAction_eq (pairs : List CharPair) (line : Text) (column : Nat) (c : Char) :
    pairAction pairs line column c = some (CharPair.action pairs line column c) := by
  simp [pairAction, CharPair.action, Text.before_floor, Text.after_floor]

/-- The characters around byte `n` of a line, provided that they are a bracket and the one that
closes it. -/
def pairAround (pairs : List CharPair) (line : Text) (n : Nat) : Option (Option CharPair) := do
  let n ← floor line n
  let before ← front line n
  let after ← back line n
  return match before.getLast?, after.head? with
    | some opener, some closer =>
        if CharPair.isBracketPair pairs opener closer then some (opener, closer) else none
    | _, _ => none

/-- The pair around any column can be looked at. -/
@[simp] theorem pairAround_eq (pairs : List CharPair) (line : Text) (n : Nat) :
    pairAround pairs line n = some (CharPair.around? pairs line n) := by
  simp only [pairAround, floor_eq, front_of_isBoundary (Text.isBoundary_floor line n),
    back_of_isBoundary (Text.isBoundary_floor line n), Option.bind_eq_bind, Option.bind_some,
    Text.before_floor, Text.after_floor, CharPair.around?, Text.charsAround]
  cases (line.before n).getLast? with
  | none => rfl
  | some opener => cases (line.after n).head? <;> rfl

/-! ## Indentation -/

/-- The spaces and tabs at the start of a line. -/
def leadingBlanks (line : Text) : Option Text := do
  front line (← minus line.size (Text.size (line.dropWhile isIndentChar)))

/-- The blanks that lead a line can be cut off. -/
@[simp] theorem leadingBlanks_eq (line : Text) :
    leadingBlanks line = some line.leadingBlanks := by
  have hsplit : line.takeWhile isIndentChar ++ line.dropWhile isIndentChar = line :=
    List.takeWhile_append_dropWhile
  have hsize : line.size =
      Text.size (line.takeWhile isIndentChar) + Text.size (line.dropWhile isIndentChar) := by
    rw [← Text.size_append, hsplit]
  have hfront : front line (Text.size (line.takeWhile isIndentChar)) =
      some (line.takeWhile isIndentChar) := by
    have hboundary := Text.isBoundary_append_size (line.takeWhile isIndentChar)
      (line.dropWhile isIndentChar)
    have hbefore := Text.before_append_size (line.takeWhile isIndentChar)
      (line.dropWhile isIndentChar)
    rw [hsplit] at hboundary hbefore
    rw [front_of_isBoundary hboundary, hbefore]
  rw [leadingBlanks, minus_of_le (by omega), Option.bind_eq_bind, Option.bind_some, hsize,
    Nat.add_sub_cancel]
  exact hfront

/-- Whether a line that has been trimmed ends in a tag and opens more tags than it closes. -/
def opensMarkupTag (line : Text) : Option Bool :=
  if !line.endsIn ['>'] || line.endsIn ['/', '>'] || line.endsIn ['-', '-', '>'] ||
      (Text.find? ['<', '!'] line).isSome then
    some false
  else do
    let closing := Text.countOf ['<', '/'] line
    return closing < (← minus (Text.countOf ['<'] line) closing)

/-- Each closing tag begins with a bracket of its own. -/
theorem countOf_closing_le (line : Text) :
    Text.countOf ['<', '/'] line ≤ Text.countOf ['<'] line := by
  -- while the slash after a bracket is left out, the count of brackets is that from the slash on
  have hfrom (skip : Nat) (hskip : skip ≤ 1) :
      Text.countFrom ['<', '/'] skip line ≤ Text.countFrom ['<'] 0 line := by
    induction line generalizing skip with
    | nil => cases skip <;> simp [Text.countFrom]
    | cons c t ih =>
        have hrest : Text.countFrom ['<'] 0 t ≤ Text.countFrom ['<'] 0 (c :: t) := by
          simp only [Text.countFrom]
          split
          · exact Nat.le_add_left _ _
          · exact Nat.le_refl _
        cases skip with
        | succ skip =>
            obtain rfl : skip = 0 := by omega
            exact Nat.le_trans (ih 0 (by omega)) hrest
        | zero =>
            by_cases hclosing : List.isPrefixOf ['<', '/'] (c :: t) = true
            · have hopening : List.isPrefixOf ['<'] (c :: t) = true := by
                simp only [List.isPrefixOf, Bool.and_eq_true] at hclosing ⊢
                exact ⟨hclosing.1, trivial⟩
              rw [Text.countFrom, Text.countFrom, if_pos hclosing, if_pos hopening]
              exact Nat.add_le_add_left (ih 1 (Nat.le_refl _)) 1
            · rw [Text.countFrom, if_neg hclosing]
              exact Nat.le_trans (ih 0 (by omega)) hrest
  exact hfrom 0 (by omega)

/-- The tag that a line may end with can be cut out. -/
@[simp] theorem opensMarkupTag_eq (line : Text) :
    opensMarkupTag line = some line.opensMarkupTag := by
  simp only [opensMarkupTag, Text.opensMarkupTag, minus_of_le (countOf_closing_le line),
    Option.bind_eq_bind, Option.bind_some]
  cases line.endsIn ['>'] <;> cases line.endsIn ['/', '>'] <;>
    cases line.endsIn ['-', '-', '>'] <;> cases Text.find? ['<', '!'] line <;> rfl

/-- Whether a line opens a block. -/
def opensBlock (rules : IndentRules) (line : Text) : Option Bool := do
  let line := line.trim
  match line.getLast? with
  | none => return false
  | some last =>
      if isOpeningBracket last then return true
      if last == ':' && rules.colonBlocks then return true
      if rules.markupTags then
        if ← opensMarkupTag line then return true
      return rules.blockKeywords.any fun keyword =>
        rules.endsWithKeyword line.toAsciiLower keyword.toList

/-- Any line can be asked whether it opens a block. -/
@[simp] theorem opensBlock_eq (rules : IndentRules) (line : Text) :
    opensBlock rules line = some (rules.opensBlock line) := by
  simp only [opensBlock, opensMarkupTag_eq, IndentRules.opensBlock, Option.bind_eq_bind,
    Option.bind_some]
  cases line.trim.getLast? with
  | none => rfl
  | some last =>
      simp only
      cases isOpeningBracket last <;> cases (last == ':' && rules.colonBlocks) <;>
        cases rules.markupTags <;> cases line.trim.opensMarkupTag <;> rfl

/-- The indentation of the line after a line. -/
def nextIndent (rules : IndentRules) (line unit : Text) : Option Text := do
  let blanks ← leadingBlanks line
  return blanks ++ if ← opensBlock rules line then unit else []

/-- The indentation of the line after it can be made. -/
@[simp] theorem nextIndent_eq (rules : IndentRules) (line unit : Text) :
    nextIndent rules line unit = some (rules.nextIndent line unit) := by
  simp [nextIndent, IndentRules.nextIndent]

/-- An indentation with its last unit taken off: one tab, or spaces up to the width of one. -/
def dedent (indent : Text) (tabWidth : Nat) : Option Text :=
  match indent.getLast? with
  | some '\t' => some indent.dropLast
  | _ => do
      let spaces ← minus indent.size (Text.size (indent.reverse.dropWhile (· == ' ')).reverse)
      front indent (← minus indent.size (min spaces (max tabWidth 1)))

/-- Spaces are a byte each. -/
theorem size_spaces (count : Nat) : Text.size (List.replicate count ' ') = count := by
  induction count with
  | zero => rfl
  | succ count ih =>
      have hspace : ' '.utf8Size = 1 := by decide
      rw [List.replicate_succ, Text.size_cons, ih, hspace, Nat.add_comm]

/-- A text is what stands before the spaces at its end, and those. -/
theorem append_spaces (indent : Text) :
    (indent.reverse.dropWhile (· == ' ')).reverse ++
      List.replicate (indent.reverse.takeWhile (· == ' ')).length ' ' = indent := by
  have hspaces : indent.reverse.takeWhile (· == ' ') =
      List.replicate (indent.reverse.takeWhile (· == ' ')).length ' ' := by
    apply List.eq_replicate_of_mem
    intro c hc
    exact beq_iff_eq.1 (List.all_eq_true.1 List.all_takeWhile c hc)
  rw [← List.reverse_replicate, ← hspaces, ← List.reverse_append,
    List.takeWhile_append_dropWhile, List.reverse_reverse]

/-- Some of the spaces at the end of a text can be cut off. -/
theorem front_append_spaces (head : Text) {off count : Nat} (h : off ≤ count) :
    front (head ++ List.replicate count ' ') (head.size + count - off) =
      some ((head ++ List.replicate count ' ').take
        ((head ++ List.replicate count ' ').length - off)) := by
  obtain ⟨kept, rfl⟩ := Nat.exists_eq_add_of_le' h
  have hsplit : head ++ List.replicate (kept + off) ' ' =
      (head ++ List.replicate kept ' ') ++ List.replicate off ' ' := by
    rw [List.append_assoc, List.replicate_append_replicate]
  have hsize : head.size + (kept + off) - off =
      Text.size (head ++ List.replicate kept ' ') := by
    rw [Text.size_append, size_spaces, ← Nat.add_assoc, Nat.add_sub_cancel]
  have hlength : ((head ++ List.replicate kept ' ') ++ List.replicate off ' ').length - off =
      (head ++ List.replicate kept ' ').length := by
    rw [List.length_append, List.length_replicate, Nat.add_sub_cancel]
  rw [hsplit, hsize, hlength, front_of_isBoundary (Text.isBoundary_append_size _ _),
    Text.before_append_size, List.take_left]

/-- From any indentation a level can be cut off. -/
@[simp] theorem dedent_eq (indent : Text) (tabWidth : Nat) :
    dedent indent tabWidth = some (indent.dedent tabWidth) := by
  by_cases htab : indent.getLast? = some '\t'
  · simp only [dedent, Text.dedent, htab]
  · have hguarded : dedent indent tabWidth = (do
        let spaces ← minus indent.size (Text.size (indent.reverse.dropWhile (· == ' ')).reverse)
        front indent (← minus indent.size (min spaces (max tabWidth 1)))) := by
      unfold dedent
      split
      · next heq => exact absurd heq htab
      · rfl
    have hplain : indent.dedent tabWidth = indent.take (indent.length -
        min (indent.reverse.takeWhile (· == ' ')).length (max tabWidth 1)) := by
      unfold Text.dedent
      split
      · next heq => exact absurd heq htab
      · rfl
    have hindent := append_spaces indent
    have hcut := front_append_spaces (indent.reverse.dropWhile (· == ' ')).reverse
      (Nat.min_le_left (indent.reverse.takeWhile (· == ' ')).length (max tabWidth 1))
    have hsize := congrArg Text.size hindent
    rw [Text.size_append, size_spaces] at hsize
    rw [hindent, hsize] at hcut
    have hspaces : indent.size - Text.size (indent.reverse.dropWhile (· == ' ')).reverse =
        (indent.reverse.takeWhile (· == ' ')).length := by
      omega
    rw [hguarded, hplain, minus_of_le (by omega), hspaces, Option.bind_eq_bind, Option.bind_some,
      minus_of_le (by omega), Option.bind_some]
    exact hcut

end TextEditor.Guarded
