import TextEditor.Grammar.Builtin
import TextEditor.Typing.Indentation

/-!
# Block keywords as whole words

The words that a grammar compares with its keywords are made of the word characters of all scripts.
Indentation asks for less: a keyword at the end of a line opens a block unless a letter, a digit or
an underscore of ASCII stands before it. So the end of a longer word also opens a block where the
rest of the word ends in a character outside ASCII, and the two agree on all other lines.

Main statements: `isIdentChar_iff`, `endsWithWord_iff` and `opensBlock_whole_iff`.
-/

namespace TextEditor

open Unicode

variable {c : Char} {t word : Text}

/-! ## Characters of words -/

/-- The characters that the indentation takes for those of words are all ASCII. -/
theorem toNat_lt_of_isIdentChar (h : isIdentChar c = true) : c.toNat < 0x80 := by
  have hranges : (((decide ('A'.val ≤ c.val ∧ c.val ≤ 'Z'.val)
      || decide ('a'.val ≤ c.val) && decide (c.val ≤ 'z'.val))
      || decide ('0'.val ≤ c.val) && decide (c.val ≤ '9'.val)) || c == '_') = true := h
  simp only [Bool.or_eq_true, Bool.and_eq_true, decide_eq_true_eq, beq_iff_eq,
    UInt32.le_iff_toNat_le] at hranges
  rcases hranges with hranges | rfl
  · have hval : c.toNat = c.val.toNat := rfl
    have hupper : 'Z'.val.toNat = 90 := rfl
    have hlower : 'z'.val.toNat = 122 := rfl
    have hdigit : '9'.val.toNat = 57 := rfl
    omega
  · decide

/-- Letters, digits and the underscore of ASCII are the word characters of ASCII. -/
theorem isIdentChar_iff : isIdentChar c = true ↔ isWord c = true ∧ c.toNat < 0x80 := by
  by_cases hc : c.toNat < 0x80
  · have hascii : ∀ n < 0x80, isIdentChar (Char.ofNat n) = isWord (Char.ofNat n) := by
      decide +kernel
    have hsame := hascii c.toNat hc
    rw [Char.ofNat_toNat] at hsame
    simp [hsame, hc]
  · have hnone : isIdentChar c ≠ true := fun h => hc (toNat_lt_of_isIdentChar h)
    simp [hnone, hc]

/-! ## Words at the end of a text -/

/-- A text ends in a word, and no character of a kind stands before the word. -/
def Text.EndsApart (kind : Char → Bool) (t word : Text) : Prop :=
  ∃ head, t = head ++ word ∧ ∀ c ∈ head.getLast?, kind c = false

/-- A text ends in a word, and a word character outside ASCII stands before the word. -/
def Text.EndsInTail (t word : Text) : Prop :=
  ∃ head c, t = head ++ c :: word ∧ isWord c = true ∧ 0x80 ≤ c.toNat

/-- A suffix is dropped just from a text that ends in it. -/
theorem Text.dropSuffix?_eq_some_iff {head : Text} :
    dropSuffix? word t = some head ↔ t = head ++ word := by
  rw [dropSuffix?]
  split
  · rename_i hends
    obtain ⟨front, rfl⟩ := List.isSuffixOf_iff_suffix.1 hends
    simp [eq_comm]
  · rename_i hends
    have hnone : t ≠ head ++ word := by
      rintro rfl
      exact hends (List.isSuffixOf_iff_suffix.2 (List.suffix_append head word))
    simp [hnone]

/-- Whether a text ends in a word of its own is seen from the last character before the word. -/
theorem Text.endsApart_iff {kind : Char → Bool} : t.EndsApart kind word ↔
    (dropSuffix? word t).any (fun head => !head.getLast?.any kind) = true := by
  simp only [EndsApart, Option.any_eq_true, dropSuffix?_eq_some_iff, Bool.not_eq_true',
    Option.any_eq_false, Option.mem_def]

instance (kind : Char → Bool) (t word : Text) : Decidable (t.EndsApart kind word) :=
  decidable_of_iff _ Text.endsApart_iff.symm

/-- The indentation looks for a word of its own, by its own kind of characters. -/
theorem Text.endsWithWord_eq_true_iff :
    t.endsWithWord word = true ↔ t.EndsApart isIdentChar word := by
  rw [endsApart_iff, endsWithWord]
  cases dropSuffix? word t <;> rfl

/-- What counts as a word at the end of a line: one that stands apart from other words, or the end
of a longer one of which a character outside ASCII comes just before. -/
theorem Text.endsWithWord_iff :
    t.endsWithWord word = true ↔ t.EndsApart isWord word ∨ t.EndsInTail word := by
  rw [endsWithWord_eq_true_iff]
  constructor
  · rintro ⟨head, rfl, hlast⟩
    rcases List.eq_nil_or_concat head with rfl | ⟨front, c, rfl⟩
    · exact .inl ⟨[], rfl, nofun⟩
    · rw [List.concat_eq_append] at hlast ⊢
      have hc : isIdentChar c = false := hlast c (by simp)
      cases hword : isWord c with
      | false =>
          refine .inl ⟨front ++ [c], rfl, ?_⟩
          simpa using hword
      | true =>
          have hhigh : ¬ c.toNat < 0x80 := by
            intro hlow
            rw [isIdentChar_iff.2 ⟨hword, hlow⟩] at hc
            cases hc
          exact .inr ⟨front, c, by simp, hword, Nat.not_lt.1 hhigh⟩
  · rintro (⟨head, ht, hlast⟩ | ⟨head, c, ht, -, hhigh⟩)
    · refine ⟨head, ht, fun c hc => ?_⟩
      rw [Bool.eq_false_iff, Ne, isIdentChar_iff, hlast c hc]
      simp
    · have hc : isIdentChar c = false := by
        rw [Bool.eq_false_iff, Ne, isIdentChar_iff]
        exact fun h => Nat.not_lt.2 hhigh h.2
      exact ⟨head ++ [c], by simpa using ht, by simpa using hc⟩

namespace IndentRules

variable {rules : IndentRules}

/-! ## Lines that open blocks -/

/-- A line ends in an opening bracket, white space left out. -/
def EndsInBracket (line : Text) : Prop := line.trim.getLast?.any isOpeningBracket = true

instance (line : Text) : Decidable (EndsInBracket line) := inferInstanceAs (Decidable (_ = true))

/-- A block keyword is the last word of a line. -/
def EndsInKeyword (rules : IndentRules) (line : Text) : Prop :=
  ∃ keyword ∈ rules.blockKeywords, line.trim.toAsciiLower.EndsApart isWord keyword.toList

instance (rules : IndentRules) (line : Text) : Decidable (rules.EndsInKeyword line) :=
  inferInstanceAs (Decidable (∃ _ ∈ _, _))

/-- A block keyword is the end of the last word of a line, of which a character outside ASCII comes
before it. -/
def EndsInKeywordTail (rules : IndentRules) (line : Text) : Prop :=
  ∃ keyword ∈ rules.blockKeywords, line.trim.toAsciiLower.EndsInTail keyword.toList

/-- A line that ends so is not blank. -/
theorem EndsInKeywordTail.trim_ne_nil {line : Text} (h : rules.EndsInKeywordTail line) :
    line.trim ≠ [] := by
  obtain ⟨keyword, -, head, c, ht, -⟩ := h
  intro hnil
  rw [hnil] at ht
  simp [Text.toAsciiLower] at ht

/-- Which lines open a block by the rules with bare keywords alone. -/
theorem opensBlock_iff (hstyle : rules.blockStyle = .bare) (hcolons : rules.colonBlocks = false)
    (htags : rules.markupTags = false) (line : Text) :
    rules.opensBlock line = true ↔ EndsInBracket line ∨
      line.trim ≠ [] ∧ (rules.EndsInKeyword line ∨ rules.EndsInKeywordTail line) := by
  have hkeywords : (rules.blockKeywords.any fun keyword =>
      rules.endsWithKeyword line.trim.toAsciiLower keyword.toList) = true ↔
        rules.EndsInKeyword line ∨ rules.EndsInKeywordTail line := by
    simp only [List.any_eq_true, endsWithKeyword, hstyle, Text.endsWithWord_iff, and_or_left,
      exists_or]
    rfl
  simp only [opensBlock, EndsInBracket]
  cases hlast : line.trim.getLast? with
  | none => simp [List.getLast?_eq_none_iff.1 hlast]
  | some last =>
      have hne : line.trim ≠ [] := by
        intro hnil
        rw [hnil] at hlast
        cases hlast
      simp only [hcolons, htags, Bool.and_false, Bool.false_and, Bool.or_false, Bool.or_eq_true,
        hkeywords, Option.any_some, hne, ne_eq, not_false_eq_true, true_and]

/-- When keywords open blocks as whole words only, by the rules with bare keywords alone. A line
opens a block if it ends in a bracket, or else if it ends in a keyword before which there is no word
character of ASCII. So without a bracket it has a keyword as its last word, unless there is a
keyword at the end of a longer word, just behind a character outside ASCII. -/
theorem opensBlock_whole_iff (hstyle : rules.blockStyle = .bare)
    (hcolons : rules.colonBlocks = false) (htags : rules.markupTags = false) (line : Text) :
    (rules.opensBlock line = true ↔ EndsInBracket line ∨
      line.trim ≠ [] ∧ (rules.EndsInKeyword line ∨ rules.EndsInKeywordTail line)) ∧
    ((rules.opensBlock line = true → ¬ EndsInBracket line → rules.EndsInKeyword line) ↔
      (rules.EndsInKeywordTail line → EndsInBracket line ∨ rules.EndsInKeyword line)) := by
  have hopens := opensBlock_iff hstyle hcolons htags line
  refine ⟨hopens, ?_, ?_⟩
  · intro hwhole htail
    by_cases hbracket : EndsInBracket line
    · exact .inl hbracket
    · exact .inr (hwhole (hopens.2 (.inr ⟨htail.trim_ne_nil, .inr htail⟩)) hbracket)
  · intro htails hopen hbracket
    rcases hopens.1 hopen with hends | ⟨-, hkeyword | htail⟩
    · exact absurd hends hbracket
    · exact hkeyword
    · exact (htails htail).resolve_left hbracket

/-- A keyword behind a word that ends in an accent. -/
theorem opensBlock_whole_iff_accent :
    let rules := Language.go.table.indent
    let line : Text := "  café else ".toList
    rules.blockStyle = .bare ∧ rules.colonBlocks = false ∧ rules.markupTags = false ∧
      rules.opensBlock line = true ∧ (¬ EndsInBracket line → rules.EndsInKeyword line) := by
  intro rules line
  obtain ⟨hopens, hwhole⟩ := @opensBlock_whole_iff rules rfl rfl rfl line
  have hkeyword : rules.EndsInKeyword line := by decide +kernel
  have hne : line.trim ≠ [] := by decide +kernel
  have hopen := hopens.2 (.inr ⟨hne, .inl hkeyword⟩)
  exact ⟨rfl, rfl, rfl, hopen, hwhole.2 (fun _ => .inr hkeyword) hopen⟩

/-- The end of a word opens a block, though the usual pattern finds the whole word only. -/
theorem opensBlock_of_tail :
    let rules := Language.go.table.indent
    let line : Text := "réel".toList
    rules.blockStyle = .bare ∧ rules.colonBlocks = false ∧ rules.markupTags = false ∧
      rules.opensBlock line = true ∧ ¬ EndsInBracket line ∧ ¬ rules.EndsInKeyword line ∧
      (Pattern.read Grammar.usualWord.toList).toOption.map
        (fun word => Rule.spans ⟨.keyword, word⟩ line) = some [⟨0, 5⟩] := by
  decide +kernel

end IndentRules

end TextEditor
