import Mathlib
import TextEditor.Grammar.Builtin
import TextEditor.Proofs.Grammar.Priority

/-!
# Keywords in capitals

A word is a keyword if the table lists it. Where a grammar folds case, a word with capitals in it is
also looked up in lower case; but the keywords themselves are taken as the table has them. So case
does not matter just where a table lists each of its keywords in lower case too.

Main statements: `isKeyword_iff`, `exists_of_isKeyword`, and `isKeyword_ignores_case_iff`.
-/

namespace TextEditor

variable {table : GrammarTable} {grammar : Grammar} {word : Text}

/-- A text in lower case is its own lower case. -/
theorem Text.toAsciiLower_toAsciiLower (t : Text) :
    t.toAsciiLower.toAsciiLower = t.toAsciiLower := by
  rw [toAsciiLower, toAsciiLower, List.map_map]
  exact List.map_congr_left fun c _ => Char.toLower_toLower_eq_toLower c

/-- A text without capitals is in lower case. -/
theorem Text.toAsciiLower_eq_self (h : word.any Char.isUpper = false) :
    word.toAsciiLower = word := by
  have hsame : ∀ c ∈ word, asciiLower c = id c := fun c hc =>
    Char.toLower_eq_of_not_isUpper (List.any_eq_false.1 h c hc)
  rw [toAsciiLower, List.map_congr_left hsame, List.map_id]

/-- The words that a table lists. -/
def GrammarTable.words (table : GrammarTable) : List Text := table.keywords.map String.toList

/-- A table lists each of its words in lower case too. -/
def GrammarTable.ListsLower (table : GrammarTable) : Prop :=
  ∀ word ∈ table.words, word.toAsciiLower ∈ table.words

instance (table : GrammarTable) : Decidable table.ListsLower :=
  inferInstanceAs (Decidable (∀ _ ∈ _, _))

namespace Grammar

/-- A grammar has the keywords of its table, and folds case where the table does. -/
theorem keywords_of_ofTable (h : ofTable table = .ok grammar) :
    grammar.keywords = table.words.eraseDups ∧ grammar.foldKeywordCase = table.foldKeywordCase := by
  simp only [ofTable] at h
  obtain ⟨_, -, h⟩ := exists_of_bind_eq_ok h
  obtain ⟨_, -, h⟩ := exists_of_bind_eq_ok h
  obtain ⟨_, -, h⟩ := exists_of_bind_eq_ok h
  obtain ⟨_, -, h⟩ := exists_of_bind_eq_ok h
  obtain ⟨_, -, h⟩ := exists_of_bind_eq_ok h
  cases h
  exact ⟨rfl, rfl⟩

/-- A table of words and nothing else can be read. -/
theorem exists_ofTable_of_words (language : Language) (keywords : List String) (fold : Bool) :
    ∃ grammar, ofTable { language := language, keywords := keywords, foldKeywordCase := fold } =
      .ok grammar := by
  have hisOk : (Pattern.read usualWord.toList).isOk = true := by decide +kernel
  cases hword : Pattern.read usualWord.toList with
  | error e =>
      rw [hword] at hisOk
      cases hisOk
  | ok word =>
      simp only [ofTable, Option.getD_none, hword]
      exact ⟨_, rfl⟩

/-- Which words are keywords: those that the table lists and, where it folds case, those that it
lists in lower case. -/
theorem isKeyword_iff (h : ofTable table = .ok grammar) (word : Text) :
    grammar.isKeyword word = true ↔ word ∈ table.words ∨
      table.foldKeywordCase = true ∧ word.toAsciiLower ∈ table.words := by
  obtain ⟨hkeywords, hfold⟩ := keywords_of_ofTable h
  simp only [isKeyword, hkeywords, hfold, Bool.or_eq_true, Bool.and_eq_true,
    List.contains_iff_mem, List.mem_eraseDups]
  cases hupper : word.any Char.isUpper with
  | true => simp
  | false => simp [Text.toAsciiLower_eq_self hupper]

/-- What a listed word is in another case is always a keyword just where the table lists its words
in lower case too. -/
theorem isKeyword_lower_iff (h : ofTable table = .ok grammar)
    (hfold : table.foldKeywordCase = true) :
    (∀ word ∈ table.words, ∀ other, word.toAsciiLower = other.toAsciiLower →
      grammar.isKeyword other = true) ↔ table.ListsLower := by
  constructor
  · intro hall word hword
    have hlower := hall word hword word.toAsciiLower (Text.toAsciiLower_toAsciiLower word).symm
    rw [isKeyword_iff h, Text.toAsciiLower_toAsciiLower] at hlower
    exact hlower.elim id And.right
  · intro hlists word hword other hsame
    rw [isKeyword_iff h, ← hsame]
    exact .inr ⟨hfold, hlists word hword⟩

/-- Every keyword of a grammar that folds case is a listed word, or one in another case. -/
theorem exists_of_isKeyword (h : ofTable table = .ok grammar)
    (hword : grammar.isKeyword word = true) :
    ∃ listed ∈ table.words, listed.toAsciiLower = word.toAsciiLower := by
  rcases (isKeyword_iff h word).1 hword with hlisted | ⟨-, hlower⟩
  · exact ⟨word, hlisted, rfl⟩
  · exact ⟨word.toAsciiLower, hlower, Text.toAsciiLower_toAsciiLower word⟩

/-- When case does not matter for keywords. A grammar that does not fold case has the words of its
table as keywords. One that folds case has these and the words that the table lists in lower case;
its keywords are the words that differ from a listed one in ASCII case only, and of two words that
differ in case only both are keywords or neither is, exactly if the table lists each of its words in
lower case too. -/
theorem isKeyword_ignores_case_iff (h : ofTable table = .ok grammar) :
    (table.foldKeywordCase = false →
      ∀ word, grammar.isKeyword word = true ↔ word ∈ table.words) ∧
    (table.foldKeywordCase = true →
      (∀ word, grammar.isKeyword word = true ↔
        word ∈ table.words ∨ word.toAsciiLower ∈ table.words) ∧
      ((∀ word, grammar.isKeyword word = true ↔
        ∃ listed ∈ table.words, listed.toAsciiLower = word.toAsciiLower) ↔ table.ListsLower) ∧
      ((∀ word other : Text, word.toAsciiLower = other.toAsciiLower →
        (grammar.isKeyword word = true ↔ grammar.isKeyword other = true)) ↔
          table.ListsLower)) := by
  refine ⟨fun hfold word => ?_, fun hfold => ⟨fun word => ?_, ?_, ?_⟩⟩
  · simp [isKeyword_iff h, hfold]
  · simp [isKeyword_iff h, hfold]
  · rw [← isKeyword_lower_iff h hfold]
    constructor
    · intro hall word hword other hsame
      exact (hall other).2 ⟨word, hword, hsame⟩
    · intro hlower word
      refine ⟨exists_of_isKeyword h, ?_⟩
      rintro ⟨listed, hlisted, hsame⟩
      exact hlower listed hlisted word hsame
  · rw [← isKeyword_lower_iff h hfold]
    constructor
    · intro hall word hword other hsame
      exact (hall word other hsame).1 ((isKeyword_iff h word).2 (.inl hword))
    · intro hlower
      have hcarries {word other : Text} (hsame : word.toAsciiLower = other.toAsciiLower)
          (hword : grammar.isKeyword word = true) : grammar.isKeyword other = true := by
        obtain ⟨listed, hlisted, hlistedSame⟩ := exists_of_isKeyword h hword
        exact hlower listed hlisted other (hlistedSame.trans hsame)
      exact fun word other hsame => ⟨hcarries hsame, hcarries hsame.symm⟩

/-- A table that lists its words in lower case, and one word in capitals besides. -/
theorem isKeyword_ignores_case_iff_lower :
    let table : GrammarTable :=
      { language := .css, keywords := ["and", "or", "OR"], foldKeywordCase := true }
    ∃ grammar, ofTable table = .ok grammar ∧ ∀ word, grammar.isKeyword word = true ↔
      ∃ listed ∈ table.words, listed.toAsciiLower = word.toAsciiLower := by
  intro table
  have hlists : table.ListsLower := by decide +kernel
  obtain ⟨grammar, h⟩ := exists_ofTable_of_words .css ["and", "or", "OR"] true
  exact ⟨grammar, h, ((isKeyword_ignores_case_iff h).2 rfl).2.1.2 hlists⟩

/-- A word that PHP has in capitals is no keyword in lower case. -/
theorem isKeyword_of_capitals :
    let table : GrammarTable :=
      { language := .php, keywords := Catalog.phpKeywords, foldKeywordCase := true }
    let listed : Text := "__CLASS__".toList
    let word : Text := "__class__".toList
    ∃ grammar, ofTable table = .ok grammar ∧ listed ∈ table.words ∧
      listed.toAsciiLower = word.toAsciiLower ∧
      grammar.isKeyword listed = true ∧ grammar.isKeyword word = false := by
  intro table listed word
  have hlookup : listed ∈ table.words ∧ listed.toAsciiLower = word.toAsciiLower ∧
      word ∉ table.words ∧ word.toAsciiLower ∉ table.words := by decide +kernel
  obtain ⟨hlisted, hsame, hmissing⟩ := hlookup
  obtain ⟨grammar, h⟩ := exists_ofTable_of_words .php Catalog.phpKeywords true
  refine ⟨grammar, h, hlisted, hsame, (isKeyword_iff h listed).2 (.inl hlisted), ?_⟩
  rw [← Bool.not_eq_true, isKeyword_iff h, not_or]
  exact ⟨hmissing.1, fun hlower => hmissing.2 hlower.2⟩

end Grammar

end TextEditor
