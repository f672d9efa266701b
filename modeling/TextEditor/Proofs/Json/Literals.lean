import TextEditor.Proofs.Grammar.LiteralScan
import TextEditor.Proofs.Json.Layout

/-!
# The strings of JSON

The scan for literals begins outside of strings and stays in step with them. What it passes on its
way to the next string holds no quote, so that no literal begins there; at the quote the string
pattern takes the whole string, and the key pattern takes it with the colon behind it or does not
match before the character after the quote. In each case the string is emitted first, and the scan
goes on behind it or behind the colon, again outside of strings.

Main statement: `literalCandidates_eq`, the scan lists the strings and keys of a text.
-/

namespace TextEditor.Json

open Pattern

variable {p : Pattern} {front passed rest : Text} {parts : List Part}

/-! ## Up to the next string -/

/-- A pattern matches only where a quote comes next. -/
def AtQuote (p : Pattern) : Prop :=
  ∀ {back : Text}, (∀ c ∈ back.head?, c ≠ '"') → ∀ front, p.Refuses front back

/-- A search that can only succeed at a quote goes on to where the first one may be. -/
theorem AtQuote.search (hp : AtQuote p) (h : '"' ∉ passed) (front rest : Text) :
    p.search (.between front (passed ++ rest)) = p.search (.between (front ++ passed) rest) := by
  refine search_of_misses ?_
  rintro u c v rfl
  refine (hp ?_ _).matchAt_eq_none
  rintro _ ⟨⟩ rfl
  exact h (by simp)

/-- Without a quote ahead it fails. -/
theorem AtQuote.search_eq_none (hp : AtQuote p) (h : '"' ∉ passed) (front : Text) :
    p.search (.between front passed) = none := by
  have hsearch := hp.search h front []
  rw [List.append_nil] at hsearch
  rw [hsearch, search_between_nil]
  refine (hp ?_ _).matchAt_eq_none
  rintro _ ⟨⟩

/-- Keys begin with a quote. -/
theorem atQuote_keyPattern : AtQuote keyPattern := refuses_keyPattern_of_ne

/-- Strings begin with a quote. -/
theorem atQuote_stringPattern : AtQuote stringPattern := refuses_stringPattern

/-- What a rule finds from the end of a front part on. -/
theorem literalAt?_append (rule : Rule) (front back : Text) :
    rule.literalAt? (front ++ back) front.size =
      (rule.pattern.search (.between front back)).map fun m =>
        ⟨⟨rule.kind, (rule.emitted? m).getD ⟨m.whole.start, m.whole.start⟩⟩, m.whole⟩ := by
  rw [Rule.literalAt?, searchAt, Place.ofOffset_append_size]

/-! ## At a string -/

/-- What is quoted takes at least a byte, even if it is empty. -/
theorem size_lt_quoted (front : Text) (parts : List Part) :
    front.size < (front ++ quoted parts).size := by
  have hpos := Char.utf8Size_pos '"'
  rw [Text.size_append, quoted, Text.size_cons]
  omega

/-- The rule for strings emits the whole of its match. -/
theorem emitted?_stringRule {start stop : Nat} (h : start < stop) :
    stringRule.emitted? ⟨⟨start, stop⟩, []⟩ = some ⟨start, stop⟩ :=
  if_neg (show ¬ Span.isEmpty ⟨start, stop⟩ = true by simpa [Span.isEmpty] using h)

/-- The rule for keys emits its group, without the colon. -/
theorem emitted?_keyRule {whole : Span} {start stop : Nat} (h : start < stop) :
    keyRule.emitted? ⟨whole, [(1, ⟨start, stop⟩)]⟩ = some ⟨start, stop⟩ :=
  if_neg (show ¬ Span.isEmpty ⟨start, stop⟩ = true by simpa [Span.isEmpty] using h)

/-- The next string is found as a whole. -/
theorem stringRule_literalAt? (h : '"' ∉ passed) (front : Text) (parts : List Part) (rest : Text) :
    stringRule.literalAt? (front ++ (passed ++ (quoted parts ++ rest))) front.size =
      some ⟨⟨.string, ⟨(front ++ passed).size, (front ++ passed ++ quoted parts).size⟩⟩,
        ⟨(front ++ passed).size, (front ++ passed ++ quoted parts).size⟩⟩ := by
  have hmatch := (takes_stringPattern (front ++ passed) parts rest).matchAt_eq_some
  have hsearch := atQuote_stringPattern.search h front (quoted parts ++ rest)
  rw [search_of_matchAt hmatch] at hsearch
  rw [literalAt?_append, stringRule, hsearch, Option.map_some, ← stringRule,
    emitted?_stringRule (size_lt_quoted _ parts)]
  rfl

/-- The next key is found with the colon behind it. -/
theorem keyRule_literalAt? (h : '"' ∉ passed) (front : Text) (parts : List Part)
    (gap : List Blank) (rest : Text) :
    keyRule.literalAt? (front ++ (passed ++ (quoted parts ++ (blankText gap ++ ':' :: rest))))
        front.size =
      some ⟨⟨.property, ⟨(front ++ passed).size, (front ++ passed ++ quoted parts).size⟩⟩,
        ⟨(front ++ passed).size,
          (front ++ passed ++ quoted parts ++ (blankText gap ++ [':'])).size⟩⟩ := by
  have hmatch := matchAt_keyPattern (front ++ passed) parts gap rest
  have hsearch := atQuote_keyPattern.search h front (quoted parts ++ (blankText gap ++ ':' :: rest))
  rw [search_of_matchAt hmatch] at hsearch
  rw [literalAt?_append, keyRule, hsearch, Option.map_some, ← keyRule,
    emitted?_keyRule (size_lt_quoted _ parts)]
  rfl

/-- At a string with no colon behind it the next key begins further on. -/
theorem lt_of_keyRule_literalAt? (h : '"' ∉ passed) (front : Text) (parts : List Part)
    (gap : List Blank) (hrest : ∀ c ∈ rest.head?, Unicode.isBlank c = false ∧ c ≠ ':')
    {m : LiteralMatch}
    (hm : keyRule.literalAt? (front ++ (passed ++ (quoted parts ++ (blankText gap ++ rest))))
      front.size = some m) : (front ++ passed).size < m.candidate.span.start := by
  have hinside := (Rule.within_of_literalAt? (Text.isBoundary_append_size ..) hm).2
  have hnone := (refuses_keyPattern parts gap hrest (front ++ passed)).matchAt_eq_none
  have hpos := Char.utf8Size_pos '"'
  rw [literalAt?_append, keyRule, atQuote_keyPattern.search h] at hm
  rw [quoted, List.cons_append, search_between_cons, ← List.cons_append, ← quoted, hnone,
    Option.none_or] at hm
  obtain ⟨found, hfound, rfl⟩ := Option.map_eq_some_iff.1 hm
  have hle := start_le_of_search hfound
  have hstart := (Span.contains_iff.1 hinside).1
  have hlt : (front ++ passed).size < found.whole.start := by
    rw [Text.size_append _ ['"'], Text.size_cons, Text.size_nil] at hle
    omega
  exact Nat.lt_of_lt_of_le hlt hstart

/-! ## The scan -/

/-- The grammar has two literal rules, and the one for keys goes first. -/
theorem plainNext?_grammar (line : Text) (n : Nat) :
    plainNext? line grammar.literals n =
      Upcoming.leftOf? (keyRule.literalAt? line n) (stringRule.literalAt? line n) :=
  (leftmost?_searched line grammar.literals n).symm

/-- The strings and keys among the lexemes of a text, as candidates. -/
def literals (n : Nat) (items : List Item) : List Candidate :=
  ((placed n items).filter (·.1.isQuoted)).map fun (lexeme, span) => ⟨lexeme.kind, span⟩

/-- A match that begins before another one is taken first. -/
theorem leftOf?_eq_right {first : Option LiteralMatch} {m : LiteralMatch}
    (h : ∀ other ∈ first, m.candidate.span.start < other.candidate.span.start) :
    Upcoming.leftOf? first (some m) = some m := by
  cases first with
  | none => rfl
  | some other => exact if_pos (h other rfl)

/-- What comes next in the scan, if it ends further on. -/
theorem plainLiterals_of_next {line : Text} {n : Nat} {m : LiteralMatch}
    (hnext : plainNext? line grammar.literals n = some m) (hlt : n < m.whole.stop)
    (hsize : n < line.size) :
    plainLiterals line grammar.literals n =
      m.candidate :: plainLiterals line grammar.literals m.whole.stop := by
  rw [plainLiterals, if_pos hsize, hnext]
  simp only
  rw [resumeAfter, if_pos hlt]

/-- Where the next string stands for a value, the scan lists it and goes on behind it. -/
theorem plainLiterals_string (h : '"' ∉ passed) (front : Text) (parts : List Part)
    (gap : List Blank) (hrest : ∀ c ∈ rest.head?, Unicode.isBlank c = false ∧ c ≠ ':') :
    plainLiterals (front ++ (passed ++ (quoted parts ++ (blankText gap ++ rest))))
        grammar.literals front.size =
      ⟨.string, ⟨(front ++ passed).size, (front ++ passed ++ quoted parts).size⟩⟩ ::
        plainLiterals (front ++ (passed ++ (quoted parts ++ (blankText gap ++ rest))))
          grammar.literals (front ++ passed ++ quoted parts).size := by
  have hlt := size_lt_quoted (front ++ passed) parts
  have hnext := plainNext?_grammar
    (front ++ (passed ++ (quoted parts ++ (blankText gap ++ rest)))) front.size
  rw [stringRule_literalAt? h, leftOf?_eq_right fun m hm =>
    lt_of_keyRule_literalAt? h front parts gap hrest hm] at hnext
  refine plainLiterals_of_next hnext ?_ ?_
  · simp only [Text.size_append] at hlt ⊢
    omega
  · simp only [Text.size_append] at hlt ⊢
    omega

/-- Where the next string is a key, the scan lists it and goes on behind the colon. -/
theorem plainLiterals_key (h : '"' ∉ passed) (front : Text) (parts : List Part)
    (gap : List Blank) (rest : Text) :
    plainLiterals (front ++ (passed ++ (quoted parts ++ (blankText gap ++ ':' :: rest))))
        grammar.literals front.size =
      ⟨.property, ⟨(front ++ passed).size, (front ++ passed ++ quoted parts).size⟩⟩ ::
        plainLiterals (front ++ (passed ++ (quoted parts ++ (blankText gap ++ ':' :: rest))))
          grammar.literals (front ++ passed ++ quoted parts ++ (blankText gap ++ [':'])).size := by
  have hlt := size_lt_quoted (front ++ passed) parts
  have hnext := plainNext?_grammar
    (front ++ (passed ++ (quoted parts ++ (blankText gap ++ ':' :: rest)))) front.size
  rw [stringRule_literalAt? h, keyRule_literalAt? h] at hnext
  -- both begin at the string, and the key stands first among the rules
  rw [Upcoming.leftOf?, if_neg (Nat.lt_irrefl _)] at hnext
  refine plainLiterals_of_next hnext ?_ ?_
  · simp only [Text.size_append] at hlt ⊢
    omega
  · simp only [Text.size_append] at hlt ⊢
    omega

/-- Where no string follows, the scan lists nothing. -/
theorem plainLiterals_nil (h : '"' ∉ passed) (front : Text) :
    plainLiterals (front ++ passed) grammar.literals front.size = [] := by
  have hnone : plainNext? (front ++ passed) grammar.literals front.size = none := by
    rw [plainNext?_grammar, literalAt?_append, literalAt?_append, keyRule, stringRule,
      atQuote_keyPattern.search_eq_none h, atQuote_stringPattern.search_eq_none h]
    rfl
  rw [plainLiterals, hnone]
  simp

/-- A quoted lexeme is the next literal. -/
theorem literals_cons_of_isQuoted {lexeme : Lexeme} (h : lexeme.isQuoted = true) (n : Nat)
    (gap : List Blank) (items : List Item) :
    literals n (⟨gap, lexeme⟩ :: items) =
      ⟨lexeme.kind, ⟨n + (blankText gap).size, n + (blankText gap ++ lexeme.text).size⟩⟩ ::
        literals (n + (blankText gap ++ lexeme.text).size) items := by
  rw [literals, placed, List.filter_cons, if_pos h]
  rfl

/-- Any other lexeme is passed over. -/
theorem literals_cons_of_not_isQuoted {lexeme : Lexeme} (h : lexeme.isQuoted = false) (n : Nat)
    (gap : List Blank) (items : List Item) :
    literals n (⟨gap, lexeme⟩ :: items) =
      literals (n + (blankText gap ++ lexeme.text).size) items := by
  rw [literals, placed, List.filter_cons, if_neg (Bool.eq_false_iff.1 h)]
  rfl

/-- The scan, from a place outside of strings on, lists the strings and keys that follow. -/
theorem plainLiterals_write {items : List Item} (hrow : Row (items.map (·.lexeme)))
    (hpassed : '"' ∉ passed) (front : Text) (lastGap : List Blank) :
    plainLiterals (front ++ (passed ++ (write items ++ blankText lastGap))) grammar.literals
      front.size = literals (front ++ passed).size items := by
  induction hlength : items.length using Nat.strongRecOn generalizing items front passed with
  | ind length ih =>
      cases items with
      | nil =>
          have hnone : '"' ∉ passed ++ (write [] ++ blankText lastGap) := by
            simp [hpassed, not_mem_quote_blankText]
          exact plainLiterals_nil hnone front
      | cons item items =>
          obtain ⟨gap, lexeme⟩ := item
          have hitems : Row (items.map (·.lexeme)) := hrow.tail
          cases hquoted : lexeme.isQuoted with
          | false =>
              have hpassed' : '"' ∉ passed ++ (blankText gap ++ lexeme.text) := by
                simp [hpassed, not_mem_quote_blankText, Lexeme.not_mem_quote hquoted]
              have hscan := ih items.length (by simp [← hlength]) hitems hpassed' front rfl
              rw [literals_cons_of_not_isQuoted hquoted]
              simpa [Item.text, Nat.add_assoc] using hscan
          | true =>
              have hpassed' : '"' ∉ passed ++ blankText gap := by
                simp [hpassed, not_mem_quote_blankText]
              rw [literals_cons_of_isQuoted hquoted]
              cases lexeme with
              | number | word | mark => cases hquoted
              | string parts =>
                  obtain ⟨gap', rest, htext, hrest⟩ := exists_of_row_string hrow lastGap
                  have hscan := plainLiterals_string hpassed' front parts gap' hrest
                  have hbehind := ih items.length (by simp [← hlength]) hitems List.not_mem_nil
                    (front ++ (passed ++ blankText gap) ++ quoted parts) rfl
                  rw [← htext] at hscan
                  simp only [write_cons, Item.text, Lexeme.text, List.append_assoc,
                    List.nil_append, List.append_nil] at hscan hbehind ⊢
                  rw [hscan, hbehind]
                  simp [Lexeme.kind, Nat.add_assoc]
              | key parts =>
                  -- the scan goes on behind the colon, which is the next lexeme
                  obtain ⟨gap', others, rfl⟩ := exists_of_row_key hrow
                  have hscan := plainLiterals_key hpassed' front parts gap'
                    (write others ++ blankText lastGap)
                  have hfewer : others.length < length := by
                    simp only [List.length_cons] at hlength
                    omega
                  have hbehind := ih others.length hfewer hitems.tail List.not_mem_nil
                    (front ++ (passed ++ blankText gap) ++ quoted parts ++
                      (blankText gap' ++ [':'])) rfl
                  simp only [write_cons, Item.text, Lexeme.text, Mark.char, List.append_assoc,
                    List.cons_append, List.nil_append, List.append_nil] at hscan hbehind ⊢
                  rw [hscan, hbehind, literals_cons_of_not_isQuoted rfl]
                  simp [Lexeme.kind, Lexeme.text, Mark.char, Nat.add_assoc]

/-- The literals of a JSON text are its strings and keys. -/
theorem literalCandidates_eq (json : Json) :
    grammar.literalCandidates json.text = literals 0 json.items := by
  rw [Grammar.literalCandidates_eq_plain]
  exact plainLiterals_write json.derived.row List.not_mem_nil [] json.lastGap

end TextEditor.Json
