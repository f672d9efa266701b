import TextEditor.Proofs.Grammar.Priority
import TextEditor.Proofs.Json.Literals

/-!
# The tokens of JSON

The tokens that the built-in grammar gives for a JSON text are its lexemes. The scan for literals
lists the strings and keys. Each number, word and mark is found by its own rule, since what the rule
matches before does not reach it. Whatever else a rule finds begins at a character of some lexeme,
and no lexeme but a string has characters that the rule of another kind could begin with; so it lies
in a string, which comes first.

Main statements: `mem_spans_of_mem_placed`, `covered_of_touches` and `tokenize_text`.
-/

namespace TextEditor.Json

open Pattern

variable {json : Json} {lexeme : Lexeme} {span : Span} {rule : Rule} {c : Char}

/-! ## Expected candidates -/

/-- The lexemes of a text as candidates. -/
def expected (json : Json) : List Candidate :=
  (placed 0 json.items).map fun (lexeme, span) => ⟨lexeme.kind, span⟩

/-- Each lexeme that is placed has its token expected. -/
theorem mem_expected (h : (lexeme, span) ∈ placed 0 json.items) :
    ⟨lexeme.kind, span⟩ ∈ json.expected :=
  List.mem_map.2 ⟨_, h, rfl⟩

/-- What is quoted is found by the literal scan. -/
theorem mem_literalCandidates (h : (lexeme, span) ∈ placed 0 json.items)
    (hquoted : lexeme.isQuoted = true) :
    ⟨lexeme.kind, span⟩ ∈ grammar.literalCandidates json.text := by
  rw [literalCandidates_eq]
  exact List.mem_map.2 ⟨_, List.mem_filter.2 ⟨h, hquoted⟩, rfl⟩

/-- A lexeme stands in the text, between breaks if it is not a mark. -/
theorem exists_text_of_mem_placed (h : (lexeme, span) ∈ placed 0 json.items) :
    ∃ front back, json.text = front ++ (lexeme.text ++ back) ∧
      span = ⟨front.size, (front ++ lexeme.text).size⟩ ∧
      ((∀ mark, lexeme ≠ .mark mark) →
        (∀ c ∈ front.getLast?, c ∈ breaks) ∧ ∀ c ∈ back.head?, c ∈ breaks) := by
  obtain ⟨before, gap, after, hitems, hspan⟩ := exists_of_mem_placed h
  have hrow := json.derived.row
  rw [hitems] at hrow
  refine ⟨write before ++ blankText gap, write after ++ blankText json.lastGap, ?_, ?_, ?_⟩
  · show write json.items ++ _ = _
    rw [hitems]
    simp [Item.text]
  · simpa using hspan
  · intro hmark
    exact ⟨getLast?_breaks hrow hmark, head?_breaks hrow hmark json.lastGap⟩

/-- No lexeme is written as nothing. -/
theorem text_ne_nil (lexeme : Lexeme) : lexeme.text ≠ [] := by
  cases lexeme with
  | key | string | mark => exact List.cons_ne_nil _ _
  | number number => simp [Lexeme.text, Number.text, number.whole.ne_nil]
  | word word =>
      cases word with
      | true | false | null => exact List.cons_ne_nil _ _

/-- Each lexeme takes at least a byte. -/
theorem size_pos (lexeme : Lexeme) : 0 < lexeme.text.size :=
  Nat.pos_of_ne_zero fun h => text_ne_nil lexeme (Text.size_eq_zero_iff.1 h)

/-! ## Every lexeme is found -/

/-- A rule emits what its pattern takes, if what it matches before ends there by then. -/
theorem mem_spans_of_takes (rule : Rule) (hgroups : rule.pattern.groupCount = 0)
    {front text back : Text} (h : rule.pattern.Takes front text back) (hne : text ≠ [])
    (hbefore : ∀ u v found, front = u ++ v → v ≠ [] →
      rule.pattern.matchAt (.between u (v ++ (text ++ back))) = some found →
        found.whole.stop ≤ front.size) :
    ⟨front.size, (front ++ text).size⟩ ∈ rule.spans (front ++ (text ++ back)) := by
  refine Rule.mem_spans hgroups h.matchAt_eq_some ?_ hbefore
  have hpos : text.size ≠ 0 := fun hzero => hne (Text.size_eq_zero_iff.1 hzero)
  show front.size < (front ++ text).size
  rw [Text.size_append]
  omega

/-- The pattern for numbers reads nothing that breaks them off. -/
theorem reads_numberPattern : ∀ c ∈ breaks, numberPattern.reads c = false :=
  List.all_iff_forall_prop.1 (by decide +kernel)

/-- The pattern for words reads nothing that breaks them off. -/
theorem reads_wordPattern : ∀ c ∈ breaks, wordPattern.reads c = false :=
  List.all_iff_forall_prop.1 (by decide +kernel)

/-- The words of the language are made of word characters. -/
theorem isWord_word (word : Word) : ∀ c ∈ word.text, Unicode.isWord c = true := by
  cases word with
  | true | false | null => exact List.all_iff_forall_prop.1 (by decide +kernel)

/-- A match of a mark is one character long. -/
theorem stop_le_of_markPattern {front back u v : Text} {found : Match} (hfront : front = u ++ v)
    (hv : v ≠ []) (h : markPattern.matchAt (.between u (v ++ back)) = some found) :
    found.whole.stop ≤ front.size := by
  cases v with
  | nil => exact absurd rfl hv
  | cons c v =>
      have hways := matchAt_eq_head? markPattern (.between u (c :: v ++ back))
      rw [h, markPattern, List.cons_append, ways, Place.between_rest] at hways
      simp only at hways
      split at hways
      · obtain rfl := Option.some.inj hways
        simp [hfront]
      · cases hways

/-- Each lexeme that is not a string is emitted by the rule for its kind. -/
theorem mem_spans_of_mem_placed (h : (lexeme, span) ∈ placed 0 json.items) :
    match lexeme with
    | .number _ => span ∈ numberRule.spans json.text
    | .word _ => span ∈ grammar.wordRule.spans json.text
    | .mark _ => span ∈ markRule.spans json.text
    | .key _ | .string _ => True := by
  obtain ⟨front, back, htext, rfl, hbreaks⟩ := exists_text_of_mem_placed h
  have hne := text_ne_nil lexeme
  rw [htext]
  cases lexeme with
  | key | string => trivial
  | number number =>
      obtain ⟨hfront, hback⟩ := hbreaks nofun
      exact mem_spans_of_takes numberRule rfl (takes_numberPattern number hfront hback) hne
        fun u v found => stop_le_of_not_reads fun c hc => reads_numberPattern c (hfront c hc)
  | word word =>
      obtain ⟨hfront, hback⟩ := hbreaks nofun
      exact mem_spans_of_takes grammar.wordRule rfl
        (takes_wordPattern hne (isWord_word word) hfront hback) hne
        fun u v found => stop_le_of_not_reads fun c hc => reads_wordPattern c (hfront c hc)
  | mark mark =>
      refine mem_spans_of_takes markRule rfl (onlyTakes_oneOf ?_).takes hne
        fun u v found => stop_le_of_markPattern
      cases mark with
      | openBrace | closeBrace | openBracket | closeBracket | comma | colon => rfl

/-! ## Nothing else is found -/

/-- What a rule finds touches the lexeme that it begins in. -/
theorem exists_of_mem_spans (hgroups : rule.pattern.groupCount = 0)
    (hblank : ∀ blank : Blank, rule.pattern.reads blank.char = false)
    (h : span ∈ rule.spans json.text) :
    ∃ (front : Text) (c : Char) (passed rest : Text) (m : Match) (lexeme : Lexeme) (other : Span),
      json.text = front ++ (c :: passed ++ rest) ∧
      span = ⟨front.size, (front ++ c :: passed).size⟩ ∧ rule.pattern.reads c = true ∧
      rule.pattern.matchAt (.between front (c :: passed ++ rest)) = some m ∧
      (lexeme, other) ∈ placed 0 json.items ∧ c ∈ lexeme.text ∧ ¬ other.Apart span := by
  obtain ⟨front, c, passed, rest, m, htext, hspan, hread, hmatch⟩ :=
    Rule.exists_of_mem_spans hgroups h
  rcases exists_of_text_eq htext with
    ⟨blank, rfl⟩ | ⟨before, gap, lexeme, after, u, v, hitems, hlexeme, hfront⟩
  · exact absurd hread (by rw [hblank]; exact Bool.false_ne_true)
  · have hplaced := mem_placed 0 before gap lexeme after
    rw [← hitems] at hplaced
    refine ⟨front, c, passed, rest, m, lexeme, _, htext, hspan, hread, hmatch, hplaced, ?_, ?_⟩
    · simp [hlexeme]
    · have hpos := Char.utf8Size_pos c
      rw [hspan, hfront, hlexeme, Span.Apart]
      simp only [Text.size_append, Text.size_cons]
      omega

/-- What a rule finds is expected if it touches a string or a lexeme that the rule finds as well. -/
theorem covered_of_touches {other : Span} (h : span ∈ rule.spans json.text)
    (hplaced : (lexeme, other) ∈ placed 0 json.items) (htouch : ¬ other.Apart span)
    (hown : lexeme.isQuoted = false → lexeme.kind = rule.kind ∧ other ∈ rule.spans json.text) :
    grammar.Covered json.text json.expected ⟨rule.kind, span⟩ := by
  cases hquoted : lexeme.isQuoted with
  | true =>
      exact .inr ⟨_, mem_expected hplaced, mem_literalCandidates hplaced hquoted, htouch⟩
  | false =>
      obtain ⟨hkind, hother⟩ := hown hquoted
      obtain rfl : other = span := by
        by_contra hne
        exact htouch (apart_of_pairwise_precedes id (rule.pairwise_spans json.text) hother h hne)
      exact .inl (hkind ▸ mem_expected hplaced)

/-- Where the rule for numbers finds anything, a token is expected that covers it. -/
theorem covered_number (h : span ∈ numberRule.spans json.text) :
    grammar.Covered json.text json.expected ⟨.number, span⟩ := by
  obtain ⟨front, c, passed, rest, m, lexeme, other, -, -, hread, hmatch, hplaced, hc, htouch⟩ :=
    exists_of_mem_spans rfl (fun blank => reads_numberPattern _ (mem_breaks_blank blank)) h
  refine covered_of_touches h hplaced htouch fun hquoted => ?_
  cases lexeme with
  | key | string => cases hquoted
  | number number => exact ⟨rfl, mem_spans_of_mem_placed hplaced⟩
  | word word =>
      have hletter : ∀ c ∈ word.text, c ≠ '-' ∧ Unicode.isDigit c = false := by
        cases word with
        | true | false | null => exact List.all_iff_forall_prop.1 (by decide +kernel)
      obtain ⟨hsign, hdigit⟩ := hletter c hc
      have hnone := (refuses_numberPattern hsign hdigit front (passed ++ rest)).matchAt_eq_none
      cases hnone.symm.trans hmatch
  | mark mark =>
      obtain rfl := List.mem_singleton.1 hc
      cases (reads_numberPattern _ (mem_breaks_mark mark)).symm.trans hread

/-- Where the rule for marks finds anything, a token is expected that covers it. -/
theorem covered_mark (h : span ∈ markRule.spans json.text) :
    grammar.Covered json.text json.expected ⟨.delimiter, span⟩ := by
  have hblank (blank : Blank) : markPattern.reads blank.char = false := by
    cases blank with
    | space | tab | feed | carriageReturn => rfl
  obtain ⟨front, c, passed, rest, m, lexeme, other, -, -, hread, -, hplaced, hc, htouch⟩ :=
    exists_of_mem_spans rfl hblank h
  refine covered_of_touches h hplaced htouch fun hquoted => ?_
  cases lexeme with
  | key | string => cases hquoted
  | number number =>
      have hnumber : ∀ c ∈ numberChars, markPattern.reads c = false :=
        List.all_iff_forall_prop.1 (by decide)
      cases (hnumber c (Number.mem_numberChars hc)).symm.trans hread
  | word word =>
      have hletter : ∀ c ∈ word.text, markPattern.reads c = false := by
        cases word with
        | true | false | null => exact List.all_iff_forall_prop.1 (by decide)
      cases (hletter c hc).symm.trans hread
  | mark mark => exact ⟨rfl, mem_spans_of_mem_placed hplaced⟩

/-- Where a word is a keyword, a token is expected that covers it. -/
theorem covered_keyword {candidate : Candidate}
    (h : candidate ∈ grammar.keywordCandidates json.text) :
    grammar.Covered json.text json.expected candidate := by
  obtain ⟨span, hspan, hkeyword⟩ := List.mem_filterMap.1 h
  split at hkeyword
  · next hword =>
      obtain rfl := Option.some.inj hkeyword
      obtain ⟨front, c, passed, rest, m, lexeme, other, htext, hat, hread, -, hplaced, hc,
          htouch⟩ :=
        exists_of_mem_spans rfl (fun blank => reads_wordPattern _ (mem_breaks_blank blank)) hspan
      refine covered_of_touches hspan hplaced htouch fun hquoted => ?_
      cases lexeme with
      | key | string => cases hquoted
      | word word => exact ⟨rfl, mem_spans_of_mem_placed hplaced⟩
      | number number =>
          have hbetween : json.text.between span.start span.stop = c :: passed := by
            rw [htext, hat, Text.size_append]
            exact Text.between_append_append ..
          have hmem : c :: passed ∈ [Word.true, Word.false, Word.null].map Word.text := by
            rw [hbetween] at hword
            simpa [Grammar.isKeyword, grammar] using hword
          obtain ⟨word, -, hword⟩ := List.mem_map.1 hmem
          -- no word begins with a character of a number
          have hfirst : ∀ c ∈ word.text.head?, c ∉ numberChars := by
            cases word with
            | true | false | null =>
                rintro _ ⟨⟩
                decide
          exact absurd (Number.mem_numberChars hc) (hfirst c (by rw [hword]; rfl))
      | mark mark =>
          obtain rfl := List.mem_singleton.1 hc
          cases (reads_wordPattern _ (mem_breaks_mark mark)).symm.trans hread
  · cases hkeyword

/-! ## The tokens -/

/-- Each lexeme is among the candidates, whichever rule it is found by. -/
theorem mem_candidates (h : (lexeme, span) ∈ placed 0 json.items) :
    ⟨lexeme.kind, span⟩ ∈ grammar.candidates json.text := by
  have hfound := mem_spans_of_mem_placed h
  have hpattern (rule : Rule) (hrule : rule ∈ grammar.patterns)
      (hspan : span ∈ rule.spans json.text) :
      ⟨rule.kind, span⟩ ∈ Grammar.ruleCandidates grammar.patterns json.text :=
    List.mem_flatMap.2 ⟨rule, hrule, List.mem_map.2 ⟨span, hspan, rfl⟩⟩
  simp only [Grammar.candidates, List.mem_append]
  cases lexeme with
  | key | string => exact .inl (.inl (.inl (mem_literalCandidates h rfl)))
  | number => exact .inl (.inr (hpattern numberRule (List.mem_cons_self ..) hfound))
  | mark => exact .inl (.inr (hpattern markRule (.tail _ (List.mem_cons_self ..)) hfound))
  | word word =>
      obtain ⟨front, back, htext, rfl, -⟩ := exists_text_of_mem_placed h
      have hbetween : json.text.between front.size (front ++ word.text).size = word.text := by
        rw [htext, Text.size_append]
        exact Text.between_append_append ..
      have hkeyword : grammar.isKeyword word.text = true := by
        cases word with
        | true | false | null => decide
      refine .inl (.inl (.inr (List.mem_filterMap.2 ⟨_, hfound, if_pos ?_⟩)))
      exact (congrArg grammar.isKeyword hbetween).trans hkeyword

/-- No candidate is found that no expected token covers. -/
theorem covered_of_mem_candidates {candidate : Candidate}
    (h : candidate ∈ grammar.candidates json.text) :
    grammar.Covered json.text json.expected candidate := by
  simp only [Grammar.candidates, List.mem_append] at h
  rcases h with ((h | h) | h) | h
  · rw [literalCandidates_eq] at h
    obtain ⟨entry, hentry, rfl⟩ := List.mem_map.1 h
    exact .inl (mem_expected (List.mem_filter.1 hentry).1)
  · exact covered_keyword h
  · obtain ⟨rule, hrule, hemitted⟩ := List.mem_flatMap.1 h
    obtain ⟨span, hspan, rfl⟩ := List.mem_map.1 hemitted
    rcases List.mem_cons.1 hrule with rfl | hrule
    · exact covered_number hspan
    · obtain rfl := List.mem_singleton.1 hrule
      exact covered_mark hspan
  · cases h

/-- The tokens of a JSON text are its lexemes: each has one token, of its kind and over the text
that it is written with, and there are no others. -/
theorem tokenize_text (json : Json) :
    (Grammar.builtin .json).tokenize json.text = json.tokens ∧
      ∀ lexeme span, (lexeme, span) ∈ placed 0 json.items →
        span.text? json.text = some lexeme.text := by
  have hexpected : json.tokens = json.expected.map fun candidate => candidate.token .json := by
    rw [expected, List.map_map]
    rfl
  have hplaced : ∀ lexeme span, (lexeme, span) ∈ placed 0 json.items →
      span.start < span.stop ∧ span.text? json.text = some lexeme.text := by
    intro lexeme span hplaced
    obtain ⟨front, back, htext, rfl, -⟩ := exists_text_of_mem_placed hplaced
    have hpos := size_pos lexeme
    rw [htext, Text.size_append]
    exact ⟨Nat.lt_add_of_pos_right hpos, Text.slice?_append_append ..⟩
  refine ⟨?_, fun lexeme span hmem => (hplaced lexeme span hmem).2⟩
  rw [builtin_json, hexpected]
  refine Grammar.tokenize_eq_map (fun candidate hmem => ?_) ?_ (fun candidate hmem => ?_)
    fun candidate hmem => covered_of_mem_candidates hmem
  · obtain ⟨⟨lexeme, span⟩, hentry, rfl⟩ := List.mem_map.1 hmem
    exact (hplaced lexeme span hentry).1
  · exact List.pairwise_map.2 (pairwise_placed 0 json.items)
  · obtain ⟨⟨lexeme, span⟩, hentry, rfl⟩ := List.mem_map.1 hmem
    exact mem_candidates hentry

/-- A text with a key that holds a quote and a colon, a number, a word and an empty string. -/
theorem tokenize_text_object :
    ∃ json : Json, json.text = "\x7b \"a\\\":\" : [-1.5e+3, null,\"\"]\x7d ".toList ∧
      (Grammar.builtin .json).tokenize json.text =
        [⟨.delimiter, ⟨0, 1⟩, .json⟩, ⟨.property, ⟨2, 8⟩, .json⟩, ⟨.delimiter, ⟨9, 10⟩, .json⟩,
          ⟨.delimiter, ⟨11, 12⟩, .json⟩, ⟨.number, ⟨12, 19⟩, .json⟩, ⟨.delimiter, ⟨19, 20⟩, .json⟩,
          ⟨.keyword, ⟨21, 25⟩, .json⟩, ⟨.delimiter, ⟨25, 26⟩, .json⟩, ⟨.string, ⟨26, 28⟩, .json⟩,
          ⟨.delimiter, ⟨28, 29⟩, .json⟩, ⟨.delimiter, ⟨29, 30⟩, .json⟩] := by
  let key : List Part := [.plain 'a' (by decide), .escaped '"' (by decide), .plain ':' (by decide)]
  let row (c : Char) (h : c ∈ digits) : Digits :=
    ⟨[c], List.cons_ne_nil _ _, List.forall_mem_singleton.2 h⟩
  have hsign : ∀ c ∈ some '+', c ∈ ['+', '-'] := by
    rintro _ ⟨⟩
    decide
  let number : Number := {
    negative := true
    whole := row '1' (by decide)
    noLeadingZero := nofun
    fraction := some (row '5' (by decide))
    exponent := some ⟨'e', by decide, some '+', hsign, row '3' (by decide)⟩ }
  have helements : Derives .elements
      [.number number, .mark .comma, .word .null, .mark .comma, .string []] :=
    (Derives.number number).moreElements
      ((Derives.word .null).moreElements (Derives.string []).element)
  have hmembers : Derives .members (.key key :: .mark .colon :: .mark .openBracket ::
      ([.number number, .mark .comma, .word .null, .mark .comma, .string []] ++
        [.mark .closeBracket])) := .member key (.array helements)
  let json : Json := {
    items := [⟨[], .mark .openBrace⟩, ⟨[.space], .key key⟩, ⟨[.space], .mark .colon⟩,
      ⟨[.space], .mark .openBracket⟩, ⟨[], .number number⟩, ⟨[], .mark .comma⟩,
      ⟨[.space], .word .null⟩, ⟨[], .mark .comma⟩, ⟨[], .string []⟩, ⟨[], .mark .closeBracket⟩,
      ⟨[], .mark .closeBrace⟩]
    lastGap := [.space]
    derived := .object hmembers }
  exact ⟨json, rfl, (tokenize_text json).1.trans rfl⟩

end TextEditor.Json
