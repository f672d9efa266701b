import TextEditor.Grammar.Builtin
import TextEditor.Proofs.Json.Syntax
import TextEditor.Proofs.Pattern.Taking

/-!
# The patterns of JSON

The patterns of the built-in grammar, piece by piece, and what each of them takes of a text. The
string pattern takes a whole string wherever it stands. The key pattern takes a string, and what
follows it, exactly if a colon follows the string; it has no other way to match at the start of one,
since a character of a string is never written with a quote first. The patterns for numbers and
words take theirs if blanks, marks or nothing stand next to them.

Main statements: `takes_stringPattern`, `matchAt_keyPattern`, `refuses_keyPattern`,
`takes_numberPattern` and `takes_wordPattern`.
-/

namespace TextEditor.Json

open Pattern

variable {front back : Text} {parts : List Part} {c : Char}

/-! ## The grammar -/

/-- The pattern of a quote. -/
def quote : Pattern := .oneOf (.single '"')

/-- The pattern of a character in a string. -/
def partPattern : Pattern :=
  .alt (.oneOf ⟨[.range '"' '"', .range '\\' '\\'], true, false⟩)
    (.seq (.oneOf (.single '\\')) (.oneOf .anyButFeed))

/-- The pattern of a string, also of one that is not closed. -/
def stringPattern : Pattern := .seq quote (.seq (.star partPattern true) (.upTo quote true 1))

/-- The pattern of a string with nothing left open. -/
def closedPattern : Pattern := .seq quote (.seq (.star partPattern true) quote)

/-- The pattern of a colon after any blanks. -/
def colonPattern : Pattern :=
  .seq (.star (.oneOf ⟨[.property .blank true], false, false⟩) true) (.oneOf (.single ':'))

/-- The pattern of a key. -/
def keyPattern : Pattern := .seq (.group 1 closedPattern) colonPattern

/-- The pattern of a row of digits. -/
def digitsPattern : Pattern := .repeated (.oneOf ⟨[.property .digit true], false, false⟩) true

/-- The pattern of a fraction. -/
def fractionPattern : Pattern := .seq (.oneOf (.single '.')) digitsPattern

/-- The pattern of an exponent. -/
def exponentPattern : Pattern :=
  .seq (.oneOf ⟨[.range 'e' 'e', .range 'E' 'E'], false, false⟩)
    (.seq (.upTo (.oneOf ⟨[.range '+' '+', .range '-' '-'], false, false⟩) true 1) digitsPattern)

/-- The pattern of a number. -/
def numberPattern : Pattern :=
  .seq (.upTo (.oneOf (.single '-')) true 1) (.seq (.position .wordEdge) (.seq digitsPattern
    (.seq (.upTo fractionPattern true 1)
      (.seq (.upTo exponentPattern true 1) (.position .wordEdge)))))

/-- The pattern of a word. -/
def wordPattern : Pattern :=
  .seq (.position .wordEdge) (.seq
    (.repeated (.oneOf ⟨[.property .word true], false, false⟩) true) (.position .wordEdge))

/-- The pattern of a mark. -/
def markPattern : Pattern :=
  .oneOf ⟨['{', '}', '[', ']', ',', ':'].map fun c => .range c c, false, false⟩

/-- The rule that finds keys. -/
def keyRule : Rule := ⟨.property, keyPattern⟩

/-- The rule that finds strings. -/
def stringRule : Rule := ⟨.string, stringPattern⟩

/-- The rule that finds numbers. -/
def numberRule : Rule := ⟨.number, numberPattern⟩

/-- The rule that finds marks. -/
def markRule : Rule := ⟨.delimiter, markPattern⟩

/-- The grammar of JSON with its patterns read. -/
def grammar : Grammar where
  language := .json
  keywords := [Word.true, Word.false, Word.null].map Word.text
  foldKeywordCase := false
  word := wordPattern
  literals := [keyRule, stringRule]
  patterns := [numberRule, markRule]
  refinements := []
  embeds := []
  indent := .bracketsOnly

/-- The grammar that these patterns make up is the built-in one. -/
theorem builtin_json : Grammar.builtin .json = grammar := by decide +kernel

/-! ## Sets -/

/-- A range of one character has this one. -/
theorem has_range (c d : Char) : SetItem.has (.range d d) c = (c == d) := by
  rw [SetItem.has, Bool.eq_iff_iff, Bool.and_eq_true, decide_eq_true_eq, decide_eq_true_eq,
    beq_iff_eq]
  constructor
  · rintro ⟨hle, hge⟩
    exact Char.le_antisymm hge hle
  · rintro rfl
    exact ⟨Char.le_refl _, Char.le_refl _⟩

/-- A set of characters has those listed, or all others. -/
theorem has_listed (cs : List Char) (negated : Bool) (c : Char) :
    CharSet.has ⟨cs.map fun d => .range d d, negated, false⟩ c = (cs.contains c != negated) := by
  simp only [CharSet.has, CharSet.hasItem, Bool.false_eq_true, if_false, List.any_map]
  congr 1
  induction cs with
  | nil => rfl
  | cons d cs ih =>
      rw [List.any_cons, List.contains_cons, ih]
      exact congrArg (· || cs.contains c) (has_range c d)

/-- A set of one character has that one only. -/
theorem has_single (c d : Char) : (CharSet.single d).has c = (c == d) := by
  simp [CharSet.single, CharSet.has, CharSet.hasItem, has_range]

/-- A set that is given by a property has what the property holds of. -/
theorem has_property (property : CharProperty) (c : Char) :
    CharSet.has ⟨[.property property true], false, false⟩ c = property.holds c := by
  simp [CharSet.has, CharSet.hasItem, SetItem.has]

/-! ## Strings -/

/-- The passages that the pattern of a character takes one by one. -/
def Part.chunks : Part → List Text
  | .plain c _ => [[c]]
  | .escaped c _ => [['\\', c]]
  | .numbered code _ _ => ['\\', 'u'] :: code.map fun c => [c]

/-- The chunks of a part make up its text. -/
theorem Part.flatten_chunks (part : Part) : part.chunks.flatten = part.text := by
  cases part with
  | plain c _ => rfl
  | escaped c _ => rfl
  | numbered code _ _ => rw [chunks, List.flatten_cons, flatten_map_singleton]; rfl

/-- A character that is written by itself is taken by itself. -/
theorem onlyTakes_partPattern_plain (hquote : c ≠ '"') (hslash : c ≠ '\\') (front back : Text) :
    partPattern.OnlyTakes front [c] back := by
  refine OnlyTakes.alt (onlyTakes_oneOf ?_) (Refuses.seq (refuses_oneOf ?_) _)
  · exact (has_listed ['"', '\\'] true c).trans (by simp [hquote, hslash])
  · rintro _ ⟨⟩
    rwa [has_single, beq_eq_false_iff_ne]

/-- An escape is read with the character that it escapes, and in no other way. -/
theorem onlyTakes_partPattern_escaped (hfeed : c ≠ '\n') (front back : Text) :
    partPattern.OnlyTakes front ['\\', c] back := by
  refine Refuses.onlyTakes_alt (refuses_oneOf ?_) ?_
  · rintro _ ⟨⟩
    rfl
  · refine OnlyTakes.seq (onlyTakes_oneOf rfl) (onlyTakes_oneOf ?_)
    exact (has_listed ['\n'] true c).trans (by simp [hfeed])

/-- Each passage begins with no quote and is taken by itself. -/
theorem Part.of_mem_chunks {part : Part} {chunk : Text} (h : chunk ∈ part.chunks) :
    (∃ c chunk', chunk = c :: chunk' ∧ c ≠ '"') ∧
      ∀ front back, partPattern.OnlyTakes front chunk back := by
  cases part with
  | plain c allowed =>
      obtain rfl := List.mem_singleton.1 h
      exact ⟨⟨c, [], rfl, allowed.2.1⟩, onlyTakes_partPattern_plain allowed.2.1 allowed.2.2⟩
  | escaped c known =>
      obtain rfl := List.mem_singleton.1 h
      have hfeed : ∀ c ∈ escapes, c ≠ '\n' := List.all_iff_forall_prop.1 (by decide)
      exact ⟨⟨'\\', [c], rfl, by decide⟩, onlyTakes_partPattern_escaped (hfeed c known)⟩
  | numbered code _ hex =>
      rcases List.mem_cons.1 h with rfl | h
      · exact ⟨⟨'\\', ['u'], rfl, by decide⟩, onlyTakes_partPattern_escaped (by decide)⟩
      · obtain ⟨c, hc, rfl⟩ := List.mem_map.1 h
        have hplain : ∀ c ∈ hexDigits, c ≠ '"' ∧ c ≠ '\\' :=
          List.all_iff_forall_prop.1 (by decide)
        obtain ⟨hquote, hslash⟩ := hplain c (hex c hc)
        exact ⟨⟨c, [], rfl, hquote⟩, onlyTakes_partPattern_plain hquote hslash⟩

/-- The quote is refused where none comes next. -/
theorem refuses_quote (h : ∀ c ∈ back.head?, c ≠ '"') (front : Text) : quote.Refuses front back :=
  refuses_oneOf fun c hc => by rw [has_single, beq_eq_false_iff_ne]; exact h c hc

/-- A quote is no part of what is quoted, unless it is escaped. -/
theorem refuses_partPattern_quote (front back : Text) :
    partPattern.Refuses front ('"' :: back) := by
  refine Refuses.alt (refuses_oneOf ?_) (Refuses.seq (refuses_oneOf ?_) _)
  · rintro _ ⟨⟩
    rfl
  · rintro _ ⟨⟩
    rfl

/-- The characters of a string up to the quote that closes it. -/
theorem chunks_parts (front : Text) (parts : List Part) (back : Text) :
    partPattern.Chunks front (parts.flatMap Part.chunks) ('"' :: back) := by
  refine chunks_of_onlyTakes (fun chunk hmem => ?_)
    fun front => refuses_partPattern_quote front back
  obtain ⟨part, -, hchunk⟩ := List.mem_flatMap.1 hmem
  obtain ⟨⟨c, rest, rfl, -⟩, htakes⟩ := Part.of_mem_chunks hchunk
  exact ⟨List.cons_ne_nil _ _, htakes⟩

/-- The chunks of several parts make up their texts. -/
theorem flatten_flatMap_chunks (parts : List Part) :
    (parts.flatMap Part.chunks).flatten = parts.flatMap Part.text := by
  induction parts with
  | nil => rfl
  | cons part parts ih =>
      rw [List.flatMap_cons, List.flatten_append, ih, part.flatten_chunks, List.flatMap_cons]

/-- The string pattern takes a whole string. -/
theorem takes_stringPattern (front : Text) (parts : List Part) (back : Text) :
    stringPattern.Takes front (quoted parts) back := by
  have hcontents := takes_star (chunks_parts (front ++ ['"']) parts back)
  rw [flatten_flatMap_chunks] at hcontents
  have hclosing (front : Text) : (upTo quote true 1).Takes front ['"'] back :=
    (onlyTakes_oneOf rfl).takes.upTo_one
  exact (onlyTakes_oneOf rfl).takes.seq (hcontents.seq (hclosing _))

/-- A string with nothing left open can be taken in one way only. -/
theorem onlyTakes_closedPattern (front : Text) (parts : List Part) (back : Text) :
    closedPattern.OnlyTakes front (quoted parts) back := by
  have hcontents : ((star partPattern true).seq quote).OnlyTakes (front ++ ['"'])
      (parts.flatMap Part.text ++ ['"']) back := by
    rw [← flatten_flatMap_chunks]
    refine onlyTakes_star_seq (chunks_parts _ parts back) ?_ (onlyTakes_oneOf rfl)
    intro chunk hmem front back
    obtain ⟨part, -, hchunk⟩ := List.mem_flatMap.1 hmem
    obtain ⟨⟨c, rest, rfl, hquote⟩, -⟩ := Part.of_mem_chunks hchunk
    refine refuses_quote ?_ front
    rintro _ ⟨⟩
    exact hquote
  exact OnlyTakes.seq (onlyTakes_oneOf rfl) hcontents

/-- A string is refused where no quote comes next. -/
theorem refuses_stringPattern (h : ∀ c ∈ back.head?, c ≠ '"') (front : Text) :
    stringPattern.Refuses front back :=
  (refuses_quote h front).seq _

/-! ## Keys -/

/-- The set of blanks has those of the language. -/
theorem has_blank (blank : Blank) :
    CharSet.has ⟨[.property .blank true], false, false⟩ blank.char = true := by
  cases blank with
  | space | tab | feed | carriageReturn => rfl

/-- The blanks of a gap up to what is not a blank. -/
theorem chunks_blankText (gap : List Blank) (h : ∀ c ∈ back.head?, Unicode.isBlank c = false)
    (front : Text) :
    (oneOf ⟨[.property .blank true], false, false⟩).Chunks front
      ((blankText gap).map fun c => [c]) back := by
  refine chunks_oneOf (fun c hc => ?_) fun c hc => by rw [has_property]; exact h c hc
  obtain ⟨blank, -, rfl⟩ := List.mem_map.1 hc
  exact has_blank blank

/-- Neither a colon nor anything else that is not a blank is the first character of a gap. -/
theorem refuses_of_mem_blankText {gap : List Blank} {chunk : Text}
    (h : chunk ∈ (blankText gap).map fun c => [c]) (front back : Text) :
    (oneOf (.single ':')).Refuses front (chunk ++ back) := by
  simp only [blankText, List.map_map, List.mem_map] at h
  obtain ⟨blank, -, rfl⟩ := h
  refine refuses_oneOf ?_
  rintro _ ⟨⟩
  cases blank with
  | space | tab | feed | carriageReturn => rfl

/-- Blanks and a colon are read as they are, and in no other way. -/
theorem onlyTakes_colonPattern (front : Text) (gap : List Blank) (back : Text) :
    colonPattern.OnlyTakes front (blankText gap ++ [':']) back := by
  have hcolon : ∀ c ∈ ([':'] ++ back).head?, Unicode.isBlank c = false := by
    rintro _ ⟨⟩
    rfl
  have h := onlyTakes_star_seq (chunks_blankText gap hcolon front)
    (fun _ => refuses_of_mem_blankText) (onlyTakes_oneOf rfl)
  rwa [flatten_map_singleton] at h

/-- Blanks are refused where no colon follows on them. -/
theorem refuses_colonPattern (gap : List Blank)
    (h : ∀ c ∈ back.head?, Unicode.isBlank c = false ∧ c ≠ ':') (front : Text) :
    colonPattern.Refuses front (blankText gap ++ back) := by
  have hrefuses := refuses_star_seq (chunks_blankText gap (fun c hc => (h c hc).1) front)
    (fun _ => refuses_of_mem_blankText) (refuses_oneOf fun c hc => ?_)
  · rwa [flatten_map_singleton] at hrefuses
  · rw [has_single, beq_eq_false_iff_ne]
    exact (h c hc).2

/-- The key pattern matches a string, the blanks after it and a colon, with the string as its
group. -/
theorem matchAt_keyPattern (front : Text) (parts : List Part) (gap : List Blank) (back : Text) :
    keyPattern.matchAt (.between front (quoted parts ++ (blankText gap ++ ':' :: back))) =
      some ⟨⟨front.size, (front ++ quoted parts ++ (blankText gap ++ [':'])).size⟩,
        [(1, ⟨front.size, (front ++ quoted parts).size⟩)]⟩ := by
  have hcolon := onlyTakes_colonPattern (front ++ quoted parts) gap back
  have hmatch := (onlyTakes_closedPattern front parts _).matchAt_group_seq hcolon 1
  rwa [List.append_assoc (blankText gap), List.singleton_append] at hmatch

/-- The key pattern does not match a string with no colon after it. -/
theorem refuses_keyPattern (parts : List Part) (gap : List Blank)
    (h : ∀ c ∈ back.head?, Unicode.isBlank c = false ∧ c ≠ ':') (front : Text) :
    keyPattern.Refuses front (quoted parts ++ (blankText gap ++ back)) :=
  (onlyTakes_closedPattern front parts _).refuses_group_seq (refuses_colonPattern gap h _) 1

/-- A key is refused where no quote comes next. -/
theorem refuses_keyPattern_of_ne (h : ∀ c ∈ back.head?, c ≠ '"') (front : Text) :
    keyPattern.Refuses front back :=
  (((refuses_quote h front).seq _).group 1).seq _

/-! ## Numbers and words -/

/-- The characters that stand next to numbers and words. -/
def breaks : Text := [' ', '\t', '\n', '\r', '{', '}', '[', ']', ',', ':']

/-- What breaks words off is no word character. -/
theorem isWord_breaks : ∀ c ∈ breaks, Unicode.isWord c = false :=
  List.all_iff_forall_prop.1 (by decide +kernel)

/-- Digits are word characters. -/
theorem isWord_digits : ∀ c ∈ digits, Unicode.isWord c = true :=
  List.all_iff_forall_prop.1 (by decide +kernel)

/-- A word begins behind anything else. -/
theorem holds_wordEdge_start {rest : Text}
    (hfront : ∀ c ∈ front.getLast?, Unicode.isWord c = false)
    (hc : Unicode.isWord c = true) :
    Anchor.holds .wordEdge (.between front (c :: rest)) = true := by
  have hprevious : front.getLast?.any Unicode.isWord = false := by
    cases hlast : front.getLast? with
    | none => rfl
    | some d => exact hfront d hlast
  simp [Anchor.holds, Place.isWordEdge, Place.between, hprevious, hc]

/-- A word ends at a break. -/
theorem holds_wordEdge_end (hlast : front.getLast? = some c) (hc : Unicode.isWord c = true)
    (hback : ∀ c ∈ back.head?, c ∈ breaks) :
    Anchor.holds .wordEdge (.between front back) = true := by
  have hnext : back.head?.any Unicode.isWord = false := by
    cases hhead : back.head? with
    | none => rfl
    | some d => exact isWord_breaks d (hback d hhead)
  simp [Anchor.holds, Place.isWordEdge, Place.between, hnext, hlast, hc]

/-- Digits are read up to the last one in the row. -/
theorem takes_digitsPattern (row : Digits) (front : Text)
    (h : ∀ c ∈ back.head?, Unicode.isDigit c = false) :
    digitsPattern.Takes front row.text back := by
  have hdigits : ∀ c ∈ digits, Unicode.isDigit c = true :=
    List.all_iff_forall_prop.1 (by decide +kernel)
  refine takes_repeated_oneOf row.ne_nil (fun c hc => ?_) fun c hc => ?_
  · rw [has_property]
    exact hdigits c (row.mem_digits c hc)
  · rw [has_property]
    exact h c hc

/-- What may follow on a row of digits in a number, or break it off, is no digit. -/
theorem isDigit_of_mem : ∀ c ∈ '.' :: 'e' :: 'E' :: breaks, Unicode.isDigit c = false :=
  List.all_iff_forall_prop.1 (by decide +kernel)

/-- What follows the fraction of a number begins its exponent or is a break. -/
theorem head?_exponentText (number : Number) (h : ∀ c ∈ back.head?, c ∈ breaks) :
    ∀ c ∈ (number.exponentText ++ back).head?, c ∈ 'e' :: 'E' :: breaks := by
  intro c hc
  cases hexponent : number.exponent with
  | none =>
      rw [Number.exponentText, hexponent] at hc
      exact List.mem_cons_of_mem _ (List.mem_cons_of_mem _ (h c hc))
  | some exponent =>
      rw [Number.exponentText, hexponent] at hc
      obtain rfl : exponent.letter = c := Option.some.inj hc
      exact List.mem_append_left breaks exponent.isLetter

/-- On the whole part of a number follows its fraction, its exponent or a break. -/
theorem head?_fractionText (number : Number) (h : ∀ c ∈ back.head?, c ∈ breaks) :
    ∀ c ∈ (number.fractionText ++ (number.exponentText ++ back)).head?,
      c ∈ '.' :: 'e' :: 'E' :: breaks := by
  intro c hc
  cases hfraction : number.fraction with
  | none =>
      rw [Number.fractionText, hfraction] at hc
      exact List.mem_cons_of_mem _ (head?_exponentText number h c hc)
  | some fraction =>
      rw [Number.fractionText, hfraction] at hc
      obtain rfl : '.' = c := Option.some.inj hc
      exact List.mem_cons_self ..

/-- The fraction of a number is read as a whole, or nothing if it has none. -/
theorem takes_fraction (number : Number) (front : Text) (h : ∀ c ∈ back.head?, c ∈ breaks) :
    (upTo fractionPattern true 1).Takes front number.fractionText
      (number.exponentText ++ back) := by
  have hnext := head?_exponentText number h
  cases hfraction : number.fraction with
  | none =>
      rw [Number.fractionText, hfraction]
      refine (Refuses.onlyTakes_upTo_one ((refuses_oneOf fun c hc => ?_).seq _)).takes
      rw [has_single, beq_eq_false_iff_ne]
      rintro rfl
      exact absurd (hnext _ hc) (by decide)
  | some fraction =>
      rw [Number.fractionText, hfraction]
      have hrow := takes_digitsPattern fraction (front ++ ['.'])
        fun c hc => isDigit_of_mem c (List.mem_cons_of_mem _ (hnext c hc))
      exact ((onlyTakes_oneOf rfl).takes.seq hrow).upTo_one

/-- A row of digits begins with one. -/
theorem Digits.exists_cons (row : Digits) : ∃ c rest, row.text = c :: rest ∧ c ∈ digits := by
  obtain ⟨c, rest, htext⟩ := List.exists_cons_of_ne_nil row.ne_nil
  exact ⟨c, rest, htext, row.mem_digits c (htext ▸ List.mem_cons_self ..)⟩

/-- An exponent is read as a whole. -/
theorem takes_exponentPattern (exponent : Exponent) (front : Text)
    (h : ∀ c ∈ back.head?, c ∈ breaks) :
    exponentPattern.Takes front exponent.text back := by
  have hletter := has_listed ['e', 'E'] false exponent.letter
  have hsign (c : Char) := has_listed ['+', '-'] false c
  obtain ⟨first, rest, hfirst, hdigit⟩ := exponent.digits.exists_cons
  refine Takes.seq (onlyTakes_oneOf ?_).takes (Takes.seq (takes_upTo_oneOf (fun c hc => ?_) ?_)
    (takes_digitsPattern exponent.digits _ fun c hc => ?_))
  · exact hletter.trans (by simpa using exponent.isLetter)
  · exact (hsign c).trans (by simpa using exponent.isSign c hc)
  · rw [hfirst]
    rintro _ ⟨⟩
    have hunsigned : ∀ c ∈ digits, [ '+', '-'].contains c = false :=
      List.all_iff_forall_prop.1 (by decide)
    exact (hsign first).trans (by rw [hunsigned first hdigit]; rfl)
  · exact isDigit_of_mem c (List.mem_append_right ['.', 'e', 'E'] (h c hc))

/-- The exponent of a number is read as a whole, or nothing if it has none. -/
theorem takes_exponent (number : Number) (front : Text) (h : ∀ c ∈ back.head?, c ∈ breaks) :
    (upTo exponentPattern true 1).Takes front number.exponentText back := by
  cases hexponent : number.exponent with
  | none =>
      rw [Number.exponentText, hexponent]
      refine (Refuses.onlyTakes_upTo_one ((refuses_oneOf fun c hc => ?_).seq _)).takes
      have hother : ∀ c ∈ breaks, ['e', 'E'].contains c = false :=
        List.all_iff_forall_prop.1 (by decide)
      exact (has_listed ['e', 'E'] false c).trans (by rw [hother c (h c hc)]; rfl)
  | some exponent =>
      rw [Number.exponentText, hexponent]
      exact (takes_exponentPattern exponent front h).upTo_one

/-- The last character of a number is a digit. -/
theorem Number.exists_getLast? (number : Number) (front : Text) :
    ∃ c ∈ digits, (front ++ number.whole.text ++ number.fractionText ++
      number.exponentText).getLast? = some c := by
  have hrow (row : Digits) (s : Text) : ∃ c ∈ digits, (s ++ row.text).getLast? = some c := by
    refine ⟨row.text.getLast row.ne_nil, row.mem_digits _ (List.getLast_mem _), ?_⟩
    rw [List.getLast?_append, List.getLast?_eq_some_getLast row.ne_nil, Option.some_or]
  cases hexponent : number.exponent with
  | some exponent =>
      have h := hrow exponent.digits (front ++ number.whole.text ++ number.fractionText ++
        exponent.letter :: exponent.sign.toList)
      simpa [Number.exponentText, hexponent, Exponent.text] using h
  | none =>
      cases hfraction : number.fraction with
      | some fraction =>
          have h := hrow fraction (front ++ number.whole.text ++ ['.'])
          simpa [Number.exponentText, Number.fractionText, hexponent, hfraction] using h
      | none =>
          have h := hrow number.whole front
          simpa [Number.exponentText, Number.fractionText, hexponent, hfraction] using h

/-- The number pattern takes a number that stands between breaks. -/
theorem takes_numberPattern (number : Number) (hfront : ∀ c ∈ front.getLast?, c ∈ breaks)
    (hback : ∀ c ∈ back.head?, c ∈ breaks) : numberPattern.Takes front number.text back := by
  obtain ⟨first, rest, hfirst, hdigit⟩ := number.whole.exists_cons
  obtain ⟨last, hlast, hend⟩ := number.exists_getLast? (front ++ number.sign.toList)
  have hunsigned : ∀ c ∈ digits, c ≠ '-' := List.all_iff_forall_prop.1 (by decide)
  -- in front of the digits stands the sign or a break
  have hbefore : ∀ c ∈ (front ++ number.sign.toList).getLast?, Unicode.isWord c = false := by
    intro c hc
    rw [Number.sign] at hc
    split at hc
    · rw [Option.toList_some, List.getLast?_concat] at hc
      obtain rfl := Option.some.inj hc
      rfl
    · rw [Option.toList_none, List.append_nil] at hc
      exact isWord_breaks c (hfront c hc)
  have hsign : (upTo (oneOf (.single '-')) true 1).Takes front number.sign.toList
      (number.whole.text ++ (number.fractionText ++ number.exponentText) ++ back) := by
    refine takes_upTo_oneOf (fun c hc => ?_) ?_
    · rw [Number.sign] at hc
      split at hc
      · obtain rfl := Option.some.inj hc
        rfl
      · cases hc
    · rw [hfirst]
      rintro _ ⟨⟩
      rw [has_single, beq_eq_false_iff_ne]
      exact hunsigned first hdigit
  have hwhole : digitsPattern.Takes (front ++ number.sign.toList) number.whole.text
      (number.fractionText ++ number.exponentText ++ back) := by
    rw [List.append_assoc]
    exact takes_digitsPattern number.whole _
      fun c hc => isDigit_of_mem c (head?_fractionText number hback c hc)
  have hexponent := (takes_exponent number _ hback).seq_position
    (holds_wordEdge_end hend (isWord_digits last hlast) hback)
  have hrest := hwhole.seq ((takes_fraction number _ hback).seq hexponent)
  refine hsign.seq (hrest.position_seq ?_)
  rw [hfirst]
  exact holds_wordEdge_start hbefore (isWord_digits first hdigit)

/-- A number begins with a minus or a digit. -/
theorem refuses_numberPattern (hsign : c ≠ '-') (hdigit : Unicode.isDigit c = false)
    (front back : Text) : numberPattern.Refuses front (c :: back) := by
  have hdigits (front : Text) : digitsPattern.Refuses front (c :: back) := by
    refine (refuses_oneOf ?_).repeated _
    rintro _ ⟨⟩
    rw [has_property]
    exact hdigit
  have hunsigned : (upTo (oneOf (.single '-')) true 1).OnlyTakes front [] (c :: back) := by
    refine (refuses_oneOf ?_).onlyTakes_upTo_one
    rintro _ ⟨⟩
    rwa [has_single, beq_eq_false_iff_ne]
  exact hunsigned.refuses_seq (((hdigits _).seq _).position_seq _)

/-- The word pattern takes a word that stands between breaks. -/
theorem takes_wordPattern {text : Text} (hne : text ≠ [])
    (htext : ∀ c ∈ text, Unicode.isWord c = true) (hfront : ∀ c ∈ front.getLast?, c ∈ breaks)
    (hback : ∀ c ∈ back.head?, c ∈ breaks) : wordPattern.Takes front text back := by
  have hrun : (repeated (oneOf ⟨[.property .word true], false, false⟩) true).Takes front text
      back := by
    refine takes_repeated_oneOf hne (fun c hc => ?_) fun c hc => ?_
    · rw [has_property]
      exact htext c hc
    · rw [has_property]
      exact isWord_breaks c (hback c hc)
  have hlast : (front ++ text).getLast? = some (text.getLast hne) := by
    rw [List.getLast?_append, List.getLast?_eq_some_getLast hne, Option.some_or]
  refine (hrun.seq_position ?_).position_seq ?_
  · exact holds_wordEdge_end hlast (htext _ (List.getLast_mem hne)) hback
  · obtain ⟨first, rest, rfl⟩ := List.exists_cons_of_ne_nil hne
    exact holds_wordEdge_start (fun c hc => isWord_breaks c (hfront c hc))
      (htext first (List.mem_cons_self ..))

end TextEditor.Json
