import TextEditor.Proofs.Json.Patterns
import TextEditor.Proofs.Pattern.Pieces

/-!
# Where the lexemes of JSON stand

Every character of a JSON text that is not a blank belongs to one of its lexemes. Next to a lexeme
that is not a mark stands a blank, a mark or nothing, since of two neighbours one is a mark.

Main statements: `exists_of_mem_placed` and `mem_placed`, `exists_of_text_eq`, and `head?_breaks`
with `getLast?_breaks`.
-/

namespace TextEditor.Json

variable {items before after : List Item} {gap lastGap : List Blank} {lexeme : Lexeme} {span : Span}
  {front back rest : Text} {c : Char} {n : Nat}

/-! ## Lexemes and their spans -/

/-- Items as they are written. -/
def write (items : List Item) : Text := items.flatMap Item.text

/-- No items make no text. -/
@[simp] theorem write_nil : write [] = [] := rfl

/-- Items are written one after the other. -/
@[simp] theorem write_cons (item : Item) (items : List Item) :
    write (item :: items) = item.text ++ write items := rfl

/-- Lists of items are written one after the other. -/
@[simp] theorem write_append (items others : List Item) :
    write (items ++ others) = write items ++ write others := List.flatMap_append

/-- A lexeme that is placed is one of an item, behind the text of the items before it and its
gap. -/
theorem exists_of_mem_placed (h : (lexeme, span) ∈ placed n items) :
    ∃ before gap after, items = before ++ ⟨gap, lexeme⟩ :: after ∧
      span = ⟨n + (write before ++ blankText gap).size,
        n + (write before ++ blankText gap ++ lexeme.text).size⟩ := by
  induction items generalizing n with
  | nil => exact absurd h List.not_mem_nil
  | cons item items ih =>
      rcases List.mem_cons.1 h with heq | h
      · obtain ⟨rfl, rfl⟩ := Prod.mk.inj heq
        exact ⟨[], item.gap, items, rfl, rfl⟩
      · obtain ⟨before, gap, after, rfl, rfl⟩ := ih h
        refine ⟨item :: before, gap, after, rfl, ?_⟩
        simp [Nat.add_assoc]

/-- Each item has its lexeme placed behind the text of the items before it and its gap. -/
theorem mem_placed (n : Nat) (before : List Item) (gap : List Blank) (lexeme : Lexeme)
    (after : List Item) :
    (lexeme, ⟨n + (write before ++ blankText gap).size,
      n + (write before ++ blankText gap ++ lexeme.text).size⟩) ∈
        placed n (before ++ ⟨gap, lexeme⟩ :: after) := by
  induction before generalizing n with
  | nil => exact List.mem_cons_self ..
  | cons item before ih =>
      refine List.mem_cons_of_mem _ ?_
      have h := ih (n + item.text.size)
      simpa [Nat.add_assoc] using h

/-- No lexeme is placed before the text begins. -/
theorem le_of_mem_placed (h : (lexeme, span) ∈ placed n items) : n ≤ span.start := by
  obtain ⟨before, gap, after, -, rfl⟩ := exists_of_mem_placed h
  exact Nat.le_add_right ..

/-- Lexemes are placed one after the other. -/
theorem pairwise_placed (n : Nat) (items : List Item) :
    (placed n items).Pairwise fun a b => a.2.Precedes b.2 := by
  induction items generalizing n with
  | nil => exact .nil
  | cons item items ih =>
      exact List.pairwise_cons.2 ⟨fun _ hmem => le_of_mem_placed hmem, ih _⟩

/-! ## Characters -/

/-- A character of a JSON text is a blank or one of the characters of a lexeme. -/
theorem exists_of_text_eq (h : write items ++ blankText lastGap = front ++ c :: rest) :
    (∃ blank : Blank, c = blank.char) ∨
      ∃ before gap lexeme after u v, items = before ++ ⟨gap, lexeme⟩ :: after ∧
        lexeme.text = u ++ c :: v ∧ front = write before ++ blankText gap ++ u := by
  have hblank {gap : List Blank} {s v : Text} (h : blankText gap = s ++ c :: v) :
      ∃ blank : Blank, c = blank.char := by
    have hmem : c ∈ blankText gap := by simp [h]
    obtain ⟨blank, -, rfl⟩ := List.mem_map.1 hmem
    exact ⟨blank, rfl⟩
  induction items generalizing front with
  | nil => exact .inl (hblank h)
  | cons item items ih =>
      rw [write_cons, Item.text, List.append_assoc, List.append_assoc] at h
      rcases Text.append_eq_append_cons h with ⟨v, hgap, -⟩ | ⟨ahead, rfl, hahead⟩
      · exact .inl (hblank hgap)
      · rcases Text.append_eq_append_cons hahead with ⟨v, hlexeme, -⟩ | ⟨further, rfl, hfurther⟩
        · exact .inr ⟨[], item.gap, item.lexeme, items, ahead, v, rfl, hlexeme, rfl⟩
        · rcases ih hfurther with hblank | ⟨before, gap, lexeme, after, u, v, rfl, htext, rfl⟩
          · exact .inl hblank
          · refine .inr ⟨item :: before, gap, lexeme, after, u, v, rfl, htext, ?_⟩
            simp [Item.text]

/-- The characters that numbers are written with. -/
def numberChars : Text := "-+.eE".toList ++ digits

/-- A number is written with characters of numbers only. -/
theorem Number.mem_numberChars {number : Number} (h : c ∈ number.text) : c ∈ numberChars := by
  have hdigits (row : Digits) (hc : c ∈ row.text) : c ∈ numberChars :=
    List.mem_append_right _ (row.mem_digits c hc)
  simp only [Number.text, List.mem_append] at h
  rcases h with h | h | h | h
  · rw [Number.sign] at h
    split at h
    · obtain rfl := List.mem_singleton.1 h
      decide
    · exact absurd h List.not_mem_nil
  · exact hdigits _ h
  · cases hfraction : number.fraction with
    | none =>
        rw [Number.fractionText, hfraction] at h
        exact absurd h List.not_mem_nil
    | some fraction =>
        rw [Number.fractionText, hfraction] at h
        rcases List.mem_cons.1 h with rfl | h
        · decide
        · exact hdigits _ h
  · cases hexponent : number.exponent with
    | none =>
        rw [Number.exponentText, hexponent] at h
        exact absurd h List.not_mem_nil
    | some exponent =>
        rw [Number.exponentText, hexponent] at h
        have hletters : ∀ c ∈ ['e', 'E'], c ∈ numberChars := List.all_iff_forall_prop.1 (by decide)
        have hsigns : ∀ c ∈ ['+', '-'], c ∈ numberChars := List.all_iff_forall_prop.1 (by decide)
        rcases List.mem_cons.1 h with rfl | h
        · exact hletters _ exponent.isLetter
        · rcases List.mem_append.1 h with h | h
          · exact hsigns c (exponent.isSign c (Option.mem_toList.1 h))
          · exact hdigits _ h

/-- There is no quote among blanks. -/
theorem not_mem_quote_blankText (gap : List Blank) : '"' ∉ blankText gap := by
  intro h
  obtain ⟨blank, -, hblank⟩ := List.mem_map.1 h
  cases blank with
  | space | tab | feed | carriageReturn => cases hblank

/-- Quotes are in strings only. -/
theorem Lexeme.not_mem_quote (h : lexeme.isQuoted = false) : '"' ∉ lexeme.text := by
  intro hmem
  cases lexeme with
  | key | string => cases h
  | number number => exact absurd (Number.mem_numberChars hmem) (by decide)
  | word word =>
      cases word with
      | true | false | null => exact absurd hmem (by decide)
  | mark mark =>
      cases mark with
      | openBrace | closeBrace | openBracket | closeBracket | comma | colon =>
          exact absurd hmem (by decide)

/-! ## Neighbours -/

/-- A blank breaks numbers and words off. -/
theorem mem_breaks_blank (blank : Blank) : blank.char ∈ breaks := by
  cases blank with
  | space | tab | feed | carriageReturn => decide

/-- A mark breaks numbers and words off. -/
theorem mem_breaks_mark (mark : Mark) : mark.char ∈ breaks := by
  cases mark with
  | openBrace | closeBrace | openBracket | closeBracket | comma | colon => decide

/-- Of two neighbours one is a mark. -/
theorem Lexeme.Before.exists_mark {lexeme next : Lexeme} (h : lexeme.Before next) :
    (∃ mark, lexeme = .mark mark) ∨ ∃ mark, next = .mark mark := by
  cases lexeme with
  | mark mark => exact .inl ⟨mark, rfl⟩
  | key | string | number | word =>
      cases next with
      | mark mark => exact .inr ⟨mark, rfl⟩
      | key | string | number | word => exact h.elim

/-- A lexeme in a row may stand behind the one before it and before the one behind it. -/
theorem before_of_row {lexemes others : List Lexeme} (h : Row (lexemes ++ lexeme :: others)) :
    (∀ other ∈ lexemes.getLast?, other.Before lexeme) ∧
      ∀ other ∈ others.head?, lexeme.Before other := by
  obtain ⟨-, hrest, hfront⟩ := List.isChain_append.1 h.chain
  exact ⟨fun other hmem => hfront other hmem lexeme rfl, (List.isChain_cons.1 hrest).1⟩

/-- What stands before a lexeme that is not a mark. -/
theorem getLast?_breaks (hrow : Row ((before ++ ⟨gap, lexeme⟩ :: after).map (·.lexeme)))
    (hlexeme : ∀ mark, lexeme ≠ .mark mark) :
    ∀ c ∈ (write before ++ blankText gap).getLast?, c ∈ breaks := by
  intro c hc
  rw [List.map_append, List.map_cons] at hrow
  rcases List.eq_nil_or_concat' gap with rfl | ⟨gap, blank, rfl⟩
  · rcases List.eq_nil_or_concat' before with rfl | ⟨before, item, rfl⟩
    · cases hc
    · have hbefore := (before_of_row hrow).1 item.lexeme (by simp)
      obtain ⟨mark, hmark⟩ | ⟨mark, hmark⟩ := hbefore.exists_mark
      · have htext : write (before ++ [item]) ++ blankText [] =
            write before ++ blankText item.gap ++ [mark.char] := by
          simp [Item.text, hmark, Lexeme.text, blankText]
        rw [htext, List.getLast?_concat] at hc
        obtain rfl := Option.some.inj hc
        exact mem_breaks_mark mark
      · exact absurd hmark (hlexeme mark)
  · have htext : write before ++ blankText (gap ++ [blank]) =
        write before ++ blankText gap ++ [blank.char] := by
      simp [blankText]
    rw [htext, List.getLast?_concat] at hc
    obtain rfl := Option.some.inj hc
    exact mem_breaks_blank blank

/-- What stands after a lexeme that is not a mark. -/
theorem head?_breaks (hrow : Row ((before ++ ⟨gap, lexeme⟩ :: after).map (·.lexeme)))
    (hlexeme : ∀ mark, lexeme ≠ .mark mark) (lastGap : List Blank) :
    ∀ c ∈ (write after ++ blankText lastGap).head?, c ∈ breaks := by
  have hgap {gap : List Blank} {rest : Text} (hrest : ∀ c ∈ rest.head?, c ∈ breaks) :
      ∀ c ∈ (blankText gap ++ rest).head?, c ∈ breaks := by
    cases gap with
    | nil => exact hrest
    | cons blank gap =>
        rintro _ ⟨⟩
        exact mem_breaks_blank blank
  rw [List.map_append, List.map_cons] at hrow
  cases after with
  | nil =>
      have hlast : ∀ c ∈ (blankText lastGap ++ []).head?, c ∈ breaks := hgap nofun
      rwa [List.append_nil] at hlast
  | cons item after =>
      have hafter := (before_of_row hrow).2 item.lexeme rfl
      obtain ⟨mark, hmark⟩ | ⟨mark, hmark⟩ := hafter.exists_mark
      · exact absurd hmark (hlexeme mark)
      · rw [write_cons, Item.text, List.append_assoc, List.append_assoc, hmark]
        refine hgap ?_
        rintro _ ⟨⟩
        exact mem_breaks_mark mark

/-- A key has a colon behind it. -/
theorem exists_of_row_key {parts : List Part}
    (hrow : Row (.key parts :: items.map (·.lexeme))) :
    ∃ gap others, items = ⟨gap, .mark .colon⟩ :: others := by
  cases items with
  | nil => exact (hrow.last _ rfl).elim
  | cons item items =>
      obtain ⟨gap, lexeme⟩ := item
      have hbefore : (Lexeme.key parts).Before lexeme := (List.isChain_cons_cons.1 hrow.chain).1
      cases lexeme with
      | mark mark =>
          obtain rfl : mark = .colon := hbefore
          exact ⟨gap, items, rfl⟩
      | key | string | number | word => exact hbefore.elim

/-- Behind a string that is not a key, and any blanks, no colon stands. -/
theorem exists_of_row_string {parts : List Part}
    (hrow : Row (.string parts :: items.map (·.lexeme))) (lastGap : List Blank) :
    ∃ gap rest, write items ++ blankText lastGap = blankText gap ++ rest ∧
      ∀ c ∈ rest.head?, Unicode.isBlank c = false ∧ c ≠ ':' := by
  cases items with
  | nil => exact ⟨lastGap, [], by simp, nofun⟩
  | cons item items =>
      obtain ⟨gap, lexeme⟩ := item
      have hbefore : (Lexeme.string parts).Before lexeme :=
        (List.isChain_cons_cons.1 hrow.chain).1
      cases lexeme with
      | mark mark =>
          refine ⟨gap, mark.char :: (write items ++ blankText lastGap), ?_, ?_⟩
          · simp [Item.text, Lexeme.text]
          · rintro _ ⟨⟩
            cases mark with
            | colon => exact absurd rfl hbefore
            | openBrace | closeBrace | openBracket | closeBracket | comma =>
                exact ⟨rfl, by decide⟩
      | key | string | number | word => exact hbefore.elim

end TextEditor.Json
