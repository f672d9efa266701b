import TextEditor.Proofs.Screen.Tiling

/-!
# Marks on the screen

A mark takes no cells and belongs to the character before it. Painting keeps marks only within a
piece, and only before the right edge: a character that ends right there loses its marks, and so
does one that a token separates from them.

Main statement: `shownAt_marks_iff`, for a character that is shown as a whole. That its marks are
always shown with it, `KeepsMarks`, fails in both ways.
-/

namespace TextEditor

variable {line : Text} {tokens : List Token} {window : Window} {left width tabWidth column : Nat}
  {front back marks : Text} {base : Char}

/-- The characters of a text take no cells. -/
def Text.OnlyMarks (t : Text) : Prop := ∀ c ∈ t, ¬ TakesCells c

/-- A text begins, if at all, with a character that has cells. -/
def Text.BeginsWithCells (t : Text) : Prop := ∀ c ∈ t.head?, 0 < cellWidth c

/-- In a line, `marks` follow a character behind `front` that takes cells and is in view as a
whole. -/
structure Marked (line : Text) (window : Window) (tabWidth : Nat) (front : Text) (base : Char)
    (marks back : Text) : Prop where
  line_eq : line = front ++ base :: (marks ++ back)
  takesCells : TakesCells base
  onlyMarks : marks.OnlyMarks
  left_le : window.left ≤ advanceAll tabWidth 0 front
  le_right : advance tabWidth (advanceAll tabWidth 0 front) base ≤ window.right

/-- Segments one after the other show a text from a cell on. -/
def Segment.ShownAt (segments : List Segment) (cell : Nat) (t : Text) : Prop :=
  ∃ before behind : Text, segments.flatMap Segment.text = before ++ (t ++ behind) ∧
    before.cellCount = cell

/-! ## Texts of marks -/

namespace Text

/-- A character that takes no cells is a text of marks. -/
theorem OnlyMarks.singleton {c : Char} (h : ¬ TakesCells c) : OnlyMarks [c] := by
  intro d hd
  obtain rfl := List.mem_singleton.1 hd
  exact h

/-- Without its first character a text of marks is one. -/
theorem OnlyMarks.tail {c : Char} {t : Text} (h : OnlyMarks (c :: t)) : OnlyMarks t :=
  fun d hd => h d (List.mem_cons_of_mem c hd)

/-- Marks leave the column where it is. -/
theorem OnlyMarks.advanceAll_eq {t : Text} (h : t.OnlyMarks) :
    advanceAll tabWidth column t = column := by
  induction t with
  | nil => rfl
  | cons c t ih =>
      rw [advanceAll_cons, advance_eq_self_iff.2 (h c (List.mem_cons_self ..)), ih h.tail]

/-- Marks are drawn as they are. -/
theorem OnlyMarks.drawnAll_eq {t : Text} (h : t.OnlyMarks) :
    drawnAll window tabWidth column t = t := by
  induction t with
  | nil => rfl
  | cons c t ih =>
      have hself : advance tabWidth column c = column :=
        advance_eq_self_iff.2 (h c (List.mem_cons_self ..))
      rw [drawnAll, hself, ih h.tail, drawn, if_pos (.inl hself)]
      rfl

/-- How a text begins is not changed by what follows on it. -/
theorem BeginsWithCells.append {s : Text} (h : s.BeginsWithCells) (hs : s ≠ []) (t : Text) :
    BeginsWithCells (s ++ t) := by
  cases s with
  | nil => exact absurd rfl hs
  | cons c s => exact h

/-- Two texts that begin with a character that has cells stand behind the same text if they stand
behind as many cells. -/
theorem eq_of_cellCount_eq {s t u v : Text} (h : s ++ t = u ++ v)
    (hcells : s.cellCount = u.cellCount) (ht : t.BeginsWithCells) (hv : v.BeginsWithCells) :
    s = u ∧ t = v := by
  have hnil {w rest : Text} (hcount : w.cellCount = 0) (hw : BeginsWithCells (w ++ rest)) :
      w = [] := by
    cases w with
    | nil => rfl
    | cons c w =>
        have hpos := hw c rfl
        rw [cellCount_cons] at hcount
        omega
  rcases List.append_eq_append_iff.1 h with ⟨w, rfl, rfl⟩ | ⟨w, rfl, rfl⟩
  · rw [cellCount_append] at hcells
    obtain rfl := hnil (by omega) ht
    exact ⟨(List.append_nil s).symm, rfl⟩
  · rw [cellCount_append] at hcells
    obtain rfl := hnil (by omega) hv
    exact ⟨List.append_nil u, rfl⟩

/-- Marks begin what is drawn of a text exactly if they begin the text: behind what is drawn there
is nothing more, or a character that has cells. -/
theorem OnlyMarks.prefix_drawnAll_iff {t later rest : Text} (h : marks.OnlyMarks)
    (hlater : later.BeginsWithCells) (hsame : t ++ rest = marks ++ back) :
    marks <+: drawnAll window tabWidth column t ++ later ↔ marks <+: t := by
  constructor
  · intro hbegins
    rcases List.append_eq_append_iff.1 hsame with ⟨w, rfl, -⟩ | ⟨w, rfl, -⟩
    · -- only marks are drawn, and the others would have to stand behind them
      have ht : OnlyMarks t := fun c hc => h c (List.mem_append_left w hc)
      rw [ht.drawnAll_eq, List.prefix_append_right_inj] at hbegins
      cases w with
      | nil => exact ⟨[], by simp⟩
      | cons c w =>
          obtain ⟨rest, rfl⟩ := hbegins
          have hpos := hlater c rfl
          exact absurd (.inr hpos) (h c (List.mem_append_right t (List.mem_cons_self ..)))
    · exact List.prefix_append marks w
  · rintro ⟨w, rfl⟩
    rw [drawnAll_append, h.drawnAll_eq, List.append_assoc]
    exact List.prefix_append _ _

end Text

/-! ## What is drawn begins with cells -/

/-- What is drawn of a character in view begins with cells. -/
theorem beginsWithCells_drawn {c : Char}
    (h : window.cell column < window.cell (advance tabWidth column c)) :
    (drawn window tabWidth column c).BeginsWithCells ∧ drawn window tabWidth column c ≠ [] := by
  have hne : advance tabWidth column c ≠ column := fun heq => by
    rw [heq] at h
    exact Nat.lt_irrefl _ h
  refine ⟨?_, fun hnil => ?_⟩
  · unfold drawn
    split
    · next hkept =>
        intro d hd
        obtain rfl := Option.some.inj hd
        have hkeeps := hkept.resolve_left hne
        rw [advance_of_ne hkeeps.1] at hne
        omega
    · intro d hd
      rw [List.eq_of_mem_replicate (List.mem_of_mem_head? hd), Text.cellWidth_space]
      exact Nat.one_pos
  · have hcount := @cellCount_drawn window tabWidth column c
    rw [hnil, Text.cellCount_nil] at hcount
    omega

namespace Piece

variable {piece : Piece} {segment : Segment}

/-- The text of a segment begins with cells. -/
theorem beginsWithCells_of_segment? (h : piece.segment? line window tabWidth = some segment) :
    segment.text.BeginsWithCells ∧ segment.text ≠ [] := by
  obtain ⟨hidden, body, rest, -, hexcerpt, hbody, rfl⟩ := exists_excerpt_of_segment? h
  cases body with
  | nil => exact absurd rfl hbody
  | cons c body =>
      obtain ⟨hbegins, hne⟩ := beginsWithCells_drawn (hexcerpt.shows c rfl)
      exact ⟨hbegins.append hne _, fun hnil => hne (List.append_eq_nil_iff.1 hnil).1⟩

/-- The texts of segments one after the other begin with cells. -/
theorem beginsWithCells_flatMap (pieces : List Piece) :
    Text.BeginsWithCells ((pieces.filterMap (segment? line window tabWidth)).flatMap
      Segment.text) := by
  induction pieces with
  | nil => exact fun _ hc => by cases hc
  | cons piece pieces ih =>
      cases hsegment : piece.segment? line window tabWidth with
      | none =>
          rw [List.filterMap_cons_none hsegment]
          exact ih
      | some segment =>
          obtain ⟨hbegins, hne⟩ := beginsWithCells_of_segment? hsegment
          rw [List.filterMap_cons_some hsegment, List.flatMap_cons]
          exact hbegins.append hne _

end Piece

/-! ## How a character in view is painted -/

/-- How a character behind `front` is painted: its piece goes on with `shown`, which is drawn behind
the character, and with `rest`, which is left out. -/
structure Painted (line : Text) (segments : List Segment) (window : Window) (tabWidth : Nat)
    (front : Text) (base : Char) (piece : Piece) (shown rest : Text) : Prop where
  start_le : piece.span.start ≤ front.size
  stop_eq : front.size + base.utf8Size + (shown ++ rest).size = piece.span.stop
  begins : shown ≠ [] → advance tabWidth (advanceAll tabWidth 0 front) base < window.right
  ends : rest ≠ [] → window.right ≤
    advanceAll tabWidth (advance tabWidth (advanceAll tabWidth 0 front) base) shown
  painted : ∃ earlier later : Text,
    segments.flatMap Segment.text = earlier ++
      (drawn window tabWidth (advanceAll tabWidth 0 front) base ++
        (drawnAll window tabWidth (advance tabWidth (advanceAll tabWidth 0 front) base) shown ++
          later)) ∧
    earlier.cellCount = window.cell (advanceAll tabWidth 0 front) ∧ later.BeginsWithCells

/-- The text of all segments, around that of one segment. -/
theorem exists_flatMap_text_eq {piece : Piece} {segment : Segment}
    (hmem : piece ∈ piecesFrom line 0 tokens)
    (hsegment : piece.segment? line ⟨left, addCapped left width⟩ tabWidth = some segment) :
    ∃ earlier later : Text,
      (visibleSegments line tokens left width tabWidth).flatMap Segment.text =
        earlier ++ (segment.text ++ later) ∧
      earlier.cellCount = segment.column ∧ later.BeginsWithCells := by
  obtain ⟨earlier, later, hpieces⟩ := List.append_of_mem hmem
  have hsegments := visibleSegments_eq line tokens left width tabWidth
  rw [hpieces, List.filterMap_append, List.filterMap_cons_some hsegment] at hsegments
  have htile := tile_visibleSegments line tokens left width tabWidth
  rw [hsegments] at htile ⊢
  refine ⟨_, _, by rw [List.flatMap_append, List.flatMap_cons], ?_,
    Piece.beginsWithCells_flatMap later⟩
  rw [htile.column_eq, Nat.zero_add]

/-- Every character in view is painted with what its piece shows behind it. -/
theorem exists_painted (hline : line = front ++ base :: back) (tokens : List Token)
    (hview : Window.cell ⟨left, addCapped left width⟩ (advanceAll tabWidth 0 front) <
      Window.cell ⟨left, addCapped left width⟩
        (advance tabWidth (advanceAll tabWidth 0 front) base)) :
    ∃ piece ∈ piecesFrom line 0 tokens, ∃ shown rest outside, back = shown ++ rest ++ outside ∧
      Painted line (visibleSegments line tokens left width tabWidth) ⟨left, addCapped left width⟩
        tabWidth front base piece shown rest := by
  obtain ⟨piece, hmem, hpiece, hstart, before, after, outside, hback, htext, hsize, hcolumn⟩ :=
    Piece.exists_mem_of_char hline tokens
  rw [← hcolumn] at hview
  obtain ⟨segment, hsegment⟩ := Piece.exists_segment?_of_char hpiece htext hview
  obtain ⟨hidden, body, rest, hbody, hexcerpt, -, hdrawn⟩ :=
    Piece.exists_excerpt_of_segment? hsegment
  obtain ⟨inner, shown, rfl, rfl, rfl⟩ := hexcerpt.exists_split (hbody.symm.trans htext) hview
  refine ⟨piece, hmem, shown, rest, outside, hback, ⟨hstart, hsize, ?_, ?_, ?_⟩⟩
  · intro hshown
    obtain ⟨c, shown, rfl⟩ := List.exists_cons_of_ne_nil hshown
    have hbegins := hexcerpt.begins (inner ++ [base]) c shown (by simp)
    rwa [← List.append_assoc, advanceAll_append, hcolumn] at hbegins
  · intro hrest
    have hends := hexcerpt.ends hrest
    rwa [← List.append_assoc, advanceAll_append, hcolumn] at hends
  · obtain ⟨earlier, later, hall, hcells, hlater⟩ := exists_flatMap_text_eq hmem hsegment
    have hinner := @cell_add_cellCount_drawnAll ⟨left, addCapped left width⟩ tabWidth
      (advanceAll tabWidth (line.visualColumn piece.span.start tabWidth) hidden) inner
    rw [← advanceAll_append, hcolumn, hexcerpt.hides] at hinner
    rw [hdrawn] at hall hcells
    refine ⟨earlier ++ drawnAll ⟨left, addCapped left width⟩ tabWidth
      (advanceAll tabWidth (line.visualColumn piece.span.start tabWidth) hidden) inner, later,
      ?_, ?_, hlater⟩
    · rw [hall, drawnAll_append, drawnAll, ← advanceAll_append, hcolumn]
      simp only [List.append_assoc]
    · rw [Text.cellCount_append, hcells, hinner]

namespace Painted

variable {segments : List Segment} {piece : Piece} {shown rest outside : Text}

/-- Marks are shown behind their character exactly if they begin what the piece draws there. -/
theorem shownAt_iff (h : Painted line segments window tabWidth front base piece shown rest)
    (hview : window.cell (advanceAll tabWidth 0 front) <
      window.cell (advance tabWidth (advanceAll tabWidth 0 front) base))
    (honly : marks.OnlyMarks) (hsame : shown ++ (rest ++ outside) = marks ++ back) :
    Segment.ShownAt segments (window.cell (advanceAll tabWidth 0 front))
        (drawn window tabWidth (advanceAll tabWidth 0 front) base ++ marks) ↔
      marks <+: shown := by
  obtain ⟨earlier, later, hall, hcells, hlater⟩ := h.painted
  obtain ⟨hbegins, hne⟩ := beginsWithCells_drawn hview
  rw [← honly.prefix_drawnAll_iff hlater hsame]
  constructor
  · rintro ⟨before, behind, hshown, hcount⟩
    rw [hall, List.append_assoc] at hshown
    -- the character is shown at its cell only once
    obtain ⟨-, hplace⟩ := Text.eq_of_cellCount_eq hshown (hcells.trans hcount.symm)
      (hbegins.append hne _) (hbegins.append hne _)
    exact ⟨behind, (List.append_cancel_left hplace).symm⟩
  · rintro ⟨behind, hbehind⟩
    refine ⟨earlier, behind, ?_, hcells⟩
    rw [hall, ← hbehind, List.append_assoc]

/-- The piece draws all marks exactly if the character ends before the right edge and the marks
stand in the piece too. -/
theorem prefix_iff (h : Painted line segments window tabWidth front base piece shown rest)
    (honly : marks.OnlyMarks) (hmarks : marks ≠ [])
    (hsame : shown ++ (rest ++ outside) = marks ++ back) :
    marks <+: shown ↔
      advance tabWidth (advanceAll tabWidth 0 front) base < window.right ∧
        (front ++ base :: marks).size ≤ piece.span.stop := by
  have hstop := h.stop_eq
  rw [Text.size_append] at hstop
  rw [Text.size_append, Text.size_cons]
  constructor
  · rintro ⟨w, rfl⟩
    refine ⟨h.begins fun hnil => hmarks (List.append_eq_nil_iff.1 hnil).1, ?_⟩
    rw [Text.size_append] at hstop
    omega
  · rintro ⟨hlt, hle⟩
    rcases List.append_eq_append_iff.1 hsame with ⟨w, rfl, -⟩ | ⟨w, rfl, -⟩
    · -- what the piece leaves out begins at the right edge or behind it, but marks do not
      have hshown : shown.OnlyMarks := fun c hc => honly c (List.mem_append_left w hc)
      have hrest : rest = [] := by
        refine Decidable.byContradiction fun hne => ?_
        have hends := h.ends hne
        rw [hshown.advanceAll_eq] at hends
        omega
      rw [Text.size_append] at hle
      rw [hrest, Text.size_nil] at hstop
      obtain rfl := Text.size_eq_zero_iff.1 (show Text.size w = 0 by omega)
      exact ⟨[], by simp⟩
    · exact List.prefix_append marks w

end Painted

/-- Marks are shown behind their character, if that is shown as a whole, exactly if it ends before
the right edge of the window and no token begins or ends between the bytes of the character and of
its marks. -/
theorem shownAt_marks_iff (hordered : Token.Ordered tokens line)
    (hmarked : Marked line ⟨left, addCapped left width⟩ tabWidth front base marks back)
    (hmarks : marks ≠ []) :
    Segment.ShownAt (visibleSegments line tokens left width tabWidth)
        (advanceAll tabWidth 0 front - left)
        (drawn ⟨left, addCapped left width⟩ tabWidth (advanceAll tabWidth 0 front) base ++ marks) ↔
      advance tabWidth (advanceAll tabWidth 0 front) base < addCapped left width ∧
        ∀ token ∈ tokens, ∀ n, front.size ≤ n → n < (front ++ base :: marks).size →
          (token.span.Holds n ↔ token.span.Holds front.size) := by
  have hline := hmarked.line_eq
  have honly := hmarked.onlyMarks
  have hleft : left ≤ advanceAll tabWidth 0 front := hmarked.left_le
  have hright : advance tabWidth (advanceAll tabWidth 0 front) base ≤ addCapped left width :=
    hmarked.le_right
  have hadvance :
      advanceAll tabWidth 0 front < advance tabWidth (advanceAll tabWidth 0 front) base :=
    lt_advance_iff.2 hmarked.takesCells
  have hcell : Window.cell ⟨left, addCapped left width⟩ (advanceAll tabWidth 0 front) =
      advanceAll tabWidth 0 front - left := by
    show min (advanceAll tabWidth 0 front) (addCapped left width) - left = _
    omega
  have hview : Window.cell ⟨left, addCapped left width⟩ (advanceAll tabWidth 0 front) <
      Window.cell ⟨left, addCapped left width⟩
        (advance tabWidth (advanceAll tabWidth 0 front) base) := by
    rw [hcell]
    show advanceAll tabWidth 0 front - left <
      min (advance tabWidth (advanceAll tabWidth 0 front) base) (addCapped left width) - left
    omega
  obtain ⟨piece, hmem, shown, rest, outside, hback, hpainted⟩ := exists_painted hline tokens hview
  have hsame : shown ++ (rest ++ outside) = marks ++ back := by
    rw [hback, List.append_assoc]
  have hinside : piece.span.Holds front.size := by
    refine ⟨hpainted.start_le, ?_⟩
    have hsize := Char.utf8Size_pos base
    have hstop := hpainted.stop_eq
    omega
  have hend : (front ++ base :: marks).size ≤ line.size := by
    rw [hline]
    simp only [Text.size_append, Text.size_cons]
    omega
  rw [← hcell, hpainted.shownAt_iff hview honly hsame, hpainted.prefix_iff honly hmarks hsame,
    hordered.le_stop_iff hmem hinside hend]

/-- A token that holds both a letter and its accent leaves them together. -/
theorem shownAt_marks_iff_accent :
    Token.Ordered [⟨.keyword, ⟨1, 4⟩, .go⟩] ['x', 'e', '\u0301'] ∧
    Marked ['x', 'e', '\u0301'] ⟨0, addCapped 0 80⟩ 4 ['x'] 'e' ['\u0301'] [] ∧
    Segment.ShownAt (visibleSegments ['x', 'e', '\u0301'] [⟨.keyword, ⟨1, 4⟩, .go⟩] 0 80 4) 1
      ['e', '\u0301'] := by
  have hordered : Token.Ordered [⟨.keyword, ⟨1, 4⟩, .go⟩] ['x', 'e', '\u0301'] :=
    .singleton ⟨by decide, by decide, by decide⟩
  have hmarked : Marked ['x', 'e', '\u0301'] ⟨0, addCapped 0 80⟩ 4 ['x'] 'e' ['\u0301'] [] :=
    ⟨rfl, by decide, .singleton (by decide), by decide, by decide⟩
  refine ⟨hordered, hmarked, (shownAt_marks_iff hordered hmarked (by simp)).2 ⟨by decide, ?_⟩⟩
  intro token hmem n hle hlt
  obtain rfl := List.mem_singleton.1 hmem
  have hle : 1 ≤ n := hle
  have hlt : n < 4 := hlt
  show 1 ≤ n ∧ n < 4 ↔ 1 ≤ 1 ∧ 1 < 4
  omega

/-! ## Marks that are lost -/

/-- Every character in view as a whole is shown with the marks that follow it. -/
def KeepsMarks (line : Text) (tokens : List Token) (left width tabWidth : Nat) : Prop :=
  ∀ front base marks back,
    Marked line ⟨left, addCapped left width⟩ tabWidth front base marks back →
    Segment.ShownAt (visibleSegments line tokens left width tabWidth)
      (advanceAll tabWidth 0 front - left)
      (drawn ⟨left, addCapped left width⟩ tabWidth (advanceAll tabWidth 0 front) base ++ marks)

/-- Marks are not kept if one of them is nowhere on the screen. -/
theorem not_keepsMarks_of_not_mem {mark : Char}
    (hmarked : Marked line ⟨left, addCapped left width⟩ tabWidth front base marks back)
    (hmem : mark ∈ marks)
    (hlost : mark ∉ (visibleSegments line tokens left width tabWidth).flatMap Segment.text) :
    ¬ KeepsMarks line tokens left width tabWidth := by
  intro hkeeps
  obtain ⟨before, behind, hshown, -⟩ := hkeeps front base marks back hmarked
  refine hlost ?_
  rw [hshown]
  simp [hmem]

/-- An accent is lost on the last character of a window, and where a token ends between it and its
letter. -/
theorem not_keepsMarks :
    Token.Ordered [] ['e', '\u0301', 'x'] ∧ ¬ KeepsMarks ['e', '\u0301', 'x'] [] 0 1 4 ∧
    Token.Ordered [⟨.keyword, ⟨1, 2⟩, .go⟩] ['x', 'e', '\u0301'] ∧
    ¬ KeepsMarks ['x', 'e', '\u0301'] [⟨.keyword, ⟨1, 2⟩, .go⟩] 0 80 4 := by
  have hedge : Marked ['e', '\u0301', 'x'] ⟨0, addCapped 0 1⟩ 4 [] 'e' ['\u0301'] ['x'] :=
    ⟨rfl, by decide, .singleton (by decide), by decide, by decide⟩
  have htoken : Marked ['x', 'e', '\u0301'] ⟨0, addCapped 0 80⟩ 4 ['x'] 'e' ['\u0301'] [] :=
    ⟨rfl, by decide, .singleton (by decide), by decide, by decide⟩
  refine ⟨.nil _, not_keepsMarks_of_not_mem hedge (List.mem_singleton_self _) (by decide),
    .singleton ⟨by decide, by decide, by decide⟩,
    not_keepsMarks_of_not_mem htoken (List.mem_singleton_self _) (by decide)⟩

end TextEditor
