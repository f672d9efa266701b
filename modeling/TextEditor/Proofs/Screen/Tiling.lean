import TextEditor.Proofs.Guarded.Segments
import TextEditor.Proofs.Screen.Painting

/-!
# Segments tile a window

The segments of a line follow one another from the first cell of the window to the last cell that
the line reaches, without gap or overlap, whatever the tokens are: each piece of the line has the
cells between the column where it begins and the column where it ends, held at the edges of the
window. A cell shows the character of the line that is there, or a space for a tab and for a
character that is cut. If the tokens are in order, the segment of a cell has the token of the bytes
shown there.

Main statements: `Piece.of_segment?`, `Piece.Cover.tile` and `visibleSegments_paints`.
-/

namespace TextEditor

variable {line : Text} {tokens : List Token} {window : Window} {tabWidth n : Nat}

/-! ## Tilings -/

namespace Segment

/-- Segments follow one another from cell `n` up to `stop`, and each has a cell at least. -/
def Tile : Nat → List Segment → Nat → Prop
  | n, [], stop => n = stop
  | n, segment :: segments, stop =>
      segment.column = n ∧ n < segment.stop ∧ Tile segment.stop segments stop

variable {segments : List Segment} {stop : Nat}

/-- Tiles end no earlier than they begin. -/
theorem Tile.le (h : Tile n segments stop) : n ≤ stop := by
  induction segments generalizing n with
  | nil => exact Nat.le_of_eq h
  | cons segment segments ih => exact Nat.le_trans (Nat.le_of_lt h.2.1) (ih h.2.2)

/-- Where there are no cells there are no segments. -/
theorem Tile.eq_nil (h : Tile n segments stop) (hle : stop ≤ n) : segments = [] := by
  cases segments with
  | nil => rfl
  | cons segment segments =>
      obtain ⟨-, hlt, hrest⟩ := h
      have hstop := hrest.le
      omega

/-- In a tiling a segment begins behind the cells of the segments before it. -/
theorem Tile.column_eq {segment : Segment} {earlier later : List Segment}
    (h : Tile n (earlier ++ segment :: later) stop) :
    segment.column = n + Text.cellCount (earlier.flatMap Segment.text) := by
  induction earlier generalizing n with
  | nil => exact h.1
  | cons first earlier ih =>
      obtain ⟨rfl, -, hrest⟩ := h
      rw [ih hrest, List.flatMap_cons, Text.cellCount_append, Segment.stop, Nat.add_assoc]

end Segment

/-! ## The segment of a piece -/

namespace Piece

variable {piece : Piece} {segment : Segment}

/-- What a segment draws of its piece. -/
theorem exists_excerpt_of_segment? (h : piece.segment? line window tabWidth = some segment) :
    ∃ hidden body rest, piece.text line = hidden ++ (body ++ rest) ∧
      Excerpt window tabWidth (line.visualColumn piece.span.start tabWidth) hidden body rest ∧
      body ≠ [] ∧
      segment = ⟨window.cell (line.visualColumn piece.span.start tabWidth),
        drawnAll window tabWidth
          (advanceAll tabWidth (line.visualColumn piece.span.start tabWidth) hidden) body,
        piece.token⟩ := by
  obtain ⟨hidden, body, rest, htext, hexcerpt, hsegment⟩ :=
    piece.segment?_cases line window tabWidth
  rw [hsegment] at h
  split at h
  · cases h
  · next hbody => exact ⟨hidden, body, rest, htext, hexcerpt, hbody, (Option.some.inj h).symm⟩

/-- A piece without a segment has no cell in view. -/
theorem cell_stop_of_segment?_eq_none (hpiece : piece.span.Piece line)
    (h : piece.segment? line window tabWidth = none) :
    window.cell (line.visualColumn piece.span.stop tabWidth) =
      window.cell (line.visualColumn piece.span.start tabWidth) := by
  obtain ⟨hidden, body, rest, htext, hexcerpt, hsegment⟩ :=
    piece.segment?_cases line window tabWidth
  rw [hsegment] at h
  split at h
  · next hbody =>
      have hcell := hexcerpt.cell_advanceAll
      rw [← htext, advanceAll_text hpiece, hbody, List.append_nil, hexcerpt.hides] at hcell
      exact hcell
  · cases h

/-- The segment of a piece stands in the cells between the two ends of the piece, one cell or more,
and shows what is in view of the piece. -/
theorem of_segment? (hpiece : piece.span.Piece line)
    (h : piece.segment? line window tabWidth = some segment) :
    segment.column = window.cell (line.visualColumn piece.span.start tabWidth) ∧
      segment.stop = window.cell (line.visualColumn piece.span.stop tabWidth) ∧
      segment.column < segment.stop ∧
      segment.cells = cellsInView window tabWidth (line.visualColumn piece.span.start tabWidth)
        (piece.text line) := by
  obtain ⟨hidden, body, rest, htext, hexcerpt, hbody, rfl⟩ := exists_excerpt_of_segment? h
  have hcells := hexcerpt.cell_advanceAll
  rw [← htext, advanceAll_text hpiece] at hcells
  have hstop : Segment.stop ⟨window.cell (line.visualColumn piece.span.start tabWidth),
      drawnAll window tabWidth
        (advanceAll tabWidth (line.visualColumn piece.span.start tabWidth) hidden) body,
      piece.token⟩ = window.cell (line.visualColumn piece.span.stop tabWidth) := by
    rw [Segment.stop, ← hexcerpt.hides, cell_add_cellCount_drawnAll, hcells, advanceAll_append]
  refine ⟨rfl, hstop, ?_, ?_⟩
  · rw [hstop, hcells]
    exact hexcerpt.cell_lt_cell hbody
  · rw [Segment.cells, ← hexcerpt.hides, cellsFrom_drawnAll, htext, hexcerpt.cellsInView_eq]

/-- The segments of pieces up to the end of a line tile the cells from the first piece on. -/
theorem Cover.tile {pieces : List Piece} (h : Cover line n pieces) :
    Segment.Tile (window.cell (line.visualColumn n tabWidth))
      (pieces.filterMap (segment? line window tabWidth))
      (window.cell (line.lineWidth tabWidth)) := by
  induction pieces generalizing n with
  | nil =>
      obtain rfl : n = line.size := h
      rw [Text.visualColumn_size]
      rfl
  | cons piece pieces ih =>
      obtain ⟨rfl, hpiece, hrest⟩ := h
      have htail := ih hrest
      cases hsegment : piece.segment? line window tabWidth with
      | none =>
          rw [List.filterMap_cons_none hsegment, ← cell_stop_of_segment?_eq_none hpiece hsegment]
          exact htail
      | some segment =>
          obtain ⟨hcolumn, hstop, hlt, -⟩ := of_segment? hpiece hsegment
          rw [List.filterMap_cons_some hsegment]
          refine ⟨hcolumn, ?_, ?_⟩
          · rw [← hcolumn]
            exact hlt
          · rw [hstop]
            exact htail

/-- A piece has a segment if one of its characters is in view. -/
theorem exists_segment?_of_char {before after : Text} {c : Char} (hpiece : piece.span.Piece line)
    (htext : piece.text line = before ++ c :: after)
    (h : window.cell (advanceAll tabWidth (line.visualColumn piece.span.start tabWidth) before) <
      window.cell (advance tabWidth
        (advanceAll tabWidth (line.visualColumn piece.span.start tabWidth) before) c)) :
    ∃ segment, piece.segment? line window tabWidth = some segment := by
  cases hsegment : piece.segment? line window tabWidth with
  | none =>
      have hsame := cell_stop_of_segment?_eq_none hpiece hsegment
      rw [← advanceAll_text hpiece, htext, advanceAll_append, advanceAll_cons] at hsame
      have hbefore := Window.cell_le_cell (@le_advanceAll tabWidth
        (line.visualColumn piece.span.start tabWidth) before) window
      have hbehind := Window.cell_le_cell (@le_advanceAll tabWidth (advance tabWidth
        (advanceAll tabWidth (line.visualColumn piece.span.start tabWidth) before) c) after) window
      omega
  | some segment => exact ⟨segment, rfl⟩

/-- The text of a piece, with what stands before it and behind it in the line. -/
theorem exists_cut (hpiece : piece.span.Piece line) :
    ∃ outer later, line = outer ++ (piece.text line ++ later) ∧ outer.size = piece.span.start ∧
      outer.size + (piece.text line).size = piece.span.stop ∧
      ∀ tabWidth, line.visualColumn piece.span.start tabWidth = advanceAll tabWidth 0 outer := by
  obtain ⟨outer, inner, later, hline, hstart, hstop⟩ := Text.exists_pieces hpiece.start_le_stop
    hpiece.start_boundary hpiece.stop_boundary
  have htext : piece.text line = inner := by
    rw [text, hline, ← hstart, ← hstop, Text.between_append_append]
  refine ⟨outer, later, by rw [htext, hline], hstart, by rw [htext, hstop], fun tabWidth => ?_⟩
  rw [hline, ← hstart, Text.visualColumn_append_size]

/-- A character of a line stands in one of the pieces, with characters of the piece before it and
behind it. -/
theorem exists_mem_of_char {front back : Text} {c : Char} (hline : line = front ++ c :: back)
    (tokens : List Token) :
    ∃ piece ∈ piecesFrom line 0 tokens, piece.span.Piece line ∧ piece.span.start ≤ front.size ∧
      ∃ before after later, back = after ++ later ∧ piece.text line = before ++ c :: after ∧
        front.size + c.utf8Size + after.size = piece.span.stop ∧
        ∀ tabWidth, advanceAll tabWidth (line.visualColumn piece.span.start tabWidth) before =
          advanceAll tabWidth 0 front := by
  have hinside : front.size < line.size := by
    have hsize := Char.utf8Size_pos c
    rw [hline, Text.size_append, Text.size_cons]
    omega
  have hcover := cover_piecesFrom (Text.isBoundary_zero line) tokens
  obtain ⟨piece, hmem, hstart, hstop⟩ := hcover.exists_mem (Nat.zero_le _) hinside
  have hpiece := (hcover.of_mem hmem).1
  obtain ⟨outer, later, hcut, houter, hsize, hcolumn⟩ := exists_cut hpiece
  obtain ⟨before, rfl, hbehind⟩ : ∃ before, front = outer ++ before ∧
      piece.text line ++ later = before ++ c :: back :=
    Text.exists_of_append_eq_append (hcut.symm.trans hline) (by omega)
  rcases Text.append_eq_append_cons hbehind with ⟨after, htext, hback⟩ | ⟨w, hbefore, -⟩
  · refine ⟨piece, hmem, hpiece, hstart, before, after, later, hback, htext, ?_, fun tabWidth => ?_⟩
    · rw [htext, Text.size_append, Text.size_cons] at hsize
      rw [Text.size_append]
      omega
    · rw [hcolumn, advanceAll_append]
  · -- the character would stand behind the piece
    rw [hbefore, Text.size_append, Text.size_append] at hstop
    omega

end Piece

/-! ## The segments of a line -/

section Visible

variable {left width : Nat} {segment : Segment}

/-- The segments of a line tile the cells of the window that the line reaches. -/
theorem tile_visibleSegments (line : Text) (tokens : List Token) (left width tabWidth : Nat) :
    Segment.Tile 0 (visibleSegments line tokens left width tabWidth)
      (min (addCapped left width) (line.lineWidth tabWidth) - left) := by
  have hfirst : Window.cell ⟨left, addCapped left width⟩ (line.visualColumn 0 tabWidth) = 0 := by
    rw [Text.visualColumn, Text.before_zero]
    show min 0 (addCapped left width) - left = 0
    omega
  have hlast : Window.cell ⟨left, addCapped left width⟩ (line.lineWidth tabWidth) =
      min (addCapped left width) (line.lineWidth tabWidth) - left := by
    rw [Window.cell, Nat.min_comm]
  have htile : Segment.Tile
      (Window.cell ⟨left, addCapped left width⟩ (line.visualColumn 0 tabWidth))
      (visibleSegments line tokens left width tabWidth)
      (Window.cell ⟨left, addCapped left width⟩ (line.lineWidth tabWidth)) := by
    rw [visibleSegments_eq]
    exact (cover_piecesFrom (Text.isBoundary_zero line) tokens).tile
  rwa [hfirst, hlast] at htile

/-- The segments that are shown are those that the pieces of the line come to. -/
theorem mem_visibleSegments :
    segment ∈ visibleSegments line tokens left width tabWidth ↔
      ∃ piece ∈ piecesFrom line 0 tokens,
        piece.segment? line ⟨left, addCapped left width⟩ tabWidth = some segment := by
  rw [visibleSegments_eq, List.mem_filterMap]

/-- A segment draws characters of the line that follow one another, the first of them in the cell
where the segment begins, and has their token. -/
theorem exists_body_of_mem (h : segment ∈ visibleSegments line tokens left width tabWidth) :
    ∃ front body back, line = front ++ (body ++ back) ∧ body ≠ [] ∧
      segment.column =
        Window.cell ⟨left, addCapped left width⟩ (advanceAll tabWidth 0 front) ∧
      segment.text = drawnAll ⟨left, addCapped left width⟩ tabWidth
        (advanceAll tabWidth 0 front) body ∧
      (Token.Ordered tokens line →
        Span.HasToken ⟨front.size, front.size + body.size⟩ tokens segment.token) := by
  obtain ⟨piece, hmem, hsegment⟩ := mem_visibleSegments.1 h
  have hpiece := ((cover_piecesFrom (Text.isBoundary_zero line) tokens).of_mem hmem).1
  obtain ⟨hidden, body, rest, htext, hexcerpt, hbody, rfl⟩ :=
    Piece.exists_excerpt_of_segment? hsegment
  obtain ⟨outer, later, hline, houter, hsize, hcolumn⟩ := Piece.exists_cut hpiece
  rw [htext] at hline hsize
  refine ⟨outer ++ hidden, body, rest ++ later, by simpa using hline, hbody, ?_, ?_,
    fun hordered => ?_⟩
  · rw [advanceAll_append, ← hcolumn, hexcerpt.hides]
  · rw [advanceAll_append, ← hcolumn]
  · simp only [Text.size_append] at hsize ⊢
    refine hordered.hasToken hmem ?_ ?_
    · show piece.span.start ≤ outer.size + hidden.size
      omega
    · show outer.size + hidden.size + body.size ≤ piece.span.stop
      omega

/-- Each cell of a character in view is a cell of a segment, which has the token of the
character. -/
theorem exists_segment_of_cell {front back : Text} {c : Char} {cell : Nat}
    (hline : line = front ++ c :: back)
    (hle : Window.cell ⟨left, addCapped left width⟩ (advanceAll tabWidth 0 front) ≤ cell)
    (hlt : cell < Window.cell ⟨left, addCapped left width⟩
      (advance tabWidth (advanceAll tabWidth 0 front) c)) :
    ∃ segment ∈ visibleSegments line tokens left width tabWidth,
      (cell, if Window.Keeps ⟨left, addCapped left width⟩ tabWidth (advanceAll tabWidth 0 front) c
        then c else ' ') ∈ segment.cells ∧
      (Token.Ordered tokens line →
        Span.HasToken ⟨front.size, front.size + c.utf8Size⟩ tokens segment.token) := by
  obtain ⟨piece, hmem, hpiece, hstart, before, after, later, -, htext, hsize, hcolumn⟩ :=
    Piece.exists_mem_of_char hline tokens
  rw [← hcolumn] at hle hlt ⊢
  obtain ⟨segment, hsegment⟩ :=
    Piece.exists_segment?_of_char hpiece htext (Nat.lt_of_le_of_lt hle hlt)
  refine ⟨segment, mem_visibleSegments.2 ⟨piece, hmem, hsegment⟩, ?_, fun hordered => ?_⟩
  · rw [(Piece.of_segment? hpiece hsegment).2.2.2, htext]
    exact mem_cellsInView hle hlt
  · obtain ⟨-, -, -, -, -, -, rfl⟩ := Piece.exists_excerpt_of_segment? hsegment
    refine hordered.hasToken hmem hstart ?_
    show front.size + c.utf8Size ≤ piece.span.stop
    omega

/-- The segments that a line shows in a window paint it. Columns are taken of the line as a whole,
and the window ends `width` columns behind its start. -/
structure PaintsWindow (line : Text) (tokens : List Token) (left width tabWidth : Nat) : Prop where
  /-- No cut of the line goes wrong and no sum is over the largest offset, whatever the tokens
  are. -/
  painted : Guarded.visibleSegments (some maxOffset) line tokens left width tabWidth =
    some (visibleSegments line tokens left width tabWidth)
  /-- The segments tile the cells up to the right edge of the window or the end of the line. -/
  tiles : Segment.Tile 0 (visibleSegments line tokens left width tabWidth)
    (min (left + width) (line.lineWidth tabWidth) - left)
  empty : min (left + width) (line.lineWidth tabWidth) ≤ left →
    visibleSegments line tokens left width tabWidth = []
  /-- Each cell of a character shows the character, or a space if it is a tab or cut by an edge; and
  if the tokens are in order, its segment has the token that holds the character, and none exactly
  if no token does. -/
  shows : ∀ front c back, line = front ++ c :: back → ∀ column,
    left ≤ column → column < left + width →
    advanceAll tabWidth 0 front ≤ column →
    column < advance tabWidth (advanceAll tabWidth 0 front) c →
    ∃ segment ∈ visibleSegments line tokens left width tabWidth,
      (column - left,
        if c ≠ '\t' ∧ left ≤ advanceAll tabWidth 0 front ∧
          advance tabWidth (advanceAll tabWidth 0 front) c ≤ left + width
        then c else ' ') ∈ segment.cells ∧
      (Token.Ordered tokens line →
        Span.HasToken ⟨front.size, front.size + c.utf8Size⟩ tokens segment.token)
  no_tab : ∀ segment ∈ visibleSegments line tokens left width tabWidth, '\t' ∉ segment.text
  /-- So each segment has the token of all characters that it draws. -/
  draws : ∀ segment ∈ visibleSegments line tokens left width tabWidth,
    ∃ front body back, line = front ++ (body ++ back) ∧ body ≠ [] ∧
      segment.column = Window.cell ⟨left, left + width⟩ (advanceAll tabWidth 0 front) ∧
      segment.text = drawnAll ⟨left, left + width⟩ tabWidth (advanceAll tabWidth 0 front) body ∧
      (Token.Ordered tokens line →
        Span.HasToken ⟨front.size, front.size + body.size⟩ tokens segment.token)

/-- A part of a line ends no further than the line. -/
theorem advanceAll_le_lineWidth {line front body back : Text}
    (hline : line = front ++ (body ++ back)) :
    advanceAll tabWidth (advanceAll tabWidth 0 front) body ≤ line.lineWidth tabWidth := by
  rw [hline, Text.lineWidth, advanceAll_append, advanceAll_append]
  exact le_advanceAll back

section Fitting

variable {line : Text} (hfits : Guarded.FitsTo (some maxOffset) tabWidth (left + width) 0 line)

include hfits

/-- A window that ends over the largest offset ends at it; but then a line that fits ends before. -/
theorem addCapped_eq_or :
    addCapped left width = left + width ∨
      addCapped left width = maxOffset ∧ maxOffset < left + width ∧
        line.lineWidth tabWidth ≤ maxOffset := by
  rcases Nat.lt_or_ge maxOffset (left + width) with hlt | hle
  · have hline := (hfits.fits hlt (Nat.zero_le _)).within (Guarded.within_zero _)
    exact .inr ⟨Nat.min_eq_right (Nat.le_of_lt hlt), hlt, Guarded.within_some.1 hline⟩
  · exact .inl (Nat.min_eq_left hle)

/-- To the columns of a line that fits the end of the window is `width` columns behind its start. -/
theorem le_addCapped_iff (hcolumn : column ≤ line.lineWidth tabWidth) :
    column ≤ addCapped left width ↔ column ≤ left + width := by
  rcases addCapped_eq_or hfits with heq | ⟨heq, hover, hline⟩
  · rw [heq]
  · omega

/-- Up to the end of a line that fits, nothing is cut off a window by the largest offset. -/
theorem min_addCapped : min (addCapped left width) (line.lineWidth tabWidth) =
    min (left + width) (line.lineWidth tabWidth) := by
  rcases addCapped_eq_or hfits with heq | ⟨heq, hover, hline⟩
  · rw [heq]
  · omega

/-- The columns of a line that fits are shown in the cells that they have if the window ends `width`
columns behind its start. -/
theorem cell_addCapped (hcolumn : column ≤ line.lineWidth tabWidth) :
    Window.cell ⟨left, addCapped left width⟩ column = Window.cell ⟨left, left + width⟩ column := by
  rcases addCapped_eq_or hfits with heq | ⟨heq, hover, hline⟩
  · rw [heq]
  · show min column (addCapped left width) - left = min column (left + width) - left
    omega

/-- What is drawn of a line that fits is what is drawn if the window ends `width` columns behind its
start. -/
theorem drawnAll_addCapped {t : Text}
    (ht : advanceAll tabWidth column t ≤ line.lineWidth tabWidth) :
    drawnAll ⟨left, addCapped left width⟩ tabWidth column t =
      drawnAll ⟨left, left + width⟩ tabWidth column t := by
  rcases addCapped_eq_or hfits with heq | ⟨heq, hover, hline⟩
  · rw [heq]
  · exact drawnAll_of_le (by omega) (by omega)

/-- Each column of a character in view is shown by a segment, with the character if that is in view
as a whole and no tab. -/
theorem exists_segment_of_column {tokens : List Token} {front back : Text} {c : Char}
    (hline : line = front ++ c :: back) (hleft : left ≤ column) (hright : column < left + width)
    (hstart : advanceAll tabWidth 0 front ≤ column)
    (hstop : column < advance tabWidth (advanceAll tabWidth 0 front) c) :
    ∃ segment ∈ visibleSegments line tokens left width tabWidth,
      (column - left,
        if c ≠ '\t' ∧ left ≤ advanceAll tabWidth 0 front ∧
          advance tabWidth (advanceAll tabWidth 0 front) c ≤ left + width
        then c else ' ') ∈ segment.cells ∧
      (Token.Ordered tokens line →
        Span.HasToken ⟨front.size, front.size + c.utf8Size⟩ tokens segment.token) := by
  have hline' : line = front ++ ([c] ++ back) := hline
  have hend : advance tabWidth (advanceAll tabWidth 0 front) c ≤ line.lineWidth tabWidth :=
    advanceAll_le_lineWidth hline'
  have hcapped : column < addCapped left width :=
    (le_addCapped_iff hfits (Nat.le_trans hstop hend)).2 hright
  simp only [← le_addCapped_iff hfits hend]
  refine exists_segment_of_cell hline ?_ ?_
  · show min (advanceAll tabWidth 0 front) (addCapped left width) - left ≤ column - left
    omega
  · show column - left < min (advance tabWidth (advanceAll tabWidth 0 front) c)
      (addCapped left width) - left
    omega

/-- Segments paint the window if no sum for a character that begins before its end is over the
largest offset, and no text is longer than a text can be. -/
theorem visibleSegments_paints {tokens : List Token}
    (hroom : ∀ segment ∈ visibleSegments line tokens left width tabWidth,
      segment.text.size ≤ maxOffset / 2) :
    PaintsWindow line tokens left width tabWidth := by
  have htile := tile_visibleSegments line tokens left width tabWidth
  rw [min_addCapped hfits] at htile
  refine ⟨?_, htile, fun hempty => htile.eq_nil (by omega), ?_, ?_, ?_⟩
  · refine Guarded.visibleSegments_of_fitsTo (hfits.mono (Nat.min_le_left _ _)) ?_
    exact fun segment hsegment => Guarded.within_some.2 (hroom segment hsegment)
  · exact fun _ _ _ hline _ hleft hright hstart hstop =>
      exists_segment_of_column hfits hline hleft hright hstart hstop
  · intro segment hsegment
    obtain ⟨front, body, back, -, -, -, htext, -⟩ := exists_body_of_mem hsegment
    rw [htext]
    exact not_mem_drawnAll body
  · intro segment hsegment
    obtain ⟨front, body, back, hline, hbody, hcolumn, htext, htoken⟩ := exists_body_of_mem hsegment
    have hend : advanceAll tabWidth (advanceAll tabWidth 0 front) body ≤
        line.lineWidth tabWidth := advanceAll_le_lineWidth hline
    have hstart := Nat.le_trans (le_advanceAll body) hend
    exact ⟨front, body, back, hline, hbody, hcolumn.trans (cell_addCapped hfits hstart),
      htext.trans (drawnAll_addCapped hfits hend), htoken⟩

end Fitting

/-- A window over the second half of a tab and the first half of a wide character with a token. -/
theorem visibleSegments_paints_halves :
    let line : Text := "a\t日b".toList
    let token : Token := ⟨.string, ⟨2, 5⟩, .plainText⟩
    Guarded.FitsTo (some maxOffset) 4 (2 + 3) 0 line ∧
      visibleSegments line [token] 2 3 4 =
        [⟨0, [' ', ' '], none⟩, ⟨2, [' '], some token⟩] ∧
      (∀ segment ∈ visibleSegments line [token] 2 3 4, segment.text.size ≤ maxOffset / 2) ∧
      PaintsWindow line [token] 2 3 4 := by
  intro line token
  have hfits : Guarded.FitsTo (some maxOffset) 4 (2 + 3) 0 line := by decide +kernel
  have hsegments : visibleSegments line [token] 2 3 4 =
      [⟨0, [' ', ' '], none⟩, ⟨2, [' '], some token⟩] := by
    decide +kernel
  have hroom : ∀ segment ∈ visibleSegments line [token] 2 3 4,
      segment.text.size ≤ maxOffset / 2 := by
    rw [hsegments]
    decide
  exact ⟨hfits, hsegments, hroom, visibleSegments_paints hfits hroom⟩

/-- A window of one column from the largest offset on ends there and shows nothing, though the
second of two tabs as wide as that reaches into it; and where a tab of that width follows on a
letter, the sum for it is over the largest offset. -/
theorem not_paintsWindow_largest_tab_width :
    let line : Text := "\t\t".toList
    Guarded.visibleSegments (some maxOffset) line [] maxOffset 1 maxOffset = some [] ∧
      min (maxOffset + 1) (line.lineWidth maxOffset) - maxOffset = 1 ∧
      ¬ PaintsWindow line [] maxOffset 1 maxOffset ∧
      Guarded.visibleSegments (some maxOffset) "a\t".toList [] 0 2 maxOffset = none := by
  intro line
  have hcell : min (maxOffset + 1) (line.lineWidth maxOffset) - maxOffset = 1 := by decide +kernel
  have hnothing : visibleSegments line [] maxOffset 1 maxOffset = [] := by decide +kernel
  refine ⟨by decide +kernel, hcell, fun h => ?_, by decide +kernel⟩
  have htiles := h.tiles
  rw [hnothing, hcell] at htiles
  exact Nat.zero_ne_one htiles

end Visible

end TextEditor
