import TextEditor.Proofs.Screen.Cells
import TextEditor.Proofs.Screen.Pieces

/-!
# Painting a line piece by piece

A piece of a line is painted from its first character in view to the one that reaches the right
edge: its `Excerpt`. What has been painted is carried along from character to character, and the
column from piece to piece, where it stops short once it has reached the right edge; a piece painted
by itself, from the column where it begins, gives the same segment.

Main statements: `exists_excerpt` for a text, `Piece.segment?_cases` for a piece and
`visibleSegments_eq` for a line.
-/

namespace TextEditor

variable {window : Window} {tabWidth column : Nat}

/-! ## One text -/

/-- Of a text that begins at `column`, `body` is what is drawn: nothing of `hidden` before it is in
view, its first character is, all its characters begin before the right edge, and what is left
behind it begins there or later. -/
structure Excerpt (window : Window) (tabWidth column : Nat) (hidden body rest : Text) : Prop where
  hides : window.cell (advanceAll tabWidth column hidden) = window.cell column
  shows : ∀ c ∈ body.head?, window.cell (advanceAll tabWidth column hidden) <
    window.cell (advance tabWidth (advanceAll tabWidth column hidden) c)
  begins : ∀ front c back, body = front ++ c :: back →
    advanceAll tabWidth column (hidden ++ front) < window.right
  ends : rest ≠ [] → window.right ≤ advanceAll tabWidth column (hidden ++ body)

/-- The text painted from `column`, with nothing in view before it. -/
def Painting.blank (column : Nat) : Painting := ⟨column, none, []⟩

/-- The segment that a painting gives, if something is in view. -/
def Painting.segment? (painting : Painting) (token : Option Token) : Option Segment :=
  painting.column.map fun shown => ⟨shown, painting.text, token⟩

/-- The painting of an excerpt. -/
def Painting.ofExcerpt (window : Window) (tabWidth column : Nat) (hidden body : Text) :
    Painting where
  reached := advanceAll tabWidth column (hidden ++ body)
  column := if body = [] then none else some (window.cell (advanceAll tabWidth column hidden))
  text := drawnAll window tabWidth (advanceAll tabWidth column hidden) body

namespace Painting

/-- A painting reaches the column behind the character that has been added. -/
theorem reached_add (painting : Painting) (c : Char) :
    (painting.add window tabWidth c).reached = advance tabWidth painting.reached c := by
  unfold add
  simp only
  split
  · rfl
  · split <;> rfl

/-- What is in view of a character, written with the edges of the window. -/
theorem cell_lt_cell_iff {next : Nat} :
    window.cell column < window.cell next ↔ max column window.left < min next window.right := by
  unfold Window.cell
  omega

/-- The text added for a character in view is the text that shows it. -/
theorem drawn_of_cell_lt {c : Char}
    (h : window.cell column < window.cell (advance tabWidth column c)) :
    drawn window tabWidth column c =
      if c = '\t' ∨ min (advance tabWidth column c) window.right - max column window.left <
          advance tabWidth column c - column then
        List.replicate (min (advance tabWidth column c) window.right - max column window.left) ' '
      else [c] := by
  have hview := cell_lt_cell_iff.1 h
  have hne : advance tabWidth column c ≠ column := fun heq => by
    rw [heq] at h
    exact Nat.lt_irrefl _ h
  have hcount : window.cell (advance tabWidth column c) - window.cell column =
      min (advance tabWidth column c) window.right - max column window.left := by
    unfold Window.cell
    omega
  have hkeeps : window.Keeps tabWidth column c ↔
      ¬ (c = '\t' ∨ min (advance tabWidth column c) window.right - max column window.left <
        advance tabWidth column c - column) := by
    unfold Window.Keeps
    rw [not_or, and_congr_right_iff]
    intro _
    omega
  unfold drawn
  rw [hcount]
  by_cases hkept : window.Keeps tabWidth column c
  · rw [if_pos (.inr hkept), if_neg (hkeeps.1 hkept)]
  · rw [if_neg (by simp [hne, hkept]), if_pos (Decidable.not_not.1 (mt hkeeps.2 hkept))]

/-- A character of which nothing is in view leaves no text, unless it takes no cells. -/
theorem drawn_of_cell_eq {c : Char}
    (h : window.cell (advance tabWidth column c) = window.cell column) :
    drawn window tabWidth column c = if advance tabWidth column c = column then [c] else [] := by
  unfold drawn
  by_cases hself : advance tabWidth column c = column
  · simp [hself]
  · have hle := le_advance tabWidth column c
    have hkeeps : ¬ window.Keeps tabWidth column c := by
      rintro ⟨-, hleft, hright⟩
      unfold Window.cell at h
      omega
    rw [if_neg (by simp [hself, hkeeps]), if_neg hself, h, Nat.sub_self]
    rfl

/-- Before anything is in view, a character out of view leaves nothing. -/
theorem add_blank_of_cell_eq {c : Char}
    (h : window.cell (advance tabWidth column c) = window.cell column) :
    (blank column).add window tabWidth c = blank (advance tabWidth column c) := by
  have hview : ¬ max column window.left < min (advance tabWidth column c) window.right := by
    rw [← cell_lt_cell_iff]
    omega
  simp [add, blank, hview]

/-- The first character in view begins the segment. -/
theorem add_blank_of_cell_lt {c : Char}
    (h : window.cell column < window.cell (advance tabWidth column c)) :
    (blank column).add window tabWidth c =
      ⟨advance tabWidth column c, some (window.cell column), drawn window tabWidth column c⟩ := by
  have hview := cell_lt_cell_iff.1 h
  have hstart : max column window.left - window.left = window.cell column := by
    unfold Window.cell
    omega
  unfold add blank
  simp only
  rw [if_pos hview, drawn_of_cell_lt h, hstart]
  rfl

/-- Once something is in view, each character is added as it is drawn. -/
theorem add_of_some {shown : Nat} (text : Text) (c : Char) :
    add window tabWidth ⟨column, some shown, text⟩ c =
      ⟨advance tabWidth column c, some shown, text ++ drawn window tabWidth column c⟩ := by
  have hle := Window.cell_le_cell (le_advance tabWidth column c) window
  rcases Nat.lt_or_eq_of_le hle with hlt | heq
  · have hview := cell_lt_cell_iff.1 hlt
    unfold add
    simp only
    rw [if_pos hview, drawn_of_cell_lt hlt]
    rfl
  · have hview : ¬ max column window.left < min (advance tabWidth column c) window.right := by
      rw [← cell_lt_cell_iff]
      omega
    unfold add
    simp only
    rw [if_neg hview, drawn_of_cell_eq heq.symm]
    by_cases hself : advance tabWidth column c = column
    · rw [if_pos hself, if_pos ⟨hself, rfl⟩]
    · rw [if_neg hself, if_neg fun h => hself h.1, List.append_nil]

/-- Once something is shown, what is added is drawn behind it. -/
theorem foldl_add_of_some {shown : Nat} (text t : Text) :
    t.foldl (add window tabWidth) ⟨column, some shown, text⟩ =
      ⟨advanceAll tabWidth column t, some shown, text ++ drawnAll window tabWidth column t⟩ := by
  induction t generalizing column text with
  | nil => simp [drawnAll]
  | cons c t ih =>
      rw [List.foldl_cons, add_of_some, ih, drawnAll, advanceAll_cons, List.append_assoc]

/-- Painting a text leaves out the characters before the first in view and draws the others. -/
theorem exists_foldl_add (window : Window) (tabWidth column : Nat) (t : Text) :
    ∃ hidden body, t = hidden ++ body ∧
      t.foldl (add window tabWidth) (blank column) =
        ofExcerpt window tabWidth column hidden body ∧
      window.cell (advanceAll tabWidth column hidden) = window.cell column ∧
      ∀ c ∈ body.head?, window.cell (advanceAll tabWidth column hidden) <
        window.cell (advance tabWidth (advanceAll tabWidth column hidden) c) := by
  induction t generalizing column with
  | nil => exact ⟨[], [], rfl, rfl, rfl, fun _ hc => by cases hc⟩
  | cons c t ih =>
      have hle := Window.cell_le_cell (le_advance tabWidth column c) window
      rcases Nat.lt_or_eq_of_le hle with hlt | heq
      · refine ⟨[], c :: t, rfl, ?_, rfl, fun d hd => ?_⟩
        · rw [List.foldl_cons, add_blank_of_cell_lt hlt, foldl_add_of_some]
          rfl
        · obtain rfl := Option.some.inj hd
          exact hlt
      · obtain ⟨hidden, body, rfl, hfold, hhidden, hhead⟩ := ih (advance tabWidth column c)
        refine ⟨c :: hidden, body, rfl, ?_, hhidden.trans heq.symm, hhead⟩
        rw [List.foldl_cons, add_blank_of_cell_eq heq.symm, hfold]
        rfl

/-- Painting stops behind the first character that reaches the right edge. -/
theorem exists_addAll_eq_foldl (window : Window) (tabWidth : Nat) (painting : Painting) (t : Text) :
    ∃ front rest, t = front ++ rest ∧
      painting.addAll window tabWidth t = front.foldl (add window tabWidth) painting ∧
      (rest ≠ [] → window.right ≤ advanceAll tabWidth painting.reached front) ∧
      ∀ before c after, front = before ++ c :: after → before ≠ [] →
        advanceAll tabWidth painting.reached before < window.right := by
  induction t generalizing painting with
  | nil => exact ⟨[], [], rfl, rfl, fun h => absurd rfl h, by simp⟩
  | cons c t ih =>
      unfold addAll
      have hreached := @reached_add window tabWidth painting c
      simp only
      split
      · next hedge =>
          refine ⟨[c], t, rfl, rfl, fun _ => ?_, ?_⟩
          · rw [hreached] at hedge
            exact hedge
          · intro before d after heq hbefore
            cases before with
            | nil => exact absurd rfl hbefore
            | cons b before => simp at heq
      · next hedge =>
          obtain ⟨front, rest, rfl, hfold, hrest, hfront⟩ := ih (painting.add window tabWidth c)
          rw [hreached] at hedge hrest hfront
          refine ⟨c :: front, rest, rfl, hfold, hrest, ?_⟩
          intro before d after heq hbefore
          cases before with
          | nil => exact absurd rfl hbefore
          | cons b before =>
              obtain ⟨rfl, rfl⟩ := List.cons.inj heq
              cases before with
              | nil => exact Nat.lt_of_not_le hedge
              | cons b' before => exact hfront (b' :: before) d after rfl (List.cons_ne_nil _ _)

/-- A text is painted as an excerpt of it. -/
theorem exists_excerpt (window : Window) (tabWidth column : Nat) (t : Text) :
    ∃ hidden body rest, t = hidden ++ (body ++ rest) ∧
      Excerpt window tabWidth column hidden body rest ∧
      (blank column).addAll window tabWidth t = ofExcerpt window tabWidth column hidden body := by
  obtain ⟨front, rest, rfl, hadd, hrest, hbefore⟩ :=
    exists_addAll_eq_foldl window tabWidth (blank column) t
  obtain ⟨hidden, body, rfl, hfold, hhidden, hhead⟩ := exists_foldl_add window tabWidth column front
  refine ⟨hidden, body, rest, List.append_assoc .., ⟨hhidden, hhead, ?_, hrest⟩, hadd.trans hfold⟩
  intro front c back hbody
  by_cases hnil : hidden ++ front = []
  · -- the first character of all begins before the right edge because it is in view
    obtain ⟨rfl, rfl⟩ := List.append_eq_nil_iff.1 hnil
    have hview := cell_lt_cell_iff.1 (hhead c (by rw [hbody]; rfl))
    show column < window.right
    rw [advanceAll_nil] at hview
    omega
  · exact hbefore (hidden ++ front) c back (by rw [hbody, List.append_assoc]) hnil

end Painting

namespace Excerpt

variable {hidden body rest : Text}

/-- All that is in view of a text is in view of its excerpt. -/
theorem cell_advanceAll (h : Excerpt window tabWidth column hidden body rest) :
    window.cell (advanceAll tabWidth column (hidden ++ (body ++ rest))) =
      window.cell (advanceAll tabWidth column (hidden ++ body)) := by
  by_cases hnil : rest = []
  · rw [hnil, List.append_nil]
  · have hedge := h.ends hnil
    rw [← List.append_assoc, advanceAll_append]
    have hle := @le_advanceAll tabWidth (advanceAll tabWidth column (hidden ++ body)) rest
    unfold Window.cell
    omega

/-- The cells in view of a text are those of its excerpt. -/
theorem cellsInView_eq (h : Excerpt window tabWidth column hidden body rest) :
    cellsInView window tabWidth column (hidden ++ (body ++ rest)) =
      cellsInView window tabWidth (advanceAll tabWidth column hidden) body := by
  have hrest :
      cellsInView window tabWidth (advanceAll tabWidth column (hidden ++ body)) rest = [] := by
    refine cellsInView_eq_nil ?_
    rw [← advanceAll_append, List.append_assoc]
    exact h.cell_advanceAll
  rw [advanceAll_append] at hrest
  rw [cellsInView_append, cellsInView_append, cellsInView_eq_nil h.hides, hrest, List.nil_append,
    List.append_nil]

/-- The end of an excerpt is the end of the text, or both lie at the right edge or behind it. -/
theorem advanceAll_eq_or (h : Excerpt window tabWidth column hidden body rest) :
    advanceAll tabWidth column (hidden ++ body) =
        advanceAll tabWidth column (hidden ++ (body ++ rest)) ∨
      window.right ≤ advanceAll tabWidth column (hidden ++ body) := by
  by_cases hnil : rest = []
  · exact .inl (by rw [hnil, List.append_nil])
  · exact .inr (h.ends hnil)

/-- Of a text that begins at the right edge or behind it nothing is drawn. -/
theorem body_eq_nil (h : Excerpt window tabWidth column hidden body rest)
    (hedge : window.right ≤ column) : body = [] := by
  cases body with
  | nil => rfl
  | cons c body =>
      have hbegins := h.begins [] c body rfl
      have hle := @le_advanceAll tabWidth column (hidden ++ [])
      omega

/-- An excerpt that is not empty takes cells. -/
theorem cell_lt_cell (h : Excerpt window tabWidth column hidden body rest) (hbody : body ≠ []) :
    window.cell column < window.cell (advanceAll tabWidth column (hidden ++ body)) := by
  cases body with
  | nil => exact absurd rfl hbody
  | cons c body =>
      have hshows := h.shows c rfl
      rw [h.hides] at hshows
      refine Nat.lt_of_lt_of_le hshows (Window.cell_le_cell ?_ window)
      rw [advanceAll_append, advanceAll_cons]
      exact le_advanceAll body

/-- A character that is in view stands in the excerpt. -/
theorem exists_split {before after : Text} {c : Char}
    (h : Excerpt window tabWidth column hidden body rest)
    (heq : hidden ++ (body ++ rest) = before ++ c :: after)
    (hlt : window.cell (advanceAll tabWidth column before) <
      window.cell (advance tabWidth (advanceAll tabWidth column before) c)) :
    ∃ inner shown,
      before = hidden ++ inner ∧ body = inner ++ c :: shown ∧ after = shown ++ rest := by
  rcases Text.append_eq_append_cons heq with ⟨v, rfl, -⟩ | ⟨inner, rfl, hbody⟩
  · -- nothing of what is hidden is in view
    have hhides := h.hides
    rw [advanceAll_append, advanceAll_cons] at hhides
    have hbefore := Window.cell_le_cell (@le_advanceAll tabWidth column before) window
    have hbehind := Window.cell_le_cell (@le_advanceAll tabWidth
      (advance tabWidth (advanceAll tabWidth column before) c) v) window
    omega
  · rcases Text.append_eq_append_cons hbody with ⟨shown, hshown, hafter⟩ | ⟨w, rfl, hrest⟩
    · exact ⟨inner, shown, rfl, hshown, hafter⟩
    · -- what is left out begins at the right edge or behind it
      have hends := h.ends (by rw [hrest]; simp)
      have hle := @le_advanceAll tabWidth (advanceAll tabWidth column (hidden ++ body)) w
      rw [← advanceAll_append, List.append_assoc] at hle
      unfold Window.cell at hlt
      omega

end Excerpt

/-! ## Pieces -/

namespace Piece

variable {line : Text}

/-- The text of a piece. -/
def text (piece : Piece) (line : Text) : Text := line.between piece.span.start piece.span.stop

/-- The characters of a piece lead from the column of its start to that of its end. -/
theorem advanceAll_text {piece : Piece} (hpiece : piece.span.Piece line) :
    advanceAll tabWidth (line.visualColumn piece.span.start tabWidth) (piece.text line) =
      line.visualColumn piece.span.stop tabWidth :=
  Text.visualColumn_between hpiece.start_le_stop hpiece.start_boundary hpiece.stop_boundary

/-- The segment of a piece by itself, if something of it is in view. -/
def segment? (line : Text) (window : Window) (tabWidth : Nat) (piece : Piece) : Option Segment :=
  (Painting.addAll window tabWidth (.blank (line.visualColumn piece.span.start tabWidth))
    (piece.text line)).segment? piece.token

/-- A piece has no segment if nothing of it is in view; otherwise its segment draws an excerpt. -/
theorem segment?_cases (line : Text) (window : Window) (tabWidth : Nat) (piece : Piece) :
    ∃ hidden body rest, piece.text line = hidden ++ (body ++ rest) ∧
      Excerpt window tabWidth (line.visualColumn piece.span.start tabWidth) hidden body rest ∧
      piece.segment? line window tabWidth =
        if body = [] then none
        else some ⟨window.cell (line.visualColumn piece.span.start tabWidth),
          drawnAll window tabWidth
            (advanceAll tabWidth (line.visualColumn piece.span.start tabWidth) hidden) body,
          piece.token⟩ := by
  obtain ⟨hidden, body, rest, htext, hexcerpt, hadd⟩ := Painting.exists_excerpt window tabWidth
    (line.visualColumn piece.span.start tabWidth) (piece.text line)
  refine ⟨hidden, body, rest, htext, hexcerpt, ?_⟩
  rw [segment?, hadd, ← hexcerpt.hides]
  unfold Painting.segment? Painting.ofExcerpt
  by_cases hbody : body = []
  · simp [hbody]
  · simp [hbody]

/-- A piece at the right edge or behind it has no segment. -/
theorem segment?_eq_none {piece : Piece}
    (hedge : window.right ≤ line.visualColumn piece.span.start tabWidth) :
    piece.segment? line window tabWidth = none := by
  obtain ⟨hidden, body, rest, -, hexcerpt, hsegment⟩ := piece.segment?_cases line window tabWidth
  rw [hsegment, if_pos (hexcerpt.body_eq_nil hedge)]

/-- Painting pieces one after the other gives the segments of each by itself. The column that is
carried along may stop short of the column of the next piece, though only behind the right edge. -/
theorem Cover.paintPieces_eq {pieces : List Piece} {n : Nat} (h : Cover line n pieces)
    (hcolumn : column = line.visualColumn n tabWidth ∨
      window.right ≤ column ∧ window.right ≤ line.visualColumn n tabWidth) :
    paintPieces line window tabWidth column pieces =
      pieces.filterMap (segment? line window tabWidth) := by
  induction pieces generalizing n column with
  | nil => rfl
  | cons piece pieces ih =>
      obtain ⟨rfl, hpiece, hrest⟩ := h
      unfold paintPieces
      split
      · next hedge =>
          -- all that follows begins behind the right edge
          have hstart : window.right ≤ line.visualColumn piece.span.start tabWidth := by
            rcases hcolumn with rfl | ⟨-, hright⟩
            · exact hedge
            · exact hright
          refine (List.filterMap_eq_nil_iff.2 fun other hother => segment?_eq_none ?_).symm
          refine Nat.le_trans hstart (Text.visualColumn_le_visualColumn ?_ line tabWidth)
          have hcover : Cover line piece.span.start (piece :: pieces) := ⟨rfl, hpiece, hrest⟩
          exact (hcover.of_mem hother).2
      · next hedge =>
          have hcolumn : column = line.visualColumn piece.span.start tabWidth :=
            hcolumn.resolve_right fun h => hedge h.1
          obtain ⟨hidden, body, rest, htext, hexcerpt, hadd⟩ :=
            Painting.exists_excerpt window tabWidth column (piece.text line)
          have hstop : advanceAll tabWidth column (hidden ++ (body ++ rest)) =
              line.visualColumn piece.span.stop tabWidth := by
            rw [← htext, hcolumn]
            exact advanceAll_text hpiece
          have hreached : (Painting.ofExcerpt window tabWidth column hidden body).reached =
                line.visualColumn piece.span.stop tabWidth ∨
              window.right ≤ (Painting.ofExcerpt window tabWidth column hidden body).reached ∧
                window.right ≤ line.visualColumn piece.span.stop tabWidth := by
            rw [← hstop]
            refine hexcerpt.advanceAll_eq_or.imp_right fun hright => ⟨hright, ?_⟩
            rw [← List.append_assoc, advanceAll_append]
            exact Nat.le_trans hright (le_advanceAll rest)
          have hsegment : piece.segment? line window tabWidth =
              (Painting.ofExcerpt window tabWidth column hidden body).segment? piece.token := by
            rw [← hadd, hcolumn]
            rfl
          show ((Painting.addAll window tabWidth (.blank column)
              (piece.text line)).segment? piece.token).toList ++
            paintPieces line window tabWidth (Painting.addAll window tabWidth (.blank column)
              (piece.text line)).reached pieces = _
          rw [hadd, ih hrest hreached, ← hsegment, List.filterMap_cons]
          cases piece.segment? line window tabWidth with
          | none => rfl
          | some segment => rfl

end Piece

/-- What is shown of a line are the segments of its pieces. -/
theorem visibleSegments_eq (line : Text) (tokens : List Token) (left width tabWidth : Nat) :
    visibleSegments line tokens left width tabWidth =
      (piecesFrom line 0 tokens).filterMap
        (Piece.segment? line ⟨left, addCapped left width⟩ tabWidth) := by
  have hcover := cover_piecesFrom (Text.isBoundary_zero line) tokens
  refine hcover.paintPieces_eq (.inl ?_)
  rw [Text.visualColumn, Text.before_zero, advanceAll_nil]

end TextEditor
