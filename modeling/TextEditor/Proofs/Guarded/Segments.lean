import TextEditor.Proofs.Guarded.Columns
import TextEditor.Proofs.Screen.Painting

/-!
# Segments within range

The segments of a line in a window, with every cut of the line and every difference of columns
guarded, and with the sums for columns and the sizes of texts within a limit. Any list of tokens
will do, also one that was made for another line. Only the characters that begin before the right
edge of the window are added up.

Main statement: `visibleSegments_of_fitsTo`.
-/

namespace TextEditor.Guarded

variable {limit : Option Nat} {window : Window} {tabWidth column : Nat} {line : Text}

/-- The painting with one more character. -/
def addToPainting (limit : Option Nat) (window : Window) (tabWidth : Nat) (painting : Painting)
    (c : Char) : Option Painting := do
  let next ← advance limit tabWidth painting.reached c
  let shownStart := max painting.reached window.left
  let shownStop := min next window.right
  if shownStart < shownStop then do
    let first ← minus shownStart window.left
    let shown ← minus shownStop shownStart
    let full ← minus next painting.reached
    return {
      reached := next
      column := some (painting.column.getD first)
      text := ← joined limit painting.text
        (if c = '\t' ∨ shown < full then List.replicate shown ' ' else [c]) }
  else if next = painting.reached ∧ painting.column.isSome then
    return { painting with reached := next, text := ← joined limit painting.text [c] }
  else return { painting with reached := next }

/-- The painting with the characters of a text, up to the first that reaches the right edge. -/
def addAllToPainting (limit : Option Nat) (window : Window) (tabWidth : Nat) (painting : Painting) :
    Text → Option Painting
  | [] => some painting
  | c :: t => do
      let painting ← addToPainting limit window tabWidth painting c
      if window.right ≤ painting.reached then return painting
      else addAllToPainting limit window tabWidth painting t

/-- The segments of pieces of a line, the first of which begins at `column`. -/
def paintPieces (limit : Option Nat) (line : Text) (window : Window) (tabWidth column : Nat) :
    List Piece → Option (List Segment)
  | [] => some []
  | piece :: pieces =>
      if window.right ≤ column then some []
      else do
        let painting ← addAllToPainting limit window tabWidth ⟨column, none, []⟩
          (← piece.span.text? line)
        return (painting.column.map fun shown => ⟨shown, painting.text, piece.token⟩).toList ++
          (← paintPieces limit line window tabWidth painting.reached pieces)

/-- What a line with its tokens shows in `width` columns from `left` on. -/
def visibleSegments (limit : Option Nat) (line : Text) (tokens : List Token)
    (left width tabWidth : Nat) : Option (List Segment) :=
  paintPieces limit line ⟨left, addCapped left width⟩ tabWidth 0 (piecesFrom line 0 tokens)

/-! ## What a painting keeps -/

variable {painting : Painting} {c : Char} {t : Text}

/-- A character takes nothing away from the text of a painting. -/
theorem size_text_le_add (painting : Painting) (c : Char) :
    painting.text.size ≤ (painting.add window tabWidth c).text.size := by
  unfold Painting.add
  simp only
  split
  · rw [Text.size_append]
    exact Nat.le_add_right _ _
  · split
    · rw [Text.size_append]
      exact Nat.le_add_right _ _
    · exact Nat.le_refl _

/-- A text takes nothing away from the text of a painting. -/
theorem size_text_le_addAll (painting : Painting) (t : Text) :
    painting.text.size ≤ (painting.addAll window tabWidth t).text.size := by
  induction t generalizing painting with
  | nil => exact Nat.le_refl _
  | cons c t ih =>
      have hfirst := @size_text_le_add window tabWidth painting c
      unfold Painting.addAll
      simp only
      split
      · exact hfirst
      · exact Nat.le_trans hfirst (ih _)

/-- A painting that begins blank and has nothing in view has no text. -/
theorem text_addAll_of_none
    (h : (Painting.addAll window tabWidth (.blank column) t).column = none) :
    (Painting.addAll window tabWidth (.blank column) t).text = [] := by
  obtain ⟨hidden, body, rest, -, -, hadd⟩ := Painting.exists_excerpt window tabWidth column t
  rw [hadd] at h ⊢
  unfold Painting.ofExcerpt at h ⊢
  by_cases hbody : body = []
  · rw [hbody, drawnAll]
  · exact absurd ((if_neg hbody).symm.trans h) (Option.some_ne_none _)

/-- The text of a painting that begins blank is no larger than that of the segment it gives. -/
theorem within_text_addAll {token : Option Token}
    (h : ∀ segment, (Painting.addAll window tabWidth (.blank column) t).segment? token =
      some segment → Within (halved limit) segment.text.size) :
    Within (halved limit) (Painting.addAll window tabWidth (.blank column) t).text.size := by
  cases hcolumn : (Painting.addAll window tabWidth (.blank column) t).column with
  | none =>
      rw [text_addAll_of_none hcolumn]
      exact within_zero _
  | some shown =>
      refine h ⟨shown, _, token⟩ ?_
      rw [Painting.segment?, hcolumn]
      rfl

/-- A painting reaches the end of a text or the right edge. -/
theorem reached_addAll_eq_or (painting : Painting) (t : Text) :
    (painting.addAll window tabWidth t).reached = advanceAll tabWidth painting.reached t ∨
      window.right ≤ (painting.addAll window tabWidth t).reached := by
  induction t generalizing painting with
  | nil => exact .inl rfl
  | cons c t ih =>
      unfold Painting.addAll
      simp only
      split
      · next hedge => exact .inr hedge
      · rw [advanceAll_cons, ← @Painting.reached_add window]
        exact ih _

/-- What follows on a text that is painted fits from the column reached. -/
theorem fitsTo_reached_addAll {s : Text}
    (h : FitsTo limit tabWidth window.right painting.reached (s ++ t)) :
    FitsTo limit tabWidth window.right (painting.addAll window tabWidth s).reached t := by
  rcases @reached_addAll_eq_or window tabWidth painting s with heq | hright
  · rw [heq]
    exact h.right
  · exact fitsTo_of_le hright

/-! ## Equations -/

/-- A character is added if its sum and the text with it are within the limit. -/
theorem addToPainting_of_within
    (hsum : Within limit (painting.reached + addend tabWidth c))
    (hroom : Within (halved limit) (painting.add window tabWidth c).text.size) :
    addToPainting limit window tabWidth painting c = some (painting.add window tabWidth c) := by
  have hnext : painting.reached ≤ TextEditor.advance tabWidth painting.reached c :=
    le_advance tabWidth painting.reached c
  unfold addToPainting
  unfold Painting.add at hroom ⊢
  simp only [advance_of_within hsum, Option.bind_eq_bind, Option.bind_some] at hroom ⊢
  split
  · next hview =>
      have hleft : window.left ≤ max painting.reached window.left := Nat.le_max_right _ _
      rw [if_pos hview] at hroom
      simp only [minus_of_le hleft, minus_of_le (Nat.le_of_lt hview), minus_of_le hnext,
        joined_of_within hroom, Option.bind_some]
      rfl
  · next hview =>
      rw [if_neg hview] at hroom
      split
      · next hmark =>
          rw [if_pos hmark] at hroom
          rw [joined_of_within hroom]
          rfl
      · rfl

/-- A text is added if what begins before the right edge fits, and the painting with it is within
the limit. -/
theorem addAllToPainting_of_fitsTo (hbegins : painting.reached < window.right)
    (hfits : FitsTo limit tabWidth window.right painting.reached t)
    (hroom : Within (halved limit) (painting.addAll window tabWidth t).text.size) :
    addAllToPainting limit window tabWidth painting t =
      some (painting.addAll window tabWidth t) := by
  induction t generalizing painting with
  | nil => rfl
  | cons c t ih =>
      obtain ⟨hfirst, hrest⟩ := fitsTo_cons_iff.1 hfits
      unfold addAllToPainting
      unfold Painting.addAll at hroom ⊢
      simp only at hroom ⊢
      split at hroom
      · next hedge =>
          rw [addToPainting_of_within (hfirst hbegins) hroom, Option.bind_eq_bind,
            Option.bind_some, if_pos hedge, if_pos hedge]
          rfl
      · next hedge =>
          have hbehind := hroom.mono (size_text_le_addAll _ t)
          rw [addToPainting_of_within (hfirst hbegins) hbehind, Option.bind_eq_bind,
            Option.bind_some, if_neg hedge, if_neg hedge]
          refine ih (Nat.lt_of_not_le hedge) ?_ hroom
          rwa [Painting.reached_add]

/-- Pieces are painted if what begins before the right edge fits, and each segment is within the
limit. -/
theorem paintPieces_of_fitsTo {n : Nat} {pieces : List Piece} (h : Piece.Cover line n pieces)
    (hfits : FitsTo limit tabWidth window.right column (line.after n))
    (hroom : ∀ segment ∈ TextEditor.paintPieces line window tabWidth column pieces,
      Within (halved limit) segment.text.size) :
    paintPieces limit line window tabWidth column pieces =
      some (TextEditor.paintPieces line window tabWidth column pieces) := by
  induction pieces generalizing n column with
  | nil => rfl
  | cons piece pieces ih =>
      obtain ⟨rfl, hpiece, hrest⟩ := h
      by_cases hedge : window.right ≤ column
      · rw [paintPieces, if_pos hedge, TextEditor.paintPieces, if_pos hedge]
      rw [TextEditor.paintPieces, if_neg hedge] at hroom ⊢
      rw [Text.after_eq_between_append hpiece.start_le_stop hpiece.start_boundary
        hpiece.stop_boundary] at hfits
      have hfirst : Within (halved limit) (Painting.addAll window tabWidth (.blank column)
          (line.between piece.span.start piece.span.stop)).text.size :=
        within_text_addAll fun segment hsegment =>
          hroom segment (List.mem_append_left _ (Option.mem_toList.2 hsegment))
      have hpainted := addAllToPainting_of_fitsTo (Nat.lt_of_not_le hedge) hfits.left hfirst
      have hpieces := ih hrest (fitsTo_reached_addAll hfits) fun segment hsegment =>
        hroom segment (List.mem_append_right _ hsegment)
      unfold Painting.blank at hpainted hpieces
      simp only [paintPieces, if_neg hedge, hpiece.toCuts.text?_eq, hpainted, hpieces,
        Option.bind_eq_bind, Option.bind_some, Option.pure_def]

/-- A line is shown in a window, whatever its tokens are, if the characters that begin before the
right edge of the window fit and no segment is too large for a text. -/
theorem visibleSegments_of_fitsTo {tokens : List Token} {left width : Nat}
    (hfits : FitsTo limit tabWidth (addCapped left width) 0 line)
    (hroom : ∀ segment ∈ TextEditor.visibleSegments line tokens left width tabWidth,
      Within (halved limit) segment.text.size) :
    visibleSegments limit line tokens left width tabWidth =
      some (TextEditor.visibleSegments line tokens left width tabWidth) := by
  refine paintPieces_of_fitsTo (cover_piecesFrom (Text.isBoundary_zero line) tokens) ?_ hroom
  rwa [Text.after_zero]

end TextEditor.Guarded
