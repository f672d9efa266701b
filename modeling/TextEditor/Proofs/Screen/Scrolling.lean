import Mathlib.Data.Nat.Dist
import TextEditor.Proofs.Guarded.Columns

/-!
# Scrolling no further than needed

In each direction a window covers the offsets from its start up to its end, which is an offset as
well; so the largest offset is in no window. Scrolling moves the start of a window to the nearest
place from which it covers a position, in the one direction without regard to the other. For this
the end of the window is found by a sum that does not stop at the largest offset, so that there has
to be room for the window behind its start, and behind the position if that comes first.

Main statements: `covers_scrollStart` and `dist_scrollStart_lt` for one direction,
`toScreen?_eq_iff` for the cells of the screen, and `scrollTo_least_iff` for a window as a whole.
-/

namespace TextEditor

variable {start size position other : Nat}

/-- A window of `size` cells that begins at `start` covers a position in its direction. -/
def Covers (start size position : Nat) : Prop := start ≤ position ∧ position < addCapped start size

/-- What is covered is not the largest offset, and less than `size` cells from the start. -/
theorem covers_iff :
    Covers start size position ↔ start ≤ position ∧ position < start + size ∧
      position < maxOffset := by
  rw [Covers, addCapped, lt_min_iff]

/-- Scrolling covers the position. -/
theorem covers_scrollStart (hsize : 1 ≤ size) (hposition : position < maxOffset) :
    Covers (scrollStart start size position) size position := by
  have hlt := lt_scrollStart_add start size position
  rw [Nat.max_eq_left hsize] at hlt
  exact covers_iff.2 ⟨scrollStart_le start size position, hlt, hposition⟩

/-- A window that covers the position stays where it is. -/
theorem scrollStart_of_covers (h : Covers start size position) :
    scrollStart start size position = start := by
  obtain ⟨hle, hlt, -⟩ := covers_iff.1 h
  exact scrollStart_eq_self hle (by omega)

/-- In one direction, to scroll a second time changes nothing. -/
theorem scrollStart_scrollStart (start size position : Nat) :
    scrollStart (scrollStart start size position) size position =
      scrollStart start size position :=
  scrollStart_eq_self (scrollStart_le start size position) (lt_scrollStart_add start size position)

/-- Every other start from which the position is covered is further away from the old one. -/
theorem dist_scrollStart_lt (h : Covers other size position)
    (hne : other ≠ scrollStart start size position) :
    (scrollStart start size position).dist start < other.dist start := by
  obtain ⟨hle, hlt, -⟩ := covers_iff.1 h
  have hsize : max size 1 = size := Nat.max_eq_left (by omega)
  unfold scrollStart at hne ⊢
  rw [hsize] at hne ⊢
  unfold Nat.dist
  split at hne
  · next hbefore =>
      rw [if_pos hbefore]
      omega
  · next hbefore =>
      rw [if_neg hbefore]
      split at hne
      · next hbehind =>
          rw [if_pos hbehind]
          omega
      · next hbehind =>
          rw [if_neg hbehind]
          omega

/-- There are offsets for a window of `size` cells that begins at `start` or, if that comes first,
at a position, and for the end of a window that ends with the position. -/
def Roomy (start size position : Nat) : Prop :=
  min start position + size ≤ maxOffset ∧ position < maxOffset

/-- Where there is room the start can be moved, and moved again. -/
theorem edgeFits_of_roomy (hsize : 1 ≤ size) (h : Roomy start size position) :
    Guarded.EdgeFits (some maxOffset) start size position ∧
      Guarded.EdgeFits (some maxOffset) (scrollStart start size position) size position := by
  obtain ⟨hroom, hposition⟩ := h
  have hmax : max size 1 = size := Nat.max_eq_left hsize
  simp only [Guarded.EdgeFits, Guarded.within_some, scrollStart, hmax]
  refine ⟨fun hle => ⟨by omega, fun _ => hposition⟩, fun hle => ⟨?_, fun _ => hposition⟩⟩
  split
  · omega
  · split <;> omega

/-- There is room where the start can be moved, and moved again, and covers the position then. -/
theorem roomy_of_edgeFits (hsize : 1 ≤ size)
    (hfits : Guarded.EdgeFits (some maxOffset) start size position)
    (hagain : Guarded.EdgeFits (some maxOffset) (scrollStart start size position) size position)
    (hcovers : Covers (scrollStart start size position) size position) :
    Roomy start size position := by
  obtain ⟨hle, -, hposition⟩ := covers_iff.1 hcovers
  have hmax : max size 1 = size := Nat.max_eq_left hsize
  simp only [Guarded.EdgeFits, Guarded.within_some, hmax] at hfits hagain
  refine ⟨?_, hposition⟩
  rcases Nat.lt_or_ge position start with hbefore | hbehind
  · -- the start has been moved to the position itself
    have hstart : scrollStart start size position = position := if_pos hbefore
    have hedge := (hagain hle).1
    omega
  · have hedge := (hfits hbehind).1
    omega

namespace Viewport

variable {view : Viewport} {line column x y : Nat}

/-- A window contains a position that it covers in both directions. -/
theorem contains_iff : view.contains line column = true ↔
    Covers view.top view.height line ∧ Covers view.left view.width column := by
  simp only [contains, Covers, Bool.and_eq_true, decide_eq_true_eq, and_assoc]

/-- A window shows a position on one of its cells, which is as far from the corner of the screen as
the position is from the start of the window. -/
theorem toScreen?_eq_iff : view.toScreen? line column = some (x, y) ↔
    view.contains line column = true ∧ x < view.width ∧ y < view.height ∧
      view.left + x = column ∧ view.top + y = line := by
  unfold toScreen?
  constructor
  · intro h
    obtain ⟨hcontains, hcell⟩ := Option.ite_none_right_eq_some.1 h
    obtain ⟨rfl, rfl⟩ := Prod.mk.inj (Option.some.inj hcell)
    obtain ⟨hrows, hcolumns⟩ := contains_iff.1 hcontains
    obtain ⟨htop, hbottom, -⟩ := covers_iff.1 hrows
    obtain ⟨hleft, hright, -⟩ := covers_iff.1 hcolumns
    exact ⟨hcontains, by omega, by omega, by omega, by omega⟩
  · rintro ⟨hcontains, -, -, rfl, rfl⟩
    rw [if_pos hcontains, Nat.add_sub_cancel_left, Nat.add_sub_cancel_left]

/-- Just the positions that a window contains are on the screen. -/
theorem isSome_toScreen? : (view.toScreen? line column).isSome = view.contains line column := by
  unfold toScreen?
  split
  · next hcontains => rw [hcontains, Option.isSome_some]
  · next hcontains => rw [Bool.eq_false_iff.2 hcontains, Option.isSome_none]

/-- A window that contains a position stays where it is. -/
theorem scrollTo_of_contains (h : view.contains line column = true) :
    view.scrollTo line column = view := by
  obtain ⟨hrows, hcolumns⟩ := contains_iff.1 h
  rw [scrollTo, scrollStart_of_covers hrows, scrollStart_of_covers hcolumns]

/-- Scrolling to a position a second time changes nothing. -/
theorem scrollTo_scrollTo (view : Viewport) (line column : Nat) :
    (view.scrollTo line column).scrollTo line column = view.scrollTo line column := by
  simp only [scrollTo, scrollStart_scrollStart]

/-- Scrolling to a position is the least that brings it into view. -/
structure ScrollsLeast (view : Viewport) (line column : Nat) : Prop where
  /-- No sum on the way is over the largest offset, and no number is taken from a smaller one. -/
  scrolled : Guarded.scrollTo (some maxOffset) view line column = some (view.scrollTo line column)
  contains : (view.scrollTo line column).contains line column = true
  unchanged : view.contains line column = true → view.scrollTo line column = view
  /-- Scrolling there a second time changes nothing. -/
  again : Guarded.scrollTo (some maxOffset) (view.scrollTo line column) line column =
    some (view.scrollTo line column)
  width : (view.scrollTo line column).width = view.width
  height : (view.scrollTo line column).height = view.height
  /-- In each direction any other start from which the position is covered is further from the old
  one. -/
  top : ∀ top, Covers top view.height line → top ≠ (view.scrollTo line column).top →
    (view.scrollTo line column).top.dist view.top < top.dist view.top
  left : ∀ left, Covers left view.width column → left ≠ (view.scrollTo line column).left →
    (view.scrollTo line column).left.dist view.left < left.dist view.left

/-- A position is on the screen exactly if it is in view, on the cell that is as far from the corner
as the position is from the start of the window. -/
structure OnScreen (view : Viewport) (line column : Nat) : Prop where
  computed : Guarded.toScreen? view line column = some (view.toScreen? line column)
  isSome : (view.toScreen? line column).isSome = view.contains line column
  cell : ∀ x y, view.toScreen? line column = some (x, y) →
    x < view.width ∧ y < view.height ∧ view.left + x = column ∧ view.top + y = line

/-- A window scrolls the least to a position exactly if there is room for it there in both
directions; and in every window each position that it contains is on the screen. -/
theorem scrollTo_least_iff (view : Viewport) (hwidth : 1 ≤ view.width) (hheight : 1 ≤ view.height)
    (line column : Nat) :
    (view.ScrollsLeast line column ↔
      Roomy view.top view.height line ∧ Roomy view.left view.width column) ∧
    view.OnScreen line column := by
  refine ⟨⟨fun h => ?_, fun ⟨hrows, hcolumns⟩ => ?_⟩, Guarded.toScreen?_eq view line column,
    isSome_toScreen?, fun _ _ hcell => (toScreen?_eq_iff.1 hcell).2⟩
  · have hagain := h.again
    rw [← congrArg some (scrollTo_scrollTo view line column)] at hagain
    obtain ⟨hrows, hcolumns⟩ := Guarded.scrollTo_eq_iff.1 h.scrolled
    obtain ⟨hrowsAgain, hcolumnsAgain⟩ := Guarded.scrollTo_eq_iff.1 hagain
    obtain ⟨htop, hleft⟩ := contains_iff.1 h.contains
    exact ⟨roomy_of_edgeFits hheight hrows hrowsAgain htop,
      roomy_of_edgeFits hwidth hcolumns hcolumnsAgain hleft⟩
  · obtain ⟨hrowsFit, hrowsAgain⟩ := edgeFits_of_roomy hheight hrows
    obtain ⟨hcolumnsFit, hcolumnsAgain⟩ := edgeFits_of_roomy hwidth hcolumns
    have hagain : Guarded.scrollTo (some maxOffset) (view.scrollTo line column) line column =
        some ((view.scrollTo line column).scrollTo line column) :=
      Guarded.scrollTo_eq_iff.2 ⟨hrowsAgain, hcolumnsAgain⟩
    rw [scrollTo_scrollTo] at hagain
    exact {
      scrolled := Guarded.scrollTo_eq_iff.2 ⟨hrowsFit, hcolumnsFit⟩
      contains := contains_iff.2
        ⟨covers_scrollStart hheight hrows.2, covers_scrollStart hwidth hcolumns.2⟩
      unchanged := scrollTo_of_contains
      again := hagain
      width := rfl
      height := rfl
      top := fun _ hcovers hne => dist_scrollStart_lt hcovers hne
      left := fun _ hcovers hne => dist_scrollStart_lt hcovers hne }

/-- A position one line below a window and one column to its left: the window moves by one in each
direction, and by no less. -/
theorem scrollTo_least_iff_corner :
    let view : Viewport := ⟨3, 4, 10, 5⟩
    1 ≤ view.width ∧ 1 ≤ view.height ∧ view.contains 8 3 = false ∧
      view.scrollTo 8 3 = ⟨4, 3, 10, 5⟩ ∧ view.ScrollsLeast 8 3 ∧
      (view.scrollTo 8 3).toScreen? 8 3 = some (0, 4) := by
  intro view
  have hwidth : 1 ≤ view.width := by decide
  have hheight : 1 ≤ view.height := by decide
  have hroom : Roomy view.top view.height 8 ∧ Roomy view.left view.width 3 := by
    unfold Roomy
    decide
  exact ⟨hwidth, hheight, by decide, by decide,
    (scrollTo_least_iff view hwidth hheight 8 3).1.2 hroom, by decide⟩

/-- A window from the second line on with as many rows as there are offsets contains the fourth
line, yet it cannot be scrolled there: the sum for its end is over the largest offset. Nor can any
window be scrolled to the largest offset, which none contains. -/
theorem not_scrollsLeast_over_largest :
    let view : Viewport := ⟨1, 0, 80, maxOffset⟩
    view.contains 3 0 = true ∧ Guarded.scrollTo (some maxOffset) view 3 0 = none ∧
      ¬ view.ScrollsLeast 3 0 ∧
      let small : Viewport := ⟨0, 0, 5, 5⟩
      Guarded.scrollTo (some maxOffset) small maxOffset 0 = none ∧
        (small.scrollTo maxOffset 0).contains maxOffset 0 = false := by
  intro view
  have hnone : Guarded.scrollTo (some maxOffset) view 3 0 = none := by decide
  refine ⟨by decide, hnone, fun h => ?_, by decide, by decide⟩
  have hscrolled := h.scrolled
  rw [hnone] at hscrolled
  cases hscrolled

end Viewport

end TextEditor
