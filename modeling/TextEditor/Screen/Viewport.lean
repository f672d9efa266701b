import TextEditor.Offset

/-!
# Viewport

The window of a screen onto the text: the first line and the first column shown, and how many cells
there are in each direction. `scrollTo` moves it no further than it has to. The sums on the way are
numbers of any size here; `Guarded.scrollTo` has a value only if they are offsets.

Main statements: `scrollStart_le` and `lt_scrollStart_add` say that scrolling brings a position into
view, `scrollStart_eq_self` that it moves nothing if the position is in view.
-/

namespace TextEditor

/-- The part of the text that is shown. -/
structure Viewport where
  top : Nat
  left : Nat
  width : Nat
  height : Nat
  deriving DecidableEq, Repr

/-- The start of a window of `size` cells, moved from `start` the least distance that brings
`position` into view; a window without cells is treated as one with one cell. -/
def scrollStart (start size position : Nat) : Nat :=
  if position < start then position
  else if start + max size 1 ≤ position then position + 1 - max size 1
  else start

/-- The window does not begin after the position. -/
theorem scrollStart_le (start size position : Nat) :
    scrollStart start size position ≤ position := by
  unfold scrollStart
  split
  · omega
  · split <;> omega

/-- The window does not end before the position. -/
theorem lt_scrollStart_add (start size position : Nat) :
    position < scrollStart start size position + max size 1 := by
  unfold scrollStart
  split
  · omega
  · split <;> omega

/-- A window that shows the position stays where it is. -/
theorem scrollStart_eq_self {start size position : Nat} (hle : start ≤ position)
    (hlt : position < start + max size 1) : scrollStart start size position = start := by
  unfold scrollStart
  rw [if_neg (by omega), if_neg (by omega)]

namespace Viewport

/-- A window at the start of the text. -/
def new (width height : Nat) : Viewport := ⟨0, 0, width, height⟩

/-- The window with another size and the same start. -/
def resize (view : Viewport) (width height : Nat) : Viewport :=
  { view with width := width, height := height }

/-- The window moved the least distance that brings a position into view. -/
def scrollTo (view : Viewport) (line column : Nat) : Viewport :=
  { view with
    top := scrollStart view.top view.height line
    left := scrollStart view.left view.width column }

/-- The first line shown of `count` lines, and the line after the last. -/
def rows (view : Viewport) (count : Nat) : Nat × Nat :=
  (min view.top count, min (addCapped view.top view.height) count)

/-- Whether a position is in view. -/
def contains (view : Viewport) (line column : Nat) : Bool :=
  view.top ≤ line && line < addCapped view.top view.height &&
    view.left ≤ column && column < addCapped view.left view.width

/-- The column and row of the screen where a position is shown. -/
def toScreen? (view : Viewport) (line column : Nat) : Option (Nat × Nat) :=
  if view.contains line column then some (column - view.left, line - view.top) else none

end Viewport

end TextEditor
