import TextEditor.Proofs.Guarded.Fitting
import TextEditor.Screen.Viewport
import TextEditor.Unicode.Clusters

/-!
# Columns and clusters within range

Columns, clusters and the scrolling of a window, with every cut, difference and remainder guarded,
and with the sums for columns and window edges within a limit.

Main statements: `visualColumn_eq_iff`, `byteForColumn_of_fitsTo`, `nextCluster_eq`,
`previousCluster_eq`, `scrollTo_eq_iff` and `toScreen?_eq`.
-/

namespace TextEditor.Guarded

variable {limit : Option Nat} {tabWidth column target : Nat} {line t : Text} {c : Char}

/-! ## Columns -/

/-- The column after a character that begins at `column`. -/
def advance (limit : Option Nat) (tabWidth column : Nat) (c : Char) : Option Nat :=
  if c = '\t' then do
    let width := max tabWidth 1
    minus (← plus limit column width) (← remainder column width)
  else plus limit column (cellWidth c)

/-- A character whose sum is within the limit leads to the column behind it. -/
theorem advance_of_within (h : Within limit (column + addend tabWidth c)) :
    advance limit tabWidth column c = some (TextEditor.advance tabWidth column c) := by
  unfold advance TextEditor.advance
  unfold addend at h
  split
  · next htab =>
      rw [if_pos htab] at h
      have hwidth : 0 < max tabWidth 1 := by omega
      have hmod : column % max tabWidth 1 ≤ column + max tabWidth 1 :=
        Nat.le_trans (Nat.mod_le _ _) (Nat.le_add_right _ _)
      simp only [plus_of_within h, remainder_of_pos hwidth, minus_of_le hmod, Option.bind_eq_bind,
        Option.bind_some]
  · next htab =>
      rw [if_neg htab] at h
      exact plus_of_within h

/-- A character whose sum is over the limit leads nowhere. -/
theorem advance_of_not_within (h : ¬ Within limit (column + addend tabWidth c)) :
    advance limit tabWidth column c = none := by
  unfold advance
  unfold addend at h
  split
  · next htab =>
      rw [if_pos htab] at h
      simp only [plus_of_not_within h, Option.bind_eq_bind, Option.bind_none]
  · next htab =>
      rw [if_neg htab] at h
      exact plus_of_not_within h

/-- The characters of a text lead to the column behind it exactly if the text fits. -/
theorem foldlM_advance_eq_iff : t.foldlM (advance limit tabWidth) column =
    some (advanceAll tabWidth column t) ↔ Fits limit tabWidth column t := by
  induction t generalizing column with
  | nil => exact iff_of_true rfl fits_nil
  | cons c t ih =>
      rw [List.foldlM_cons, fits_cons_iff, advanceAll_cons, ← ih]
      by_cases h : Within limit (column + addend tabWidth c)
      · rw [advance_of_within h]
        exact (and_iff_right h).symm
      · rw [advance_of_not_within h]
        exact iff_of_false (fun heq => nomatch heq) fun hboth => h hboth.1

/-- The column of the character at the floor of byte `n`. -/
def visualColumn (limit : Option Nat) (line : Text) (n tabWidth : Nat) : Option Nat := do
  let stop ← floor line n
  (← front line stop).foldlM (advance limit tabWidth) 0

/-- An offset has a column exactly if the text before it fits. -/
theorem visualColumn_eq_iff (n : Nat) : visualColumn limit line n tabWidth =
    some (line.visualColumn n tabWidth) ↔ Fits limit tabWidth 0 (line.before n) := by
  rw [← foldlM_advance_eq_iff]
  simp [visualColumn, Text.visualColumn, Text.before_floor]

/-- In a line that fits every offset has a column. -/
theorem visualColumn_of_fits (h : Fits limit tabWidth 0 line) (n : Nat) :
    visualColumn limit line n tabWidth = some (line.visualColumn n tabWidth) := by
  rw [← Text.before_append_after line n] at h
  exact (visualColumn_eq_iff n).2 h.left

/-- The byte offset of the first character that ends past the column `target`, where the text begins
at `column`. -/
def byteFrom (limit : Option Nat) (tabWidth target : Nat) : Nat → Text → Option Nat
  | _, [] => some 0
  | column, c :: t => do
      let next ← advance limit tabWidth column c
      if target < next then some 0
      else some (c.utf8Size + (← byteFrom limit tabWidth target next t))

/-- The byte offset of the character that covers a column. -/
def byteForColumn (limit : Option Nat) (line : Text) (target tabWidth : Nat) : Option Nat :=
  byteFrom limit tabWidth target 0 line

/-- The search for a column looks at no character that begins past it. -/
theorem byteFrom_of_fitsTo (hcolumn : column ≤ target)
    (h : FitsTo limit tabWidth (target + 1) column t) :
    byteFrom limit tabWidth target column t = some (Text.byteFrom tabWidth target column t) := by
  induction t generalizing column with
  | nil => rfl
  | cons c t ih =>
      obtain ⟨hfirst, hrest⟩ := fitsTo_cons_iff.1 h
      have hnext := advance_of_within (hfirst (Nat.lt_succ_of_le hcolumn))
      by_cases hpast : target < TextEditor.advance tabWidth column c
      · simp only [byteFrom, Text.byteFrom, hnext, Option.bind_eq_bind, Option.bind_some,
          if_pos hpast]
      · simp only [byteFrom, Text.byteFrom, hnext, Option.bind_eq_bind, Option.bind_some,
          if_neg hpast, ih (Nat.le_of_not_lt hpast) hrest]

/-- A column leads to a byte if what begins up to it fits. -/
theorem byteForColumn_of_fitsTo (h : FitsTo limit tabWidth (target + 1) 0 line) :
    byteForColumn limit line target tabWidth = some (line.byteForColumn target tabWidth) :=
  byteFrom_of_fitsTo (Nat.zero_le target) h

/-! ## Clusters -/

/-- The offset after the cluster that begins at the floor of `n`. -/
def nextCluster (line : Text) (n : Nat) : Option Nat := do
  let start ← floor line n
  if line.size ≤ start then some line.size
  else match Text.clusters (← back line start) with
    | [] => some line.size
    | cluster :: _ => some (start + cluster.size)

/-- From any offset the next cluster can be found. -/
@[simp] theorem nextCluster_eq (line : Text) (n : Nat) :
    nextCluster line n = some (line.nextCluster n) := by
  simp only [nextCluster, floor_eq, Option.bind_eq_bind, Option.bind_some]
  split
  · next hle =>
      have hrest : line.after n = [] := by
        have := Text.floor_add_size_after line n
        exact Text.size_eq_zero_iff.1 (by omega)
      rw [Text.nextCluster, hrest]
      rfl
  · rw [back_of_isBoundary (Text.isBoundary_floor line n), Option.bind_some, Text.after_floor,
      Text.nextCluster]
    cases Text.clusters (line.after n) with
    | nil => rfl
    | cons cluster rest => rfl

/-- The offset of the last cluster of what stands before the floor of `n`. -/
def previousCluster (line : Text) (n : Nat) : Option Nat := do
  let stop ← floor line n
  if stop = 0 then some 0
  else some (Text.size (Text.clusters (← front line stop)).dropLast.flatten)

/-- From any offset the cluster before can be found. -/
@[simp] theorem previousCluster_eq (line : Text) (n : Nat) :
    previousCluster line n = some (line.previousCluster n) := by
  simp only [previousCluster, floor_eq, Option.bind_eq_bind, Option.bind_some]
  split
  · next hzero =>
      have hfront : line.before n = [] := Text.size_eq_zero_iff.1 hzero
      rw [Text.previousCluster, hfront]
      rfl
  · rw [front_of_isBoundary (Text.isBoundary_floor line n), Option.bind_some, Text.before_floor,
      Text.previousCluster]

/-! ## Windows -/

variable {start size position : Nat} {view : Viewport}

/-- The start of a window, moved the least distance that brings `position` into view. -/
def scrollStart (limit : Option Nat) (start size position : Nat) : Option Nat :=
  if position < start then some position
  else do
    if (← plus limit start (max size 1)) ≤ position then
      minus (← plus limit position 1) (max size 1)
    else return start

/-- The edge of a window that begins no later than a position is within the limit, and so is what
comes after a position behind that edge. -/
def EdgeFits (limit : Option Nat) (start size position : Nat) : Prop :=
  start ≤ position → Within limit (start + max size 1) ∧
    (start + max size 1 ≤ position → Within limit (position + 1))

instance (limit : Option Nat) (start size position : Nat) :
    Decidable (EdgeFits limit start size position) :=
  inferInstanceAs (Decidable (_ → _))

/-- Without a limit every edge is within it. -/
theorem edgeFits_none (start size position : Nat) : EdgeFits none start size position :=
  fun _ => ⟨within_none _, fun _ => within_none _⟩

/-- A window is moved exactly if its edge is within the limit. -/
theorem scrollStart_eq_iff : scrollStart limit start size position =
    some (TextEditor.scrollStart start size position) ↔ EdgeFits limit start size position := by
  unfold scrollStart TextEditor.scrollStart EdgeFits
  by_cases hbefore : position < start
  · rw [if_pos hbefore, if_pos hbefore]
    exact iff_of_true rfl fun h => absurd h (Nat.not_le_of_lt hbefore)
  rw [if_neg hbefore, if_neg hbefore, imp_iff_right (Nat.le_of_not_lt hbefore)]
  by_cases hedge : Within limit (start + max size 1)
  · rw [plus_of_within hedge, and_iff_right hedge]
    by_cases hbehind : start + max size 1 ≤ position
    · have hminus : max size 1 ≤ position + 1 := by omega
      rw [imp_iff_right hbehind]
      by_cases hnext : Within limit (position + 1)
      · simp [hbehind, hnext, hminus]
      · simp [hbehind, hnext, plus_of_not_within]
    · simp [hbehind]
  · simp [hedge, plus_of_not_within]

/-- The edges of a window in both directions are within the limit, for a move to a position. -/
def ViewFits (limit : Option Nat) (view : Viewport) (line column : Nat) : Prop :=
  EdgeFits limit view.top view.height line ∧ EdgeFits limit view.left view.width column

instance (limit : Option Nat) (view : Viewport) (line column : Nat) :
    Decidable (ViewFits limit view line column) :=
  inferInstanceAs (Decidable (_ ∧ _))

/-- Without a limit the edges of every window are within it. -/
theorem viewFits_none (view : Viewport) (line column : Nat) : ViewFits none view line column :=
  ⟨edgeFits_none _ _ _, edgeFits_none _ _ _⟩

/-- The window moved the least distance that brings a position into view. -/
def scrollTo (limit : Option Nat) (view : Viewport) (line column : Nat) : Option Viewport := do
  return { view with
    top := ← scrollStart limit view.top view.height line
    left := ← scrollStart limit view.left view.width column }

/-- A window is moved exactly if its edges in both directions are within the limit. -/
theorem scrollTo_eq_iff {line : Nat} : scrollTo limit view line column =
    some (view.scrollTo line column) ↔ ViewFits limit view line column := by
  rw [ViewFits, ← scrollStart_eq_iff, ← scrollStart_eq_iff, scrollTo, Viewport.scrollTo]
  cases scrollStart limit view.top view.height line with
  | none => simp
  | some top =>
      cases scrollStart limit view.left view.width column with
      | none => simp
      | some left => simp

/-- The column and row of the screen where a position is shown, if it is in view. -/
def toScreen? (view : Viewport) (line column : Nat) : Option (Option (Nat × Nat)) :=
  if view.contains line column then do
    return some (← minus column view.left, ← minus line view.top)
  else some none

/-- Where a position is contained in a window, its distances to the start of the window are
there. -/
@[simp] theorem toScreen?_eq (view : Viewport) (line column : Nat) :
    toScreen? view line column = some (view.toScreen? line column) := by
  unfold toScreen? Viewport.toScreen?
  split
  · next hcontains =>
      simp only [Viewport.contains, Bool.and_eq_true, decide_eq_true_eq] at hcontains
      rw [minus_of_le hcontains.1.2, minus_of_le hcontains.1.1.1]
      rfl
  · rfl

end TextEditor.Guarded
