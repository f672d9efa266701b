import TextEditor.Proofs.Screen.Columns
import TextEditor.Screen.Segments

/-!
# Cells of a window

What a window shows of a line, cell by cell, and the text that shows it. A character that is in view
as a whole is shown in all its cells; of a tab, and of a character that an edge cuts, the cells in
view are blank. `drawn` is the text for one character, `drawnAll` for several, and counting the
cells of that text gives back the cells of the window.

Main statements: `cell_add_cellCount_drawnAll` and `cellsFrom_drawnAll`.
-/

namespace TextEditor

/-! ## Texts on a screen -/

namespace Text

/-- The cells that the characters of a text take one by one. -/
def cellCount : Text → Nat
  | [] => 0
  | c :: t => cellWidth c + cellCount t

/-- The cells of a text that begins at cell `n`, each with the character that it shows. -/
def cellsFrom : Nat → Text → List (Nat × Char)
  | _, [] => []
  | n, c :: t =>
      (List.range' n (cellWidth c)).map (fun cell => (cell, c)) ++ cellsFrom (n + cellWidth c) t

/-- No characters take no cells. -/
@[simp] theorem cellCount_nil : cellCount [] = 0 := rfl

/-- The cells of a text are those of its first character and of the others. -/
@[simp] theorem cellCount_cons (c : Char) (t : Text) :
    cellCount (c :: t) = cellWidth c + cellCount t := rfl

/-- Texts in a row take the cells of both. -/
@[simp] theorem cellCount_append (s t : Text) : cellCount (s ++ t) = cellCount s + cellCount t := by
  induction s with
  | nil => exact (Nat.zero_add _).symm
  | cons c s ih => rw [List.cons_append, cellCount_cons, ih, cellCount_cons, Nat.add_assoc]

/-- A space takes one cell. -/
@[simp] theorem cellWidth_space : cellWidth ' ' = 1 := by decide

/-- The cells of a text in a row begin where those of the text before it end. -/
@[simp] theorem cellsFrom_append (n : Nat) (s t : Text) :
    cellsFrom n (s ++ t) = cellsFrom n s ++ cellsFrom (n + cellCount s) t := by
  induction s generalizing n with
  | nil => rfl
  | cons c s ih =>
      rw [List.cons_append, cellsFrom, ih, cellsFrom, cellCount_cons, Nat.add_assoc,
        List.append_assoc]

/-- Spaces fill one cell after the other. -/
theorem cellsFrom_replicate_space (n count : Nat) :
    cellsFrom n (List.replicate count ' ') =
      (List.range' n count).map fun cell => (cell, ' ') := by
  induction count generalizing n with
  | zero => rfl
  | succ count ih =>
      rw [List.replicate_succ, cellsFrom, cellWidth_space, ih, List.range'_succ]
      rfl

/-- The cells of a text are numbered on from the cell where it begins. -/
theorem map_fst_cellsFrom (n : Nat) (t : Text) :
    (cellsFrom n t).map Prod.fst = List.range' n (cellCount t) := by
  induction t generalizing n with
  | nil => rfl
  | cons c t ih =>
      have hfirst : ((List.range' n (cellWidth c)).map fun cell => (cell, c)).map Prod.fst =
          List.range' n (cellWidth c) := by
        rw [List.map_map]
        exact List.map_id _
      rw [cellsFrom, List.map_append, hfirst, ih, cellCount_cons, List.range'_append_1]

end Text

namespace Segment

/-- The cell after a segment. -/
def stop (segment : Segment) : Nat := segment.column + segment.text.cellCount

/-- The cells of a segment, each with the character that it shows. -/
def cells (segment : Segment) : List (Nat × Char) := segment.text.cellsFrom segment.column

end Segment

/-! ## Characters in a window -/

/-- The cell of the window where a column is shown; a column outside the window is held at its
edge. -/
def Window.cell (window : Window) (column : Nat) : Nat := min column window.right - window.left

variable {window : Window} {tabWidth column : Nat}

/-- A character that begins at `column` keeps its looks: it is in view as a whole, and no tab. -/
def Window.Keeps (window : Window) (tabWidth column : Nat) (c : Char) : Prop :=
  c ≠ '\t' ∧ window.left ≤ column ∧ advance tabWidth column c ≤ window.right

instance (c : Char) : Decidable (window.Keeps tabWidth column c) :=
  inferInstanceAs (Decidable (_ ∧ _))

/-- The cells in view of a text that begins at `column`, each with what it shows: its character, or
a space for a tab and for a character that is cut. -/
def cellsInView (window : Window) (tabWidth : Nat) : Nat → Text → List (Nat × Char)
  | _, [] => []
  | column, c :: t =>
      let next := advance tabWidth column c
      (List.range' (window.cell column) (window.cell next - window.cell column)).map
          (fun cell => (cell, if window.Keeps tabWidth column c then c else ' ')) ++
        cellsInView window tabWidth next t

/-- The text that shows what is in view of a character that begins at `column`. A character without
cells is kept. -/
def drawn (window : Window) (tabWidth column : Nat) (c : Char) : Text :=
  if advance tabWidth column c = column ∨ window.Keeps tabWidth column c then [c]
  else List.replicate (window.cell (advance tabWidth column c) - window.cell column) ' '

/-- The text that shows what is in view of a text that begins at `column`. -/
def drawnAll (window : Window) (tabWidth : Nat) : Nat → Text → Text
  | _, [] => []
  | column, c :: t =>
      drawn window tabWidth column c ++ drawnAll window tabWidth (advance tabWidth column c) t

/-- Columns come to cells of a window in the same order. -/
theorem Window.cell_le_cell {m n : Nat} (h : m ≤ n) (window : Window) :
    window.cell m ≤ window.cell n := by
  unfold cell
  omega

/-- What is drawn of texts in a row is drawn of one after the other, each from its own column. -/
@[simp] theorem drawnAll_append (s t : Text) :
    drawnAll window tabWidth column (s ++ t) =
      drawnAll window tabWidth column s ++
        drawnAll window tabWidth (advanceAll tabWidth column s) t := by
  induction s generalizing column with
  | nil => rfl
  | cons c s ih => rw [List.cons_append, drawnAll, ih, drawnAll, advanceAll_cons, List.append_assoc]

/-- The cells in view of texts in a row are those of one after the other, each from its own
column. -/
@[simp] theorem cellsInView_append (s t : Text) :
    cellsInView window tabWidth column (s ++ t) =
      cellsInView window tabWidth column s ++
        cellsInView window tabWidth (advanceAll tabWidth column s) t := by
  induction s generalizing column with
  | nil => rfl
  | cons c s ih =>
      simp only [List.cons_append, cellsInView, ih, advanceAll_cons, List.append_assoc]

/-! ## One character -/

/-- A character other than a tab moves the column on by its cells. -/
theorem advance_of_ne {c : Char} (h : c ≠ '\t') :
    advance tabWidth column c = column + cellWidth c := if_neg h

/-- A tab always goes on by a column at least. -/
theorem ne_tab_of_advance_eq {c : Char} (h : advance tabWidth column c = column) : c ≠ '\t' :=
  fun htab => advance_eq_self_iff.1 h (.inl htab)

/-- The text for a character takes the cells of the window that the character takes. -/
theorem cellsFrom_drawn (c : Char) :
    Text.cellsFrom (window.cell column) (drawn window tabWidth column c) =
      (List.range' (window.cell column)
          (window.cell (advance tabWidth column c) - window.cell column)).map
        (fun cell => (cell, if window.Keeps tabWidth column c then c else ' ')) := by
  unfold drawn
  by_cases hself : advance tabWidth column c = column
  · have hwidth : cellWidth c = 0 := by
      have hadvance := advance_of_ne (ne_tab_of_advance_eq hself) ▸ hself
      omega
    simp [hself, Text.cellsFrom, hwidth]
  · by_cases hkeeps : window.Keeps tabWidth column c
    · obtain ⟨htab, hleft, hright⟩ := hkeeps
      have hwidth : window.cell (advance tabWidth column c) - window.cell column = cellWidth c := by
        rw [advance_of_ne htab] at hright ⊢
        unfold Window.cell
        omega
      rw [if_pos (.inr ⟨htab, hleft, hright⟩), if_pos ⟨htab, hleft, hright⟩, hwidth, Text.cellsFrom,
        Text.cellsFrom, List.append_nil]
    · rw [if_neg (by simp [hself, hkeeps]), if_neg hkeeps, Text.cellsFrom_replicate_space]

/-- What is drawn of a character fills its cells in the window, no more and no less. -/
theorem cellCount_drawn (c : Char) :
    Text.cellCount (drawn window tabWidth column c) =
      window.cell (advance tabWidth column c) - window.cell column := by
  have hcells := congrArg List.length
    (Text.map_fst_cellsFrom (window.cell column) (drawn window tabWidth column c))
  rw [cellsFrom_drawn, List.length_map, List.length_map, List.length_range',
    List.length_range'] at hcells
  exact hcells.symm

/-- The text for a character holds no tab. -/
theorem not_mem_drawn (c : Char) : '\t' ∉ drawn window tabWidth column c := by
  unfold drawn
  split
  · next h =>
      have htab : c ≠ '\t' := h.elim ne_tab_of_advance_eq And.left
      exact fun hmem => htab (List.mem_singleton.1 hmem).symm
  · exact fun hmem => absurd (List.eq_of_mem_replicate hmem) (by decide)

/-! ## A text -/

/-- Behind the text for some characters stands the cell of the column behind them. -/
theorem cell_add_cellCount_drawnAll (t : Text) :
    window.cell column + Text.cellCount (drawnAll window tabWidth column t) =
      window.cell (advanceAll tabWidth column t) := by
  induction t generalizing column with
  | nil => rfl
  | cons c t ih =>
      have hle := Window.cell_le_cell (le_advance tabWidth column c) window
      rw [drawnAll, Text.cellCount_append, cellCount_drawn, advanceAll_cons, ← ih]
      omega

/-- The text for some characters shows in its cells what is in view of the characters. -/
theorem cellsFrom_drawnAll (t : Text) :
    Text.cellsFrom (window.cell column) (drawnAll window tabWidth column t) =
      cellsInView window tabWidth column t := by
  induction t generalizing column with
  | nil => rfl
  | cons c t ih =>
      have hle := Window.cell_le_cell (le_advance tabWidth column c) window
      rw [drawnAll, Text.cellsFrom_append, cellsFrom_drawn, cellCount_drawn,
        Nat.add_sub_of_le hle, ih]
      rfl

/-- Where a window ends makes no difference to a text that ends before. -/
theorem drawnAll_of_le {left right other : Nat} {t : Text}
    (hright : advanceAll tabWidth column t ≤ right)
    (hother : advanceAll tabWidth column t ≤ other) :
    drawnAll ⟨left, right⟩ tabWidth column t = drawnAll ⟨left, other⟩ tabWidth column t := by
  induction t generalizing column with
  | nil => rfl
  | cons c t ih =>
      rw [advanceAll_cons] at hright hother
      have hcolumn := le_advance tabWidth column c
      have hnext := @le_advanceAll tabWidth (advance tabWidth column c) t
      have hstopRight := Nat.le_trans hnext hright
      have hstopOther := Nat.le_trans hnext hother
      have hsame : drawn ⟨left, right⟩ tabWidth column c =
          drawn ⟨left, other⟩ tabWidth column c := by
        simp only [drawn, Window.Keeps, Window.cell, hstopRight, hstopOther,
          Nat.le_trans hcolumn hstopRight, Nat.le_trans hcolumn hstopOther, Nat.min_eq_left]
      rw [drawnAll, drawnAll, hsame, ih hright hother]

/-- Nothing is drawn as a tab. -/
theorem not_mem_drawnAll (t : Text) : '\t' ∉ drawnAll window tabWidth column t := by
  induction t generalizing column with
  | nil => exact List.not_mem_nil
  | cons c t ih => exact fun hmem => (List.mem_append.1 hmem).elim (not_mem_drawn c) ih

/-- Each cell that a character takes in the window shows it, or a space. -/
theorem mem_cellsInView {front back : Text} {c : Char} {cell : Nat}
    (hle : window.cell (advanceAll tabWidth column front) ≤ cell)
    (hlt : cell < window.cell (advance tabWidth (advanceAll tabWidth column front) c)) :
    (cell, if window.Keeps tabWidth (advanceAll tabWidth column front) c then c else ' ') ∈
      cellsInView window tabWidth column (front ++ c :: back) := by
  rw [cellsInView_append, cellsInView]
  refine List.mem_append_right _ (List.mem_append_left _ (List.mem_map.2 ⟨cell, ?_, rfl⟩))
  rw [List.mem_range'_1]
  omega

/-- Nothing is in view of characters that leave the cell where it is. -/
theorem cellsInView_eq_nil {t : Text}
    (h : window.cell (advanceAll tabWidth column t) = window.cell column) :
    cellsInView window tabWidth column t = [] := by
  have hcount := @cell_add_cellCount_drawnAll window tabWidth column t
  have hlength := congrArg List.length (Text.map_fst_cellsFrom (window.cell column)
    (drawnAll window tabWidth column t))
  rw [cellsFrom_drawnAll, List.length_map, List.length_range'] at hlength
  exact List.eq_nil_of_length_eq_zero (by omega)

end TextEditor
