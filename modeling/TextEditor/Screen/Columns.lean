import TextEditor.Unicode.CellWidth

/-!
# Visual columns

The cells of a line are numbered from zero. A tab reaches to the next multiple of the tab width, any
other character takes its own cells. `visualColumn` leads from bytes to cells and `byteForColumn`
back. Columns are numbers of any size here; where the sums that lead to them have to be offsets,
`Guarded.advance` has a value only if they are.

Main statement: `le_advance`, no character moves the column back.
-/

namespace TextEditor

/-- The column after a character that begins at `column`; a tab width of zero counts as one. -/
def advance (tabWidth column : Nat) (c : Char) : Nat :=
  if c = '\t' then column + max tabWidth 1 - column % max tabWidth 1 else column + cellWidth c

/-- The column after the characters of a text that begins at `column`. -/
def advanceAll (tabWidth column : Nat) (t : Text) : Nat := t.foldl (advance tabWidth) column

/-- No character moves the column back. -/
theorem le_advance (tabWidth column : Nat) (c : Char) : column ≤ advance tabWidth column c := by
  unfold advance
  split
  · have : column % max tabWidth 1 < max tabWidth 1 := Nat.mod_lt _ (by omega)
    omega
  · omega

section Advance

variable {tabWidth column : Nat}

/-- An empty text leaves the column where it is. -/
@[simp] theorem advanceAll_nil : advanceAll tabWidth column [] = column := rfl

/-- The first character moves the column on before the others do. -/
@[simp] theorem advanceAll_cons (c : Char) (t : Text) :
    advanceAll tabWidth column (c :: t) = advanceAll tabWidth (advance tabWidth column c) t := rfl

/-- A text moves the column on from where the text before it has led. -/
@[simp] theorem advanceAll_append (s t : Text) :
    advanceAll tabWidth column (s ++ t) = advanceAll tabWidth (advanceAll tabWidth column s) t :=
  List.foldl_append

/-- No text moves the column back. -/
theorem le_advanceAll (t : Text) : column ≤ advanceAll tabWidth column t := by
  induction t generalizing column with
  | nil => exact Nat.le_refl _
  | cons c t ih => exact Nat.le_trans (le_advance tabWidth column c) ih

end Advance

namespace Text

/-- The column of the character at the floor of byte `n`. -/
def visualColumn (line : Text) (n tabWidth : Nat) : Nat := advanceAll tabWidth 0 (line.before n)

/-- The byte offset of the first character that ends past the column `target`, where the text begins
at `column`. -/
def byteFrom (tabWidth target : Nat) : Nat → Text → Nat
  | _, [] => 0
  | column, c :: t =>
      if target < advance tabWidth column c then 0
      else c.utf8Size + byteFrom tabWidth target (advance tabWidth column c) t

/-- The byte offset of the character that covers a column; the size of a line that ends before. -/
def byteForColumn (line : Text) (target tabWidth : Nat) : Nat := byteFrom tabWidth target 0 line

/-- The number of cells of a line. -/
def lineWidth (line : Text) (tabWidth : Nat) : Nat := advanceAll tabWidth 0 line

/-- The text with spaces in place of tabs, where it begins at `column`. -/
def expandFrom (tabWidth : Nat) : Nat → Text → Text
  | _, [] => []
  | column, c :: t =>
      let next := advance tabWidth column c
      (if c = '\t' then List.replicate (next - column) ' ' else [c]) ++ expandFrom tabWidth next t

/-- The line with spaces in place of tabs. -/
def expandTabs (line : Text) (tabWidth : Nat) : Text := expandFrom tabWidth 0 line

end Text

end TextEditor
