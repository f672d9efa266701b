import TextEditor.Proofs.Guarded.Basic
import TextEditor.Screen.Columns

/-!
# Columns within a limit

To find the column behind a character a number is added to the column where it begins: its cells, or
the whole tab width for a tab, of which what leads past the tab stop is taken away again afterwards.
A text fits if all these sums are within a limit. What is drawn of a text stops at a column, and for
that the sums of the characters that begin before this column have to be within the limit.

Main statements: `fitsTo_cons_iff` and `fits_cons_iff`, by which both are decided.
-/

namespace TextEditor.Guarded

variable {limit : Option Nat} {tabWidth stop column : Nat} {c : Char} {s t : Text}

/-- What is added to the column where a character begins. -/
def addend (tabWidth : Nat) (c : Char) : Nat := if c = '\t' then max tabWidth 1 else cellWidth c

/-- The sum for a character is no less than the column behind it. -/
theorem advance_le (tabWidth column : Nat) (c : Char) :
    TextEditor.advance tabWidth column c ≤ column + addend tabWidth c := by
  unfold TextEditor.advance addend
  split
  · exact Nat.sub_le _ _
  · exact Nat.le_refl _

/-- Of a text that begins at `column`, the sum for each character that begins before the column
`stop` is within the limit. -/
def FitsTo (limit : Option Nat) (tabWidth stop column : Nat) (t : Text) : Prop :=
  ∀ front c back, t = front ++ c :: back → advanceAll tabWidth column front < stop →
    Within limit (advanceAll tabWidth column front + addend tabWidth c)

/-- Of a text that begins at `column`, the sum for each character is within the limit. -/
def Fits (limit : Option Nat) (tabWidth column : Nat) (t : Text) : Prop :=
  ∀ stop, FitsTo limit tabWidth stop column t

/-- Nothing is added up for an empty text. -/
theorem fitsTo_nil : FitsTo limit tabWidth stop column [] := fun front c back h =>
  absurd h.symm (List.append_ne_nil_of_right_ne_nil front (List.cons_ne_nil c back))

/-- A text fits if its first character does, and the others from the column behind it. -/
theorem fitsTo_cons_iff : FitsTo limit tabWidth stop column (c :: t) ↔
    (column < stop → Within limit (column + addend tabWidth c)) ∧
      FitsTo limit tabWidth stop (TextEditor.advance tabWidth column c) t := by
  constructor
  · intro h
    exact ⟨h [] c t rfl, fun front d back heq => h (c :: front) d back (congrArg (c :: ·) heq)⟩
  · rintro ⟨hfirst, hrest⟩ front d back heq
    cases front with
    | nil =>
        obtain ⟨rfl, -⟩ := List.cons.inj heq
        exact hfirst
    | cons e front =>
        obtain ⟨rfl, htail⟩ := List.cons.inj heq
        exact hrest front d back htail

/-- Without a limit everything fits. -/
theorem fitsTo_none : FitsTo none tabWidth stop column t := fun _ _ _ _ _ => within_none _

/-- What is drawn up to a column fits if what is drawn up to a later one does. -/
theorem FitsTo.mono {before : Nat} (h : FitsTo limit tabWidth stop column t) (hle : before ≤ stop) :
    FitsTo limit tabWidth before column t := fun front c back heq hlt =>
  h front c back heq (Nat.lt_of_lt_of_le hlt hle)

/-- The front part of what fits, fits. -/
theorem FitsTo.left (h : FitsTo limit tabWidth stop column (s ++ t)) :
    FitsTo limit tabWidth stop column s := fun front c back heq =>
  h front c (back ++ t) (by rw [heq, List.append_assoc, List.cons_append])

/-- What follows on a front part of what fits, fits from the column behind that part. -/
theorem FitsTo.right (h : FitsTo limit tabWidth stop column (s ++ t)) :
    FitsTo limit tabWidth stop (advanceAll tabWidth column s) t := fun front c back heq => by
  have hchar := h (s ++ front) c back (by rw [heq, List.append_assoc])
  rwa [advanceAll_append] at hchar

/-- A text from the column `stop` on is not drawn, so that it need not fit. -/
theorem fitsTo_of_le (h : stop ≤ column) : FitsTo limit tabWidth stop column t :=
  fun front _ _ _ hlt => absurd (Nat.le_trans h (le_advanceAll front)) (Nat.not_le_of_lt hlt)

instance instDecidableFitsTo (limit : Option Nat) (tabWidth stop : Nat) :
    (column : Nat) → (t : Text) → Decidable (FitsTo limit tabWidth stop column t)
  | _, [] => isTrue fitsTo_nil
  | column, c :: t =>
      have := instDecidableFitsTo limit tabWidth stop (TextEditor.advance tabWidth column c) t
      decidable_of_iff _ fitsTo_cons_iff.symm

/-- An empty text fits. -/
theorem fits_nil : Fits limit tabWidth column [] := fun _ => fitsTo_nil

/-- A text fits if its first character does, and the others from the column behind it. -/
theorem fits_cons_iff : Fits limit tabWidth column (c :: t) ↔
    Within limit (column + addend tabWidth c) ∧
      Fits limit tabWidth (TextEditor.advance tabWidth column c) t := by
  constructor
  · intro h
    exact ⟨(fitsTo_cons_iff.1 (h (column + 1))).1 (Nat.lt_succ_self column),
      fun stop => (fitsTo_cons_iff.1 (h stop)).2⟩
  · rintro ⟨hfirst, hrest⟩ stop
    exact fitsTo_cons_iff.2 ⟨fun _ => hfirst, hrest stop⟩

/-- Without a limit every text fits. -/
theorem fits_none : Fits none tabWidth column t := fun _ => fitsTo_none

/-- The front part of a text that fits, fits. -/
theorem Fits.left (h : Fits limit tabWidth column (s ++ t)) : Fits limit tabWidth column s :=
  fun stop => (h stop).left

/-- The column behind a text that fits is within the limit, if the column before it is. -/
theorem Fits.within (h : Fits limit tabWidth column t) (hcolumn : Within limit column) :
    Within limit (advanceAll tabWidth column t) := by
  induction t generalizing column with
  | nil => exact hcolumn
  | cons c t ih =>
      obtain ⟨hfirst, hrest⟩ := fits_cons_iff.1 h
      exact ih hrest (hfirst.mono (advance_le tabWidth column c))

/-- What fits up to a column over the limit fits as a whole. -/
theorem FitsTo.fits {largest : Nat} (h : FitsTo (some largest) tabWidth stop column t)
    (hstop : largest < stop) (hcolumn : column ≤ largest) :
    Fits (some largest) tabWidth column t := by
  induction t generalizing column with
  | nil => exact fits_nil
  | cons c t ih =>
      obtain ⟨hfirst, hrest⟩ := fitsTo_cons_iff.1 h
      have hwithin := hfirst (Nat.lt_of_le_of_lt hcolumn hstop)
      exact fits_cons_iff.2 ⟨hwithin,
        ih hrest (within_some.1 (hwithin.mono (advance_le tabWidth column c)))⟩

instance instDecidableFits (limit : Option Nat) (tabWidth : Nat) :
    (column : Nat) → (t : Text) → Decidable (Fits limit tabWidth column t)
  | _, [] => isTrue fits_nil
  | column, c :: t =>
      have := instDecidableFits limit tabWidth (TextEditor.advance tabWidth column c) t
      decidable_of_iff _ fits_cons_iff.symm

end TextEditor.Guarded
