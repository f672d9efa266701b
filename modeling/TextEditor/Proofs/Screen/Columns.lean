import Mathlib.Order.Bounds.Defs
import TextEditor.Proofs.Guarded.Columns

/-!
# Byte offsets and columns

`visualColumn` and `byteForColumn` are a Galois connection between the boundaries of a line and its
columns: the boundary below an offset is at most the byte for a column exactly if the column of the
offset is at most that column. That both are monotone, that going there and back loses nothing but
the characters without cells, and which byte a column leads to all follow from it. Where columns
have to be offsets as well, all this is so exactly in a line that fits.

Main statements: `visualColumn_le_iff`, the connection, and `columns_adjoint_iff`.
-/

namespace TextEditor

/-- A character moves the column on: it is a tab or has cells of its own. -/
def TakesCells (c : Char) : Prop := c = '\t' ∨ 0 < cellWidth c

instance (c : Char) : Decidable (TakesCells c) := inferInstanceAs (Decidable (_ ∨ _))

section Advance

variable {tabWidth column : Nat}

/-- The column moves on at the same characters wherever they begin. -/
theorem lt_advance_iff {c : Char} : column < advance tabWidth column c ↔ TakesCells c := by
  unfold advance TakesCells
  split
  · next htab =>
      have hmod : column % max tabWidth 1 < max tabWidth 1 := Nat.mod_lt _ (by omega)
      simp only [htab, true_or, iff_true]
      omega
  · next htab =>
      simp only [htab, false_or]
      omega

/-- A character without cells leaves the column where it is. -/
theorem advance_eq_self_iff {c : Char} : advance tabWidth column c = column ↔ ¬ TakesCells c := by
  have hle := le_advance tabWidth column c
  rw [← @lt_advance_iff tabWidth column c]
  omega

end Advance

namespace Text

section Offsets

variable {line : Text} {tabWidth m n : Nat}

/-! ## What stands before an offset -/

/-- What stands before an offset is a front part of what stands before a later one. -/
theorem exists_before_eq_append (h : m ≤ n) (line : Text) :
    ∃ t, line.before n = line.before m ++ t := by
  have hcut := before_append_size_add (line.before m) (line.after m) (n - line.floor m)
  have hfloor := floor_le line m
  rw [before_append_after] at hcut
  refine ⟨_, Eq.trans (congrArg _ ?_) hcut⟩
  show n = line.floor m + (n - line.floor m)
  omega

/-- A boundary after another one leaves at least the character there behind. -/
theorem add_utf8Size_le {c : Char} (hn : line.isBoundary n = true)
    (hc : (line.after m).head? = some c) (hm : line.isBoundary m = true) (hlt : m < n) :
    m + c.utf8Size ≤ n := by
  obtain ⟨front, back, rfl, rfl⟩ := isBoundary_iff.1 hm
  rw [after_append_size] at hc
  obtain ⟨rest, rfl⟩ : ∃ rest, back = c :: rest := by
    cases back with
    | nil => cases hc
    | cons d rest => exact ⟨rest, by rw [Option.some.inj hc]⟩
  -- a boundary below the end of the character would be the one in front of it
  refine Nat.le_of_not_lt fun hnear => ?_
  have hfloor : floor (front ++ c :: rest) n = front.size := by
    have h := floor_append_size_add front (c :: rest) (n - front.size)
    rw [Nat.add_sub_of_le (Nat.le_of_lt hlt)] at h
    rw [h, floor, before, if_neg (by omega), size_nil, Nat.add_zero]
  rw [floor_eq_of_isBoundary hn] at hfloor
  omega

/-! ## Columns of offsets -/

/-- An offset inside a character has the column of the character. -/
theorem visualColumn_floor (line : Text) (n tabWidth : Nat) :
    line.visualColumn (line.floor n) tabWidth = line.visualColumn n tabWidth := by
  rw [visualColumn, before_floor, visualColumn]

/-- The column where a text is cut is that behind its front part. -/
@[simp] theorem visualColumn_append_size (s t : Text) (tabWidth : Nat) :
    (s ++ t).visualColumn s.size tabWidth = advanceAll tabWidth 0 s := by
  rw [visualColumn, before_append_size]

/-- The column of the end of a line is its width. -/
@[simp] theorem visualColumn_size (line : Text) (tabWidth : Nat) :
    line.visualColumn line.size tabWidth = line.lineWidth tabWidth := by
  rw [visualColumn, before_size, lineWidth]

/-- A later offset is in no earlier column. -/
theorem visualColumn_le_visualColumn (h : m ≤ n) (line : Text) (tabWidth : Nat) :
    line.visualColumn m tabWidth ≤ line.visualColumn n tabWidth := by
  obtain ⟨t, ht⟩ := exists_before_eq_append h line
  rw [visualColumn, visualColumn, ht, advanceAll_append]
  exact le_advanceAll t

/-- Behind a character the column is where that character leads to. -/
theorem visualColumn_add_utf8Size {c : Char} (hn : line.isBoundary n = true)
    (hc : (line.after n).head? = some c) :
    line.visualColumn (n + c.utf8Size) tabWidth =
      advance tabWidth (line.visualColumn n tabWidth) c := by
  obtain ⟨front, back, rfl, rfl⟩ := isBoundary_iff.1 hn
  rw [after_append_size] at hc
  cases back with
  | nil => cases hc
  | cons d rest =>
      obtain rfl := Option.some.inj hc
      have h := visualColumn_append_size (front ++ [d]) rest tabWidth
      rw [List.append_assoc, size_append, size_cons, size_nil, Nat.add_zero] at h
      rw [visualColumn_append_size]
      simpa using h

/-- Between two boundaries the column moves on over the characters between them. -/
theorem visualColumn_between (hle : m ≤ n) (hm : line.isBoundary m = true)
    (hn : line.isBoundary n = true) :
    advanceAll tabWidth (line.visualColumn m tabWidth) (line.between m n) =
      line.visualColumn n tabWidth := by
  obtain ⟨s, t, u, rfl, rfl, rfl⟩ := exists_pieces hle hm hn
  have hstop := visualColumn_append_size (s ++ t) u tabWidth
  rw [size_append, List.append_assoc] at hstop
  rw [between_append_append, visualColumn_append_size, hstop, advanceAll_append]

/-- A character stands at every boundary inside the line. -/
theorem exists_head?_of_lt_size (h : line.isBoundary n = true) (hlt : n < line.size) :
    ∃ c, (line.after n).head? = some c := by
  obtain ⟨front, back, rfl, rfl⟩ := isBoundary_iff.1 h
  rw [after_append_size]
  cases back with
  | nil => simp at hlt
  | cons c rest => exact ⟨c, rfl⟩

end Offsets

/-! ## Bytes for columns -/

/-- The byte for a column lies behind the characters that end at or before it, at the end of the
text or at a character that ends past it. -/
theorem exists_byteFrom (tabWidth : Nat) {column target : Nat} (h : column ≤ target) (t : Text) :
    ∃ front back, t = front ++ back ∧ byteFrom tabWidth target column t = front.size ∧
      advanceAll tabWidth column front ≤ target ∧
      ∀ c ∈ back.head?, target < advance tabWidth (advanceAll tabWidth column front) c := by
  induction t generalizing column with
  | nil => exact ⟨[], [], rfl, rfl, h, fun _ hc => by cases hc⟩
  | cons c t ih =>
      unfold byteFrom
      split
      · next hlt =>
          refine ⟨[], c :: t, rfl, rfl, h, fun d hd => ?_⟩
          obtain rfl := Option.some.inj hd
          exact hlt
      · next hge =>
          obtain ⟨front, back, rfl, hsize, hle, hback⟩ := ih (Nat.le_of_not_lt hge)
          exact ⟨c :: front, back, rfl, by rw [hsize, size_cons], hle, hback⟩

section Connection

variable (line : Text) (tabWidth target : Nat)

/-- A column leads to a boundary. -/
theorem isBoundary_byteForColumn : line.isBoundary (line.byteForColumn target tabWidth) = true := by
  obtain ⟨front, back, hline, hsize, -, -⟩ := exists_byteFrom tabWidth (Nat.zero_le target) line
  exact isBoundary_iff.2 ⟨front, back, hline, hsize.symm⟩

/-- The byte for a column is in no later column. -/
theorem visualColumn_byteForColumn_le :
    line.visualColumn (line.byteForColumn target tabWidth) tabWidth ≤ target := by
  obtain ⟨front, back, rfl, hsize, hle, -⟩ :=
    exists_byteFrom tabWidth (Nat.zero_le target) line
  rw [byteForColumn, hsize, visualColumn_append_size]
  exact hle

/-- The character at the byte for a column ends past the column. -/
theorem lt_visualColumn_of_head? {c : Char}
    (hc : (line.after (line.byteForColumn target tabWidth)).head? = some c) :
    target < line.visualColumn (line.byteForColumn target tabWidth + c.utf8Size) tabWidth := by
  rw [visualColumn_add_utf8Size (isBoundary_byteForColumn line tabWidth target) hc]
  obtain ⟨front, back, rfl, hsize, -, hback⟩ :=
    exists_byteFrom tabWidth (Nat.zero_le target) line
  rw [byteForColumn, hsize] at hc ⊢
  rw [after_append_size] at hc
  rw [visualColumn_append_size]
  exact hback c hc

/-- The connection between offsets and columns: the boundary below an offset is not past the byte
for a column exactly if the column of the offset is not past the column. -/
theorem visualColumn_le_iff (n : Nat) :
    line.visualColumn n tabWidth ≤ target ↔ line.floor n ≤ line.byteForColumn target tabWidth := by
  constructor
  · intro hle
    refine Nat.le_of_not_lt fun hlt => ?_
    -- the character at the byte for the column would end before the offset and yet past the column
    have hboundary := isBoundary_byteForColumn line tabWidth target
    obtain ⟨c, hc⟩ :=
      exists_head?_of_lt_size hboundary (Nat.lt_of_lt_of_le hlt (floor_le_size line n))
    have hstep := add_utf8Size_le (isBoundary_floor line n) hc hboundary hlt
    have hmono := visualColumn_le_visualColumn hstep line tabWidth
    have hpast := lt_visualColumn_of_head? line tabWidth target hc
    rw [visualColumn_floor] at hmono
    omega
  · intro hle
    have hmono := visualColumn_le_visualColumn hle line tabWidth
    rw [visualColumn_floor] at hmono
    exact Nat.le_trans hmono (visualColumn_byteForColumn_le line tabWidth target)

/-- A line that ends at or before a column has its end there. -/
theorem byteForColumn_eq_size_iff :
    line.byteForColumn target tabWidth = line.size ↔ line.lineWidth tabWidth ≤ target := by
  have hle := le_size_of_isBoundary (isBoundary_byteForColumn line tabWidth target)
  have hconnection := visualColumn_le_iff line tabWidth target line.size
  rw [visualColumn_size, floor_of_size_le (Nat.le_refl _)] at hconnection
  rw [hconnection]
  omega

variable {target} in
/-- A later column has no earlier byte. -/
theorem byteForColumn_le_byteForColumn {target' : Nat} (h : target ≤ target') :
    line.byteForColumn target tabWidth ≤ line.byteForColumn target' tabWidth := by
  have hconnection :=
    visualColumn_le_iff line tabWidth target' (line.byteForColumn target tabWidth)
  rw [floor_eq_of_isBoundary (isBoundary_byteForColumn line tabWidth target)] at hconnection
  exact hconnection.1 (Nat.le_trans (visualColumn_byteForColumn_le line tabWidth target) h)

/-- Going from an offset to its column and back again never leads before the boundary below it. -/
theorem floor_le_byteForColumn (n : Nat) :
    line.floor n ≤ line.byteForColumn (line.visualColumn n tabWidth) tabWidth :=
  (visualColumn_le_iff line tabWidth _ n).1 (Nat.le_refl _)

/-- The byte for the column of an offset is in the column of the offset. -/
theorem visualColumn_byteForColumn (n : Nat) :
    line.visualColumn (line.byteForColumn (line.visualColumn n tabWidth) tabWidth) tabWidth =
      line.visualColumn n tabWidth := by
  refine Nat.le_antisymm (visualColumn_byteForColumn_le line tabWidth _) ?_
  have hmono :=
    visualColumn_le_visualColumn (floor_le_byteForColumn line tabWidth n) line tabWidth
  rwa [visualColumn_floor] at hmono

/-! ## There and back -/

/-- The line ends at an offset, or a character that takes cells stands there. -/
def Rests (line : Text) (n : Nat) : Prop :=
  n = line.size ∨ ∃ c, (line.after n).head? = some c ∧ TakesCells c

/-- A column leads past all marks, to a character with cells or the end of the line. -/
theorem rests_byteForColumn : line.Rests (line.byteForColumn target tabWidth) := by
  have hboundary := isBoundary_byteForColumn line tabWidth target
  rcases Nat.lt_or_ge (line.byteForColumn target tabWidth) line.size with hlt | hge
  · obtain ⟨c, hc⟩ := exists_head?_of_lt_size hboundary hlt
    have hpast := lt_visualColumn_of_head? line tabWidth target hc
    have hle := visualColumn_byteForColumn_le line tabWidth target
    rw [visualColumn_add_utf8Size hboundary hc] at hpast
    exact .inr ⟨c, hc, lt_advance_iff.1 (Nat.lt_of_le_of_lt hle hpast)⟩
  · exact .inl (Nat.le_antisymm (le_size_of_isBoundary hboundary) hge)

variable {line} in
/-- Between the boundary below an offset and the byte for its column only characters without cells
are passed over. -/
theorem byteForColumn_le_of_rests {m n : Nat} (hm : line.isBoundary m = true)
    (hle : line.floor n ≤ m) (hrests : line.Rests m) :
    line.byteForColumn (line.visualColumn n tabWidth) tabWidth ≤ m := by
  have hboundary := isBoundary_byteForColumn line tabWidth (line.visualColumn n tabWidth)
  rcases hrests with rfl | ⟨c, hc, htakes⟩
  · exact le_size_of_isBoundary hboundary
  · refine Nat.le_of_not_lt fun hlt => ?_
    have hmono := visualColumn_le_visualColumn hle line tabWidth
    have hpast :=
      visualColumn_le_visualColumn (add_utf8Size_le hboundary hc hm hlt) line tabWidth
    have hstep : line.visualColumn m tabWidth < advance tabWidth (line.visualColumn m tabWidth) c :=
      lt_advance_iff.2 htakes
    rw [visualColumn_floor] at hmono
    rw [visualColumn_add_utf8Size hm hc, visualColumn_byteForColumn] at hpast
    omega

variable {line} in
/-- The byte for the column of an offset is the first boundary from the offset on where the line
ends or a character takes cells. -/
theorem isLeast_byteForColumn (n : Nat) :
    IsLeast {m | line.isBoundary m = true ∧ line.floor n ≤ m ∧ line.Rests m}
      (line.byteForColumn (line.visualColumn n tabWidth) tabWidth) :=
  ⟨⟨isBoundary_byteForColumn line tabWidth _, floor_le_byteForColumn line tabWidth n,
      rests_byteForColumn line tabWidth _⟩,
    fun _ h => byteForColumn_le_of_rests tabWidth h.1 h.2.1 h.2.2⟩

variable {line tabWidth} in
/-- The character that a column inside the line leads to covers it. -/
theorem exists_covers {t : Nat} (h : t < line.lineWidth tabWidth) :
    ∃ c, (line.after (line.byteForColumn t tabWidth)).head? = some c ∧
      line.visualColumn (line.byteForColumn t tabWidth) tabWidth ≤ t ∧
      t < line.visualColumn (line.byteForColumn t tabWidth + c.utf8Size) tabWidth := by
  have hboundary := isBoundary_byteForColumn line tabWidth t
  have hne : line.byteForColumn t tabWidth ≠ line.size := fun heq =>
    Nat.not_le_of_lt h ((byteForColumn_eq_size_iff line tabWidth t).1 heq)
  obtain ⟨c, hc⟩ := exists_head?_of_lt_size hboundary
    (Nat.lt_of_le_of_ne (le_size_of_isBoundary hboundary) hne)
  exact ⟨c, hc, visualColumn_byteForColumn_le line tabWidth t,
    lt_visualColumn_of_head? line tabWidth t hc⟩

variable {line tabWidth} in
/-- The byte for the column of a character that takes cells is that of the character. -/
theorem byteForColumn_of_takesCells {n : Nat} {c : Char} (hc : (line.after n).head? = some c)
    (htakes : TakesCells c) :
    line.byteForColumn (line.visualColumn n tabWidth) tabWidth = line.floor n := by
  refine Nat.le_antisymm ?_ (floor_le_byteForColumn line tabWidth n)
  refine byteForColumn_le_of_rests tabWidth (isBoundary_floor line n) (Nat.le_refl _)
    (.inr ⟨c, ?_, htakes⟩)
  rw [after_floor]
  exact hc

end Connection

/-- Offsets and columns of a line are adjoint, and both ways are found by sums that are offsets. -/
structure Adjoint (line : Text) (tabWidth : Nat) : Prop where
  column : ∀ n, Guarded.visualColumn (some maxOffset) line n tabWidth =
    some (line.visualColumn n tabWidth)
  byte : ∀ t, Guarded.byteForColumn (some maxOffset) line t tabWidth =
    some (line.byteForColumn t tabWidth)
  connected : ∀ n t,
    line.visualColumn n tabWidth ≤ t ↔ line.floor n ≤ line.byteForColumn t tabWidth
  column_le_column : ∀ m n, m ≤ n → line.visualColumn m tabWidth ≤ line.visualColumn n tabWidth
  byte_le_byte : ∀ s t, s ≤ t → line.byteForColumn s tabWidth ≤ line.byteForColumn t tabWidth
  boundary : ∀ t, line.isBoundary (line.byteForColumn t tabWidth) = true
  /-- The byte for a column inside the line is that of the character that covers the column. -/
  covers : ∀ t, t < line.lineWidth tabWidth →
    ∃ c, (line.after (line.byteForColumn t tabWidth)).head? = some c ∧
      line.visualColumn (line.byteForColumn t tabWidth) tabWidth ≤ t ∧
      t < line.visualColumn (line.byteForColumn t tabWidth + c.utf8Size) tabWidth
  past : ∀ t, line.lineWidth tabWidth ≤ t → line.byteForColumn t tabWidth = line.size
  returns : ∀ n,
    line.visualColumn (line.byteForColumn (line.visualColumn n tabWidth) tabWidth) tabWidth =
      line.visualColumn n tabWidth
  /-- The byte for the column of an offset is the first boundary from the offset on where the line
  ends or a character takes cells. -/
  least : ∀ n, IsLeast {m | line.isBoundary m = true ∧ line.floor n ≤ m ∧
      (m = line.size ∨ ∃ c, (line.after m).head? = some c ∧ TakesCells c)}
    (line.byteForColumn (line.visualColumn n tabWidth) tabWidth)
  /-- So it is the boundary below the offset itself if the character there takes cells. -/
  rests : ∀ n c, (line.after n).head? = some c → TakesCells c →
    line.byteForColumn (line.visualColumn n tabWidth) tabWidth = line.floor n

/-- Offsets and columns of a line are adjoint exactly if no sum for a column of the line is over the
largest offset; the column of the end of the line needs them all. -/
theorem columns_adjoint_iff (line : Text) (tabWidth : Nat) :
    line.Adjoint tabWidth ↔ Guarded.Fits (some maxOffset) tabWidth 0 line := by
  constructor
  · intro h
    have hwhole := (Guarded.visualColumn_eq_iff line.size).1 (h.column line.size)
    rwa [before_size] at hwhole
  · intro h
    exact {
      column := Guarded.visualColumn_of_fits h
      byte := fun t => Guarded.byteForColumn_of_fitsTo (h (t + 1))
      connected := fun n t => visualColumn_le_iff line tabWidth t n
      column_le_column := fun _ _ hle => visualColumn_le_visualColumn hle line tabWidth
      byte_le_byte := fun _ _ hle => byteForColumn_le_byteForColumn line tabWidth hle
      boundary := isBoundary_byteForColumn line tabWidth
      covers := fun _ hlt => exists_covers hlt
      past := fun t hle => (byteForColumn_eq_size_iff line tabWidth t).2 hle
      returns := visualColumn_byteForColumn line tabWidth
      least := isLeast_byteForColumn tabWidth
      rests := fun _ _ hc htakes => byteForColumn_of_takesCells hc htakes }

/-- Two tabs of half as many cells as there are offsets: the sum for the second one is over the
largest offset, so that the line has no width, and its offsets and columns are not adjoint. -/
theorem not_adjoint_two_wide_tabs :
    let line : Text := "\t\t".toList
    Guarded.visualColumn (some maxOffset) line 1 9223372036854775808 = some 9223372036854775808 ∧
      Guarded.visualColumn (some maxOffset) line 2 9223372036854775808 = none ∧
      ¬ line.Adjoint 9223372036854775808 := by
  intro line
  have hnone : Guarded.visualColumn (some maxOffset) line 2 9223372036854775808 = none := by
    decide +kernel
  refine ⟨by decide +kernel, hnone, fun h => ?_⟩
  have hcolumn := h.column 2
  rw [hnone] at hcolumn
  cases hcolumn

end Text

end TextEditor
