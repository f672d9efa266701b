/-!
# Text and byte offsets

A text is the list of its characters. Every offset in the editor counts bytes of the UTF-8
encoding, so an offset may fall inside a character; `floor` moves it back to the boundary before.
`before` and `after` cut a text at the floor of an offset.

Main statements: `before_append_after` says a cut loses nothing, `size_append` that sizes add up,
and `floor_le` and `floor_floor` that flooring goes back and only once.
-/

namespace TextEditor

/-- A text is the list of its characters. -/
abbrev Text := List Char

namespace Text

/-- Number of bytes in the UTF-8 encoding of a text. -/
def size : Text → Nat
  | [] => 0
  | c :: t => c.utf8Size + size t

/-- The characters of `t` that end at or before byte `n`. -/
def before : Text → Nat → Text
  | [], _ => []
  | c :: t, n => if c.utf8Size ≤ n then c :: before t (n - c.utf8Size) else []

/-- The characters of `t` that are not in `before t n`. -/
def after : Text → Nat → Text
  | [], _ => []
  | c :: t, n => if c.utf8Size ≤ n then after t (n - c.utf8Size) else c :: t

/-- The last character boundary of `t` at or before byte `n`; the size of `t` when `n` is past its
end. -/
def floor (t : Text) (n : Nat) : Nat := size (before t n)

/-- Whether byte `n` of `t` is a character boundary. -/
def isBoundary (t : Text) (n : Nat) : Bool := floor t n == n

/-- The text between two offsets, both floored; empty when they cross. -/
def between (t : Text) (start stop : Nat) : Text :=
  before (after t start) (stop - floor t start)

/-- The text between two offsets, provided that both are boundaries in order. -/
def slice? (t : Text) (start stop : Nat) : Option Text :=
  if start ≤ stop && isBoundary t start && isBoundary t stop then some (between t start stop)
  else none

/-- Byte offset of the first occurrence of `needle` in a text. -/
def find? (needle : Text) : Text → Option Nat
  | [] => if needle.isEmpty then some 0 else none
  | c :: t =>
      if needle.isPrefixOf (c :: t) then some 0
      else (find? needle t).map (c.utf8Size + ·)

/-- An empty text takes no bytes. -/
@[simp] theorem size_nil : size [] = 0 := rfl

/-- A text takes the bytes of its first character and of the others. -/
@[simp] theorem size_cons (c : Char) (t : Text) : size (c :: t) = c.utf8Size + size t := rfl

/-- The size of a concatenation is the sum of the sizes. -/
@[simp] theorem size_append (s t : Text) : size (s ++ t) = size s + size t := by
  induction s with
  | nil => simp
  | cons c s ih => simp [ih, Nat.add_assoc]

/-- Cutting a text and joining the two halves gives the text back. -/
@[simp] theorem before_append_after (t : Text) (n : Nat) : before t n ++ after t n = t := by
  induction t generalizing n with
  | nil => rfl
  | cons c t ih =>
      by_cases h : c.utf8Size ≤ n
      · simp [before, after, h, ih]
      · simp [before, after, h]

/-- Flooring never moves an offset forward. -/
theorem floor_le (t : Text) (n : Nat) : floor t n ≤ n := by
  induction t generalizing n with
  | nil => simp [floor, before]
  | cons c t ih =>
      by_cases h : c.utf8Size ≤ n
      · have := ih (n - c.utf8Size)
        simp only [floor, before, h, if_true, size_cons] at this ⊢
        omega
      · simp [floor, before, h]

/-- A floored offset stays inside the text. -/
theorem floor_le_size (t : Text) (n : Nat) : floor t n ≤ size t := by
  have h := congrArg size (before_append_after t n)
  rw [size_append] at h
  unfold floor
  omega

/-- Cutting at the floor of an offset is cutting at the offset. -/
theorem before_floor (t : Text) (n : Nat) : before t (floor t n) = before t n := by
  induction t generalizing n with
  | nil => rfl
  | cons c t ih =>
      by_cases h : c.utf8Size ≤ n
      · have := ih (n - c.utf8Size)
        unfold floor at this
        simp [floor, before, h, this]
      · simp only [floor, before, h, if_false, size_nil]
        have : ¬ c.utf8Size ≤ 0 := by
          have := Char.utf8Size_pos c
          omega
        simp [this]

/-- Flooring a floored offset changes nothing. -/
@[simp] theorem floor_floor (t : Text) (n : Nat) : floor t (floor t n) = floor t n := by
  show size (before t (floor t n)) = size (before t n)
  rw [before_floor]

end Text

end TextEditor
