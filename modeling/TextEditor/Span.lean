import TextEditor.Text

/-!
# Spans

A span is a half-open range of byte offsets in a line.

Main statement: `overlaps_comm`, overlapping is symmetric.
-/

namespace TextEditor

/-- The bytes from `start` up to `stop`, `stop` excluded. -/
structure Span where
  start : Nat
  stop : Nat
  deriving DecidableEq, Repr, Inhabited

namespace Span

/-- Number of bytes; zero when the ends are crossed. -/
def length (s : Span) : Nat := s.stop - s.start

/-- Whether the span holds no byte. -/
def isEmpty (s : Span) : Bool := s.stop ≤ s.start

/-- Whether `t` lies inside `s`. -/
def contains (s t : Span) : Bool := s.start ≤ t.start && t.stop ≤ s.stop

/-- Whether two spans each begin before the other ends. -/
def overlaps (s t : Span) : Bool := s.start < t.stop && t.start < s.stop

/-- The span moved to the right. -/
def shift (s : Span) (offset : Nat) : Span := ⟨s.start + offset, s.stop + offset⟩

/-- The text under a span; `none` if the span leaves the line or cuts a character. -/
def text? (s : Span) (line : Text) : Option Text := line.slice? s.start s.stop

/-- Overlapping is symmetric. -/
theorem overlaps_comm (s t : Span) : s.overlaps t = t.overlaps s := by
  simp [overlaps, Bool.and_comm]

end Span

end TextEditor
