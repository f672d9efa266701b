import TextEditor.Typing.Indentation

/-!
# Word jumps

Words in the sense of a jump are the stretches between spaces and tabs. A jump to the left goes over
blanks and then to the start of the word before them, a jump to the right over blanks and then to
the end of the word after them.
-/

namespace TextEditor.Text

/-- The characters of a text that begin before byte `n`. -/
def begunBefore : Text → Nat → Text
  | [], _ => []
  | c :: t, n => if 0 < n then c :: begunBefore t (n - c.utf8Size) else []

/-- The start of the word before byte `n`. -/
def previousWordStart (line : Text) (n : Nat) : Nat :=
  size (((begunBefore line n).reverse.dropWhile isIndentChar).dropWhile (!isIndentChar ·))

/-- The end of the word after byte `n`. -/
def nextWordEnd (line : Text) (n : Nat) : Nat :=
  size line -
    size (((after line n).dropWhile isIndentChar).dropWhile (!isIndentChar ·))

end TextEditor.Text
