import TextEditor.Screen.Columns
import TextEditor.Screen.Viewport
import TextEditor.Token

/-!
# Segments of a line

What a line shows in a window of columns: runs of text, one for each token and each gap between
tokens, with the column of the window where they begin. Tabs become spaces, and so do the cells of a
character that is only partly in view.
-/

namespace TextEditor

/-- A run of text on the screen. -/
structure Segment where
  /-- The column of the window where the run begins. -/
  column : Nat
  text : Text
  /-- The token that the run belongs to; none between tokens. -/
  token : Option Token
  deriving DecidableEq, Repr

/-- The cells of a segment. -/
def Segment.width (segment : Segment) : Nat := segment.text.displayWidth

/-- A stretch of a line with its token, if there is one. -/
structure Piece where
  span : Span
  token : Option Token
  deriving DecidableEq, Repr

/-- The pieces of a line from byte `n` on: the tokens, cut where they begin before `n` or end past
the line and left out where nothing or half a character remains, and the gaps between them. -/
def piecesFrom (line : Text) : Nat → List Token → List Piece
  | n, [] => if n < line.size then [⟨⟨n, line.size⟩, none⟩] else []
  | n, token :: tokens =>
      let start := max token.span.start n
      let stop := min token.span.stop line.size
      if start < stop && line.isBoundary start && line.isBoundary stop then
        (if n < start then [⟨⟨n, start⟩, none⟩] else []) ++
          ⟨⟨start, stop⟩, some token⟩ :: piecesFrom line stop tokens
      else piecesFrom line n tokens

/-- The columns that are shown, from `left` up to `right`, `right` excluded. -/
structure Window where
  left : Nat
  right : Nat
  deriving DecidableEq, Repr

/-- A segment being painted: the column of the line reached, the column of the window where the
segment begins if something of it is in view, and its text. -/
structure Painting where
  reached : Nat
  column : Option Nat
  text : Text
  deriving DecidableEq, Repr

namespace Painting

/-- The painting with one more character. A mark is kept when it follows something in view. -/
def add (window : Window) (tabWidth : Nat) (painting : Painting) (c : Char) : Painting :=
  let next := advance tabWidth painting.reached c
  let shownStart := max painting.reached window.left
  let shownStop := min next window.right
  if shownStart < shownStop then
    { reached := next
      column := some (painting.column.getD (shownStart - window.left))
      text := painting.text ++
        if c = '\t' ∨ shownStop - shownStart < next - painting.reached then
          List.replicate (shownStop - shownStart) ' '
        else [c] }
  else if next = painting.reached ∧ painting.column.isSome then
    { painting with reached := next, text := painting.text ++ [c] }
  else { painting with reached := next }

/-- The painting with the characters of a text, up to the first that reaches the right edge. -/
def addAll (window : Window) (tabWidth : Nat) (painting : Painting) : Text → Painting
  | [] => painting
  | c :: t =>
      let painting := painting.add window tabWidth c
      if window.right ≤ painting.reached then painting else painting.addAll window tabWidth t

end Painting

/-- The segments of pieces of a line, the first of which begins at `column`. -/
def paintPieces (line : Text) (window : Window) (tabWidth column : Nat) : List Piece → List Segment
  | [] => []
  | piece :: pieces =>
      if window.right ≤ column then []
      else
        let painting := Painting.addAll window tabWidth ⟨column, none, []⟩
          (line.between piece.span.start piece.span.stop)
        (painting.column.map fun shown => ⟨shown, painting.text, piece.token⟩).toList ++
          paintPieces line window tabWidth painting.reached pieces

/-- What a line with its tokens shows in `width` columns from `left` on. -/
def visibleSegments (line : Text) (tokens : List Token) (left width tabWidth : Nat) :
    List Segment :=
  paintPieces line ⟨left, addCapped left width⟩ tabWidth 0 (piecesFrom line 0 tokens)

end TextEditor
