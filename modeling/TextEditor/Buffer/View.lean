import TextEditor.Buffer.Basic

/-!
# Views of lines

A line as a renderer sees it: its number, its text, its tokens and its embedded regions.
-/

namespace TextEditor

/-- A line of a buffer with its number. -/
structure LineView where
  index : Nat
  row : Row
  deriving DecidableEq, Repr

namespace LineView

/-- The kinds of the tokens of a line and the texts under them. -/
def spans (view : LineView) : List (TokenKind × Text) :=
  view.row.tokens.map fun token => (token.kind, token.text view.row.text)

/-- What the line shows in `width` columns from `left` on. -/
def segments (view : LineView) (left width tabWidth : Nat) : List Segment :=
  visibleSegments view.row.text view.row.tokens left width tabWidth

/-- The embedded region that covers byte `offset`. -/
def regionAt? (view : LineView) (offset : Nat) : Option Region :=
  view.row.regions.find? fun region => region.span.start ≤ offset && offset < region.span.stop

end LineView

namespace LineBuffer

/-- The view of a line. -/
def view? (buffer : LineBuffer) (index : Nat) : Option LineView :=
  (buffer.line? index).map fun text => ⟨index, text, buffer.tokens index, buffer.regions index⟩

/-- The views of the lines from `start` up to `stop`, as far as there are such lines. -/
def views (buffer : LineBuffer) (start stop : Nat) : List LineView :=
  let stop := min stop buffer.length
  let start := min start stop
  (List.range' start (stop - start)).filterMap buffer.view?

end LineBuffer

end TextEditor
