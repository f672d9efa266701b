import TextEditor.Buffer.Basic

/-!
# Checking a buffer

What every buffer keeps: it has a line, there are as many lists of tokens and of regions as there
are lines, no line holds a terminator, the tokens of a line are stretches of whole characters one
after the other, and tokens and regions are those that the highlighter finds. `violation?` names the
first thing that is not so.
-/

namespace TextEditor

/-- A way in which a line of a buffer can be wrong. -/
inductive RowFault where
  | terminator
  | tokenOutOfBounds
  | tokensOverlap
  | tokenSplitsCharacter
  | regionOutOfBounds
  | stale
  deriving DecidableEq, Repr

/-- A way in which a buffer can be wrong. -/
inductive BufferFault where
  | noLines
  | lengths (lines tokenLists regionLists : Nat)
  | row (index : Nat) (fault : RowFault)
  deriving DecidableEq, Repr

/-- A phrase for what is wrong with a line. -/
def RowFault.phrase : RowFault → String
  | .terminator => "contains a line terminator"
  | .tokenOutOfBounds => "token out of bounds"
  | .tokensOverlap => "token overlaps"
  | .tokenSplitsCharacter => "token splits a char"
  | .regionOutOfBounds => "context out of bounds"
  | .stale => "annotations are stale"

/-- A sentence for what is wrong with a buffer. -/
def BufferFault.message : BufferFault → String
  | .noLines => "buffer has no lines"
  | .lengths lines tokenLists regionLists =>
      "length mismatch: " ++ toString lines ++ " lines, " ++ toString tokenLists ++
        " token lists, " ++ toString regionLists ++ " context lists"
  | .row index .terminator => "line " ++ toString index ++ " contains a line terminator"
  | .row index fault => "line " ++ toString index ++ ": " ++ fault.phrase

/-- What is wrong with the tokens of a line from byte `n` on. -/
def tokensFault? (line : Text) : Nat → List Token → Option RowFault
  | _, [] => none
  | n, token :: tokens =>
      if token.span.isEmpty || line.size < token.span.stop then some .tokenOutOfBounds
      else if token.span.start < n then some .tokensOverlap
      else if !(line.isBoundary token.span.start && line.isBoundary token.span.stop) then
        some .tokenSplitsCharacter
      else tokensFault? line token.span.stop tokens

/-- What is wrong with a line. -/
def Row.fault? (row : Row) (highlighter : Highlighter) : Option RowFault :=
  if row.text.hasTerminator then some .terminator
  else match tokensFault? row.text 0 row.tokens with
    | some fault => some fault
    | none =>
        if row.regions.any fun r => r.span.isEmpty || row.text.size < r.span.stop then
          some .regionOutOfBounds
        else if row ≠ highlighter.row row.text then some .stale
        else none

/-- What is wrong with a buffer. -/
def LineBuffer.violation? (buffer : LineBuffer) : Option BufferFault :=
  if buffer.lines.isEmpty then some .noLines
  else if buffer.tokenLists.length ≠ buffer.length ∨ buffer.regionLists.length ≠ buffer.length then
    some (.lengths buffer.length buffer.tokenLists.length buffer.regionLists.length)
  else buffer.rows.zipIdx.findSome? fun (row, index) =>
    (row.fault? buffer.highlighter).map (.row index)

end TextEditor
