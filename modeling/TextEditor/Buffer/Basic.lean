import TextEditor.Highlighter
import TextEditor.Log
import TextEditor.Screen.Segments
import TextEditor.Text.Lines

/-!
# Line buffer

The text being edited, line by line, and beside the lines two lists of the same length: the tokens
of each line, and its embedded regions. An operation changes the entries of the lines that it
touches in all three lists and leaves those of the other lines alone.

Line numbers past the end stand for the last line, and offsets for the character boundary at or
before them. Text that holds line terminators makes several lines, so that no line ever holds one.
-/

namespace TextEditor

/-- A line with what is known of it. -/
structure Row where
  text : Text
  tokens : List Token
  regions : List Region
  deriving DecidableEq, Repr

/-- The line with the tokens and regions that a highlighter finds in it. -/
def Highlighter.row (highlighter : Highlighter) (text : Text) : Row :=
  let found := highlighter.highlight text
  ⟨text, found.tokens, found.regions⟩

/-- A line and a byte offset in it. -/
structure Position where
  line : Nat
  column : Nat
  deriving DecidableEq, Repr

/-- The lines of a text, the tokens and the regions of each line, and the highlighter that finds
them. -/
structure LineBuffer where
  lines : List Text
  tokenLists : List (List Token)
  regionLists : List (List Region)
  highlighter : Highlighter
  deriving DecidableEq, Repr

namespace LineBuffer

/-- A buffer of one empty line. -/
def empty (highlighter : Highlighter) : LineBuffer := ⟨[[]], [[]], [[]], highlighter⟩

/-- Number of lines. -/
def length (buffer : LineBuffer) : Nat := buffer.lines.length

/-- The lines, each with its tokens and regions. -/
def rows (buffer : LineBuffer) : List Row :=
  List.zipWith (fun text (tokens, regions) => ⟨text, tokens, regions⟩) buffer.lines
    (buffer.tokenLists.zip buffer.regionLists)

/-- The text of a line. -/
def line? (buffer : LineBuffer) (index : Nat) : Option Text := buffer.lines[index]?

/-- The text of a line; empty past the end. -/
def line (buffer : LineBuffer) (index : Nat) : Text := (buffer.line? index).getD []

/-- The size of a line; zero past the end. -/
def lineSize (buffer : LineBuffer) (index : Nat) : Nat := (buffer.line index).size

/-- The tokens of a line; none past the end. -/
def tokens (buffer : LineBuffer) (index : Nat) : List Token :=
  (buffer.tokenLists[index]?).getD []

/-- The embedded regions of a line; none past the end. -/
def regions (buffer : LineBuffer) (index : Nat) : List Region :=
  (buffer.regionLists[index]?).getD []

/-- The language of the buffer. -/
def language (buffer : LineBuffer) : Language := buffer.highlighter.language

/-- The whole text, with line feeds between the lines. -/
def serialize (buffer : LineBuffer) : Text := Text.joinLines buffer.lines

/-- The line that a line number stands for. -/
def clampLine (buffer : LineBuffer) (index : Nat) : Nat := min index (buffer.length - 1)

/-- A line number of a buffer with lines stands for one of them. -/
theorem clampLine_lt {buffer : LineBuffer} (h : buffer.lines ≠ []) (index : Nat) :
    buffer.clampLine index < buffer.length := by
  have : 0 < buffer.lines.length := List.length_pos_iff.2 h
  unfold clampLine length
  omega

/-- The number of a line stands for itself. -/
theorem clampLine_of_lt {buffer : LineBuffer} {index : Nat} (h : index < buffer.length) :
    buffer.clampLine index = index := by
  unfold clampLine
  omega

/-- The numbers of the lines that hold a text; none for the empty text. -/
def find (buffer : LineBuffer) (needle : Text) : List Nat :=
  if needle.isEmpty then []
  else buffer.lines.zipIdx.filterMap fun (line, index) =>
    if (Text.find? needle line).isSome then some index else none

/-- The record of a buffer all of whose lines have been highlighted afresh. -/
def retokenized (buffer : LineBuffer) : LogRecord :=
  ⟨.debug, "buffer", "re-tokenized " ++ toString buffer.length ++ " lines as " ++
    buffer.language.displayName⟩

end LineBuffer

end TextEditor
