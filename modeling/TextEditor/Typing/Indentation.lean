import TextEditor.Grammar.Table

/-!
# Indentation

A new line begins with the blanks of the line before and, if that opens a block, one unit more. A
line opens a block when it ends in an opening bracket, a colon, an opening tag or a block keyword,
as far as the rules of its language have it so. A line that begins with a closing bracket gives one
unit back.
-/

namespace TextEditor

/-- Space or tab. -/
def isIndentChar (c : Char) : Bool := c == ' ' || c == '\t'

/-- Letters and digits of ASCII and the underscore, of which keywords consist. -/
def isIdentChar (c : Char) : Bool := c.isAlphanum || c == '_'

/-- The characters whose closing begins a line further left. -/
def isClosingBracket (c : Char) : Bool := c == '}' || c == ']' || c == ')'

/-- The characters that open a block at the end of any line. -/
def isOpeningBracket (c : Char) : Bool := c == '{' || c == '[' || c == '('

namespace Text

/-- The spaces and tabs at the start of a line. -/
def leadingBlanks (line : Text) : Text := line.takeWhile isIndentChar

/-- Whether a text ends in a word that is not the end of a longer one. -/
def endsWithWord (t word : Text) : Bool :=
  match dropSuffix? word t with
  | none => false
  | some head => !head.getLast?.any isIdentChar

/-- Whether a line that has been trimmed ends in a tag and opens more tags than it closes. -/
def opensMarkupTag (line : Text) : Bool :=
  let closing := countOf ['<', '/'] line
  line.endsIn ['>'] && !line.endsIn ['/', '>'] && !line.endsIn ['-', '-', '>'] &&
    (find? ['<', '!'] line).isNone && closing < countOf ['<'] line - closing

/-- An indentation with its last unit taken off: one tab, or spaces up to the width of one. -/
def dedent (indent : Text) (tabWidth : Nat) : Text :=
  match indent.getLast? with
  | some '\t' => indent.dropLast
  | _ =>
      let spaces := (indent.reverse.takeWhile (· == ' ')).length
      indent.take (indent.length - min spaces (max tabWidth 1))

end Text

namespace IndentRules

/-- Whether a keyword stands at the end of a trimmed line in lower case, as the rules ask for. -/
def endsWithKeyword (rules : IndentRules) (line keyword : Text) : Bool :=
  match rules.blockStyle with
  | .bare => line.endsWithWord keyword
  | .colon =>
      (Text.dropSuffix? [':'] line).any fun head => (Text.trimRight head).endsWithWord keyword
  | .bareOrBrace =>
      line.endsWithWord keyword ||
        (Text.dropSuffix? [' ', '{'] line).any fun head => head.endsWithWord keyword

/-- Whether a line opens a block. -/
def opensBlock (rules : IndentRules) (line : Text) : Bool :=
  let line := line.trim
  match line.getLast? with
  | none => false
  | some last =>
      isOpeningBracket last || (last == ':' && rules.colonBlocks) ||
        (rules.markupTags && line.opensMarkupTag) ||
        rules.blockKeywords.any fun keyword =>
          rules.endsWithKeyword line.toAsciiLower keyword.toList

/-- The indentation of the line after a line. -/
def nextIndent (rules : IndentRules) (line unit : Text) : Text :=
  line.leadingBlanks ++ if rules.opensBlock line then unit else []

end IndentRules

end TextEditor
