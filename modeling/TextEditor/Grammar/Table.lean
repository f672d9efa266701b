import TextEditor.Token

/-!
# Grammar tables

A grammar is written down as a table: keywords, the pattern that finds words, three lists of rules
that recognise tokens, the rules that find regions in other languages, and when to indent.
-/

namespace TextEditor

/-- What a match of a written pattern is recognised as. -/
structure TableRule where
  kind : TokenKind
  pattern : String
  deriving DecidableEq, Repr

/-- The language of what a written pattern finds. -/
structure TableEmbed where
  language : Language
  pattern : String
  deriving DecidableEq, Repr

/-- How a keyword that opens a block stands at the end of its line. -/
inductive BlockStyle where
  /-- As the last word. -/
  | bare
  /-- As the last word before a colon. -/
  | colon
  /-- As the last word, or before a blank and an opening brace. -/
  | bareOrBrace
  deriving DecidableEq, Repr, Inhabited

/-- When a line opens a block, so that the line after it is indented. -/
structure IndentRules where
  blockKeywords : List String
  blockStyle : BlockStyle
  /-- Whether any line that ends in a colon opens a block. -/
  colonBlocks : Bool
  /-- Whether a line that ends in an opening tag opens a block. -/
  markupTags : Bool
  deriving DecidableEq, Repr

/-- Only brackets open blocks. -/
def IndentRules.bracketsOnly : IndentRules := ⟨[], .bare, false, false⟩

/-- A grammar as it is written down. -/
structure GrammarTable where
  language : Language
  keywords : List String := []
  /-- Whether a word in capitals is a keyword when its lower-case form is listed. -/
  foldKeywordCase : Bool := false
  /-- The pattern that finds the words to compare with the keywords, if not the usual one. -/
  word : Option String := none
  /-- Rules for strings, comments and the like, which a scan from left to right applies. -/
  literals : List TableRule := []
  patterns : List TableRule := []
  /-- Rules that come last, after all patterns. -/
  refinements : List TableRule := []
  embeds : List TableEmbed := []
  indent : IndentRules := .bracketsOnly
  deriving DecidableEq, Repr

end TextEditor
