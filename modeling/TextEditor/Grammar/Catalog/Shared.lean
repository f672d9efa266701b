import TextEditor.Grammar.Table

/-!
# Pieces that several grammars share
-/

namespace TextEditor.Catalog

/-- Keywords that open a block in the languages with braces. -/
def cFamilyBlockKeywords : List String :=
  ["if", "else", "elif", "while", "for", "switch", "case", "default", "try", "catch", "finally",
   "function", "class", "struct", "interface", "do", "foreach", "match", "impl", "trait", "mod",
   "fn", "el"]

/-- Comments from two slashes to the end of the line, and comments between slash and star; one that
is not closed goes to the end of the line. -/
def slashComments : String := "//.*$|/\\*.*?(?:\\*/|$)"

/-- Hexadecimal, binary and decimal numbers with whatever letters follow them. -/
def cNumber : String :=
  "\\b(?:0[xX][0-9a-fA-F_]+|0[bB][01_]+|\\d[\\d_]*(?:\\.\\d+)?(?:[eE][+-]?\\d+)?)\\w*"

end TextEditor.Catalog
