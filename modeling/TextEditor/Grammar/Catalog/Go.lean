import TextEditor.Grammar.Catalog.Shared

/-!
# The grammar of Go
-/

namespace TextEditor.Catalog

/-- The keywords of Go. -/
def goKeywords : List String :=
  ["break", "case", "chan", "const", "continue", "default", "defer", "else", "fallthrough", "for",
   "func", "go", "goto", "if", "import", "interface", "map", "package", "range", "return",
   "select", "struct", "switch", "type", "var", "bool", "byte", "complex64", "complex128",
   "error", "float32", "float64", "int", "int8", "int16", "int32", "int64", "rune", "string",
   "uint", "uint8", "uint16", "uint32", "uint64", "uintptr", "true", "false", "iota", "nil",
   "append", "cap", "close", "complex", "copy", "delete", "imag", "len", "make", "new", "panic",
   "print", "println", "real", "recover"]

/-- The grammar of Go. -/
def go : GrammarTable where
  language := .go
  keywords := goKeywords
  literals := [
    ⟨.string, "\"(?:[^\"\\\\]|\\\\.)*\"|`[^`]*`|'(?:[^'\\\\]|\\\\.)*'"⟩,
    ⟨.comment, slashComments⟩]
  patterns := [
    ⟨.number, cNumber⟩,
    ⟨.operator, ":=|<-|\\.\\.\\.|[+\\-*/=<>!&|^%]+"⟩,
    ⟨.namespaceName, "\\bpackage\\s+([a-zA-Z_]\\w*)"⟩,
    ⟨.method, "\\.([a-zA-Z_]\\w*)\\s*\\("⟩,
    ⟨.function, "\\b([a-zA-Z_]\\w*)\\s*\\("⟩,
    ⟨.constant, "\\b[A-Z][A-Z0-9_]*\\b"⟩,
    ⟨.typeName, "\\b[A-Z]\\w*\\b"⟩,
    ⟨.property, "\\.([a-zA-Z_]\\w*)"⟩,
    ⟨.variableName, "\\b[a-z_]\\w*\\b"⟩]
  refinements := [
    ⟨.typeName, "\\b([A-Z]\\w*)\\s+\\w+"⟩,
    ⟨.function, "func\\s+\\(.*?\\)\\s+(\\w+)"⟩]
  indent := ⟨cFamilyBlockKeywords, .bare, false, false⟩

end TextEditor.Catalog
