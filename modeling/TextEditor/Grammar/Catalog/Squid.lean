import TextEditor.Grammar.Table

/-!
# The grammar of Squid++
-/

namespace TextEditor.Catalog

/-- The keywords of Squid++. -/
def squidKeywords : List String :=
  ["var", "suppress", "def", "if", "el", "elif", "while", "for", "return", "true", "false",
   "null", "break", "continue", "include", "pkg_create", "pkg_list", "pkg_remove", "i2fl", "fl2i",
   "write", "read", "cat", "append", "tp", "abs", "sqrt", "pow", "sin", "cos", "upper", "lower",
   "trim", "env", "exec", "sleep", "now"]

/-- The keywords of Squid++ that open a block. -/
def squidBlockKeywords : List String :=
  ["if", "el", "elif", "while", "for", "def"]

/-- The grammar of Squid++. -/
def squid : GrammarTable where
  language := .squid
  keywords := squidKeywords
  literals := [
    ⟨.string, "\"(?:[^\"\\\\]|\\\\.)*\"?"⟩,
    ⟨.comment, "#[^#]*#?"⟩]
  patterns := [
    ⟨.number, "'\\d*\\.?\\d+|\\b\\d+(?:\\.\\d+)?(?:[eE][+-]?\\d+)?\\b"⟩,
    ⟨.function, "\\bvar\\s+([a-zA-Z_]\\w*)\\s*=\\s*def\\b"⟩,
    ⟨.function, "\\b([a-zA-Z_]\\w*)\\s*\\("⟩,
    ⟨.operator, "==|!=|<=|>=|&&|\\|\\||[+\\-*/=<>!%]"⟩,
    ⟨.delimiter, "[\x7b\x7d\\[\\]();,]"⟩,
    ⟨.constant, "\\b[A-Z][A-Z0-9_]+\\b"⟩,
    ⟨.variableName, "\\b[a-zA-Z_]\\w*\\b"⟩]
  refinements := [
    ⟨.variableName, "var\\s+(\\w+)\\s*="⟩,
    ⟨.number, "'[0-9]*\\.?[0-9]+"⟩]
  indent := ⟨squidBlockKeywords, .bareOrBrace, false, false⟩

end TextEditor.Catalog
