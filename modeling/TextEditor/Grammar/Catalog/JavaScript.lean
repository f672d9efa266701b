import TextEditor.Grammar.Catalog.Shared

/-!
# The grammar of JavaScript
-/

namespace TextEditor.Catalog

/-- The keywords of JavaScript. -/
def javaScriptKeywords : List String :=
  ["break", "case", "catch", "class", "const", "continue", "debugger", "default", "delete", "do",
   "else", "export", "extends", "finally", "for", "function", "if", "import", "in", "instanceof",
   "let", "new", "return", "super", "switch", "this", "throw", "try", "typeof", "var", "void",
   "while", "with", "yield", "true", "false", "null", "undefined", "async", "await", "of",
   "static", "get", "set"]

/-- The grammar of JavaScript. -/
def javaScript : GrammarTable where
  language := .javaScript
  keywords := javaScriptKeywords
  literals := [
    ⟨.string, "\"(?:[^\"\\\\]|\\\\.)*\"|'(?:[^'\\\\]|\\\\.)*'|`(?:[^`\\\\]|\\\\.)*`"⟩,
    ⟨.comment, slashComments⟩]
  patterns := [
    ⟨.number,
      "\\b(?:0[xX][0-9a-fA-F_]+|0[bB][01_]+|0[oO][0-7_]+" ++
        "|\\d[\\d_]*(?:\\.\\d+)?(?:[eE][+-]?\\d+)?)n?\\b"⟩,
    ⟨.regex,
      "(?:^|[=(,:;!&|?\x7b\x7d\\[]\\s*)(/(?:[^/\\\\*\\s]|\\\\.)(?:[^/\\\\]|\\\\.)*/[dgimsuy]*)"⟩,
    ⟨.operator, "\\.\\.\\.|[+\\-*/=<>!&|^%?~]+"⟩,
    ⟨.className, "\\bclass\\s+([a-zA-Z_$][\\w$]*)|\\bnew\\s+([a-zA-Z_$][\\w$]*)"⟩,
    ⟨.method, "\\.([a-zA-Z_$][\\w$]*)\\s*\\("⟩,
    ⟨.function, "\\bfunction\\s*\\*?\\s*([a-zA-Z_$][\\w$]*)|([a-zA-Z_$][\\w$]*)\\s*\\("⟩,
    ⟨.variableName, "\\b(?:let|const|var)\\s+([a-zA-Z_$][\\w$]*)"⟩,
    ⟨.constant, "\\b[A-Z][A-Z0-9_]+\\b"⟩,
    ⟨.className, "\\b[A-Z][a-zA-Z0-9_$]*\\b"⟩]
  refinements := [
    ⟨.variableName, "(\\w+)\\s*=>"⟩,
    ⟨.property, "\\.(\\w+)"⟩]
  indent := ⟨cFamilyBlockKeywords, .bare, false, false⟩

end TextEditor.Catalog
