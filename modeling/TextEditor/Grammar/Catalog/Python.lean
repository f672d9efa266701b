import TextEditor.Grammar.Table

/-!
# The grammar of Python
-/

namespace TextEditor.Catalog

/-- The keywords of Python. -/
def pythonKeywords : List String :=
  ["and", "as", "assert", "break", "class", "continue", "def", "del", "elif", "else", "except",
   "exec", "finally", "for", "from", "global", "if", "import", "in", "is", "lambda", "not", "or",
   "pass", "print", "raise", "return", "try", "while", "with", "yield", "True", "False", "None",
   "async", "await", "nonlocal", "match", "case"]

/-- The keywords of Python that open a block. -/
def pythonBlockKeywords : List String :=
  ["if", "elif", "else", "while", "for", "def", "class", "try", "except", "finally", "with",
   "async def", "async with", "match", "case"]

/-- The grammar of Python. -/
def python : GrammarTable where
  language := .python
  keywords := pythonKeywords
  literals := [
    ⟨.string,
      "(?:\\b[rRbBfFuU]\x7b1,2\x7d)?(?:\"\"\"(?:.*?)(?:\"\"\"|$)|'''(?:.*?)(?:'''|$)" ++
        "|\"(?:[^\"\\\\]|\\\\.)*\"|'(?:[^'\\\\]|\\\\.)*')"⟩,
    ⟨.comment, "#.*$"⟩]
  patterns := [
    ⟨.number,
      "\\b(?:0[xX][0-9a-fA-F_]+|0[bB][01_]+|0[oO][0-7_]+" ++
        "|\\d[\\d_]*(?:\\.\\d+)?(?:[eE][+-]?\\d+)?j?)\\b"⟩,
    ⟨.annotationName, "^\\s*(@[a-zA-Z_][\\w.]*)"⟩,
    ⟨.operator, "[+\\-*/=<>!&|^%@~]+|:="⟩,
    ⟨.className, "\\bclass\\s+([a-zA-Z_]\\w*)"⟩,
    ⟨.function, "\\bdef\\s+([a-zA-Z_]\\w*)"⟩,
    ⟨.method, "\\.([a-zA-Z_]\\w*)\\s*\\("⟩,
    ⟨.function, "\\b([a-zA-Z_]\\w*)\\s*\\("⟩,
    ⟨.property, "\\.([a-zA-Z_]\\w*)"⟩,
    ⟨.constant, "\\b[A-Z][A-Z0-9_]+\\b"⟩,
    ⟨.className, "\\b[A-Z][a-z]\\w*\\b"⟩]
  refinements := [
    ⟨.keyword, "\\b(?:self|cls)\\b"⟩,
    ⟨.annotationName, "@(\\w+)"⟩]
  indent := ⟨pythonBlockKeywords, .colon, true, false⟩

end TextEditor.Catalog
