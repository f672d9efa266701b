import TextEditor.Grammar.Catalog.Shared

/-!
# The grammar of Java
-/

namespace TextEditor.Catalog

/-- The keywords of Java. -/
def javaKeywords : List String :=
  ["abstract", "assert", "boolean", "break", "byte", "case", "catch", "char", "class", "const",
   "continue", "default", "do", "double", "else", "enum", "extends", "final", "finally", "float",
   "for", "goto", "if", "implements", "import", "instanceof", "int", "interface", "long",
   "native", "new", "package", "private", "protected", "public", "record", "return", "short",
   "static", "strictfp", "super", "switch", "synchronized", "this", "throw", "throws",
   "transient", "try", "var", "void", "volatile", "while", "yield", "true", "false", "null"]

/-- The grammar of Java. -/
def java : GrammarTable where
  language := .java
  keywords := javaKeywords
  literals := [
    ⟨.string, "\"\"\"|\"(?:[^\"\\\\]|\\\\.)*\"|'(?:[^'\\\\]|\\\\.)*'"⟩,
    ⟨.comment, slashComments⟩]
  patterns := [
    ⟨.annotationName, "@[a-zA-Z_][\\w.]*"⟩,
    ⟨.number, cNumber⟩,
    ⟨.namespaceName, "\\b(?:package|import)\\s+(?:static\\s+)?([\\w.]+\\*?)"⟩,
    ⟨.operator, ">>>=?|->|::|[+\\-*/=<>!&|^%~?]+"⟩,
    ⟨.className, "\\b(?:class|interface|enum|record|new)\\s+([a-zA-Z_]\\w*)"⟩,
    ⟨.method, "\\.([a-zA-Z_]\\w*)\\s*\\("⟩,
    ⟨.function, "\\b([a-zA-Z_]\\w*)\\s*\\("⟩,
    ⟨.constant, "\\b[A-Z][A-Z0-9_]+\\b"⟩,
    ⟨.className, "\\b[A-Z][a-zA-Z0-9_]*\\b"⟩,
    ⟨.property, "\\.([a-zA-Z_]\\w*)"⟩]
  indent := ⟨cFamilyBlockKeywords, .bare, false, false⟩

end TextEditor.Catalog
