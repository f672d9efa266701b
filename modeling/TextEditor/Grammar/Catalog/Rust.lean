import TextEditor.Grammar.Catalog.Shared

/-!
# The grammar of Rust
-/

namespace TextEditor.Catalog

/-- The keywords of Rust. -/
def rustKeywords : List String :=
  ["as", "break", "const", "continue", "crate", "else", "enum", "extern", "false", "fn", "for",
   "if", "impl", "in", "let", "loop", "match", "mod", "move", "mut", "pub", "ref", "return",
   "self", "Self", "static", "struct", "super", "trait", "true", "type", "unsafe", "use", "where",
   "while", "async", "await", "dyn", "abstract", "become", "box", "do", "final", "macro",
   "override", "priv", "typeof", "unsized", "virtual", "yield", "union"]

/-- The grammar of Rust. -/
def rust : GrammarTable where
  language := .rust
  keywords := rustKeywords
  literals := [
    ⟨.string,
      "b?r#+\".*?(?:\"#+|$)|b?r\"[^\"]*\"?|b?\"(?:[^\"\\\\]|\\\\.)*\"?|b?'(?:[^'\\\\]" ++
        "|\\\\(?:u\\\x7b[0-9a-fA-F]\x7b1,6\x7d\\\x7d|x[0-9a-fA-F]\x7b2\x7d|.))'"⟩,
    ⟨.comment, slashComments⟩]
  patterns := [
    ⟨.annotationName, "#!?\\[[a-zA-Z_][\\w:]*"⟩,
    ⟨.macroName, "\\b([a-zA-Z_]\\w*!)(?:[^=]|$)"⟩,
    ⟨.number, cNumber⟩,
    ⟨.namespaceName, "\\b([a-z_]\\w*)::"⟩,
    ⟨.operator, "::|->|=>|\\.\\.=?|[+\\-*/=<>!&|^%?]+"⟩,
    ⟨.method, "\\.([a-zA-Z_]\\w*)\\s*(?:::<[^>]*>\\s*)?\\("⟩,
    ⟨.function, "\\bfn\\s+([a-zA-Z_]\\w*)|\\b([a-zA-Z_]\\w*)\\s*(?:::<[^>]*>\\s*)?\\("⟩,
    ⟨.annotationName, "'[a-zA-Z_]\\w*\\b"⟩,
    ⟨.constant, "\\b[A-Z][A-Z0-9_]+\\b"⟩,
    ⟨.typeName, "\\b[A-Z]\\w*\\b"⟩,
    ⟨.property, "\\.([a-zA-Z_]\\w*)"⟩]
  indent := ⟨cFamilyBlockKeywords, .bare, false, false⟩

end TextEditor.Catalog
