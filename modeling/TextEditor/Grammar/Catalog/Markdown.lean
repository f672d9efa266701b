import TextEditor.Grammar.Table

/-!
# The grammar of Markdown
-/

namespace TextEditor.Catalog

/-- The grammar of Markdown. -/
def markdown : GrammarTable where
  language := .markdown
  literals := [
    ⟨.preprocessor, "^\\s*(?:```|~~~).*$"⟩,
    ⟨.keyword, "^#\x7b1,6\x7d\\s.*$"⟩,
    ⟨.string, "`[^`]+`"⟩,
    ⟨.comment, "<!--.*?(?:-->|$)"⟩]
  patterns := [
    ⟨.delimiter, "^\\s*(?:[-*+]|\\d+[.)])\\s|^\\s*>+"⟩,
    ⟨.important, "\\*\\*[^*]+\\*\\*|__[^_]+__"⟩,
    ⟨.tag, "!?\\[([^\\]]+)\\]\\("⟩,
    ⟨.value, "\\]\\(([^)\\s]+)"⟩,
    ⟨.value, "<(https?://[^>]+)>"⟩,
    ⟨.delimiter, "^\\s*(?:-\x7b3,\x7d|\\*\x7b3,\x7d|_\x7b3,\x7d)\\s*$"⟩]

end TextEditor.Catalog
