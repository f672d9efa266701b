import TextEditor.Grammar.Table

/-!
# The grammar of JSON
-/

namespace TextEditor.Catalog

/-- The grammar of JSON. -/
def json : GrammarTable where
  language := .json
  keywords := ["true", "false", "null"]
  literals := [
    ⟨.property, "(\"(?:[^\"\\\\]|\\\\.)*\")\\s*:"⟩,
    ⟨.string, "\"(?:[^\"\\\\]|\\\\.)*\"?"⟩]
  patterns := [
    ⟨.number, "-?\\b\\d+(?:\\.\\d+)?(?:[eE][+-]?\\d+)?\\b"⟩,
    ⟨.delimiter, "[\x7b\x7d\\[\\],:]"⟩]

end TextEditor.Catalog
