import TextEditor.Grammar.Table

/-!
# The grammar of CSS
-/

namespace TextEditor.Catalog

/-- The properties of style sheets. -/
def cssProperties : List String :=
  ["color", "background", "background-color", "background-image", "font", "margin", "margin-top",
   "margin-right", "margin-bottom", "margin-left", "padding", "padding-top", "padding-right",
   "padding-bottom", "padding-left", "border", "border-radius", "width", "height", "min-width",
   "max-width", "min-height", "max-height", "display", "position", "top", "left", "right",
   "bottom", "float", "clear", "text-align", "text-decoration", "font-size", "font-weight",
   "font-family", "line-height", "letter-spacing", "word-spacing", "white-space",
   "vertical-align", "list-style", "overflow", "visibility", "z-index", "cursor", "opacity",
   "transform", "transition", "animation", "flex", "grid", "gap", "justify-content",
   "align-items", "align-content", "flex-direction", "flex-wrap", "order", "flex-grow",
   "flex-shrink", "flex-basis", "grid-template", "grid-area", "box-shadow", "box-sizing",
   "content"]

/-- The grammar of CSS. -/
def css : GrammarTable where
  language := .css
  keywords := cssProperties
  foldKeywordCase := true
  word := some "(?:^|[^\\w-])([a-zA-Z-][\\w-]*)"
  literals := [
    ⟨.comment, "/\\*.*?(?:\\*/|$)"⟩,
    ⟨.string, "\"(?:[^\"\\\\]|\\\\.)*\"|'(?:[^'\\\\]|\\\\.)*'"⟩]
  patterns := [
    ⟨.preprocessor, "@[a-zA-Z-]+"⟩,
    ⟨.important, "!\\s*important\\b"⟩,
    ⟨.number, "#[0-9a-fA-F]\x7b3,8\x7d\\b"⟩,
    ⟨.number, "(?:^|[^\\w#-])(-?\\d*\\.?\\d+)"⟩,
    ⟨.unit, "\\d((?:px|em|rem|vh|vw|vmin|vmax|pt|pc|in|cm|mm|ex|ch|fr|deg|rad|turn|ms|s)\\b|%)"⟩,
    ⟨.property, "(-?\\b[a-zA-Z][\\w-]*)\\s*:[^\x7b;\x7d]*(?:[;\x7d]|$)"⟩,
    ⟨.pseudo, "::?[a-zA-Z-]+(?:\\([^)]*\\))?"⟩,
    ⟨.selector, "([.#]?[a-zA-Z_*][\\w-]*)\\s*[\x7b,]"⟩,
    ⟨.function, "\\b([a-zA-Z-]+)\\("⟩,
    ⟨.delimiter, "[\x7b\x7d();:,>+~]"⟩,
    ⟨.value, ":\\s*([a-zA-Z][\\w-]*)"⟩]
  refinements := [
    ⟨.selector, "^([.#]?[a-zA-Z_][\\w-]*)"⟩]
  indent := ⟨[], .bare, true, false⟩

end TextEditor.Catalog
