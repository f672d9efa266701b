import TextEditor.Grammar.Table

/-!
# The grammar of HTML
-/

namespace TextEditor.Catalog

/-- The elements of HTML. -/
def htmlElements : List String :=
  ["html", "head", "body", "title", "meta", "script", "style", "link", "div", "span", "p", "h1",
   "h2", "h3", "h4", "h5", "h6", "ul", "ol", "li", "a", "img", "table", "thead", "tbody", "tfoot",
   "tr", "td", "th", "caption", "form", "input", "textarea", "button", "select", "option",
   "label", "br", "hr", "blockquote", "cite", "code", "pre", "kbd", "samp", "var", "small",
   "strong", "em", "b", "i", "u", "s", "del", "ins", "sup", "sub", "mark", "ruby", "rt", "rp",
   "bdi", "bdo", "iframe", "picture", "source", "video", "audio", "track", "canvas", "map",
   "area", "base", "nav", "section", "article", "aside", "header", "footer", "main", "figure",
   "figcaption", "details", "summary", "dialog", "menu", "template", "slot", "svg"]

/-- Script elements on one line; the group is what they hold. -/
def scriptBlock : String := "(?i)<script\\b[^>]*>(.*?)</script\\s*>"

/-- Style elements on one line; the group is what they hold. -/
def styleBlock : String := "(?i)<style\\b[^>]*>(.*?)</style\\s*>"

/-- The grammar of HTML. -/
def html : GrammarTable where
  language := .html
  keywords := htmlElements
  foldKeywordCase := true
  word := some "</?([a-zA-Z][a-zA-Z0-9]*)"
  literals := [
    ⟨.comment, "<!--.*?(?:-->|$)"⟩,
    ⟨.doctype, "(?i)<!DOCTYPE[^>]*>?"⟩]
  patterns := [
    ⟨.tag, "</?([a-zA-Z][\\w:-]*)"⟩,
    ⟨.entity, "&(?:[a-zA-Z][a-zA-Z0-9]*|#\\d+|#[xX][0-9a-fA-F]+);"⟩,
    ⟨.attributeName, "\\b([a-zA-Z_:][\\w:.-]*)\\s*="⟩,
    ⟨.value, "=\\s*(\"(?:[^\"\\\\]|\\\\.)*\"|'(?:[^'\\\\]|\\\\.)*')"⟩,
    ⟨.delimiter, "/?>|</?|="⟩]
  refinements := [
    ⟨.attributeName, "(\\w+)="⟩]
  embeds := [
    ⟨.php, "<\\?(?:php\\b|=)(.*?)(?:\\?>|$)"⟩,
    ⟨.javaScript, scriptBlock⟩,
    ⟨.css, styleBlock⟩]
  indent := ⟨[], .bare, false, true⟩

end TextEditor.Catalog
