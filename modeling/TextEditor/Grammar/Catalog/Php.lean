import TextEditor.Grammar.Catalog.Html
import TextEditor.Grammar.Catalog.Shared

/-!
# The grammar of PHP
-/

namespace TextEditor.Catalog

/-- The keywords of PHP. -/
def phpKeywords : List String :=
  ["abstract", "and", "array", "as", "break", "callable", "case", "catch", "class", "clone",
   "const", "continue", "declare", "default", "die", "do", "echo", "else", "elseif", "empty",
   "enddeclare", "endfor", "endforeach", "endif", "endswitch", "endwhile", "enum", "eval", "exit",
   "extends", "final", "finally", "fn", "for", "foreach", "function", "global", "goto", "if",
   "implements", "include", "include_once", "instanceof", "insteadof", "interface", "isset",
   "list", "match", "namespace", "new", "or", "print", "private", "protected", "public",
   "readonly", "require", "require_once", "return", "static", "switch", "throw", "trait", "try",
   "unset", "use", "var", "while", "xor", "yield", "true", "false", "null", "__CLASS__",
   "__DIR__", "__FILE__", "__FUNCTION__", "__LINE__", "__METHOD__", "__NAMESPACE__", "__TRAIT__"]

/-- The grammar of PHP. -/
def php : GrammarTable where
  language := .php
  keywords := phpKeywords
  foldKeywordCase := true
  literals := [
    ⟨.string, "\"(?:[^\"\\\\]|\\\\.)*\"|'(?:[^'\\\\]|\\\\.)*'"⟩,
    ⟨.comment, "//.*?(?:\\?>|$)|#(?:[^\\[].*)?$|/\\*.*?(?:\\*/|$)"⟩]
  patterns := [
    ⟨.preprocessor, "<\\?(?:php\\b|=)?|\\?>"⟩,
    ⟨.variableName, "\\$[a-zA-Z_]\\w*"⟩,
    ⟨.annotationName, "#\\[[a-zA-Z_][\\w\\\\]*"⟩,
    ⟨.method, "(?:->|::)([a-zA-Z_]\\w*)\\s*\\("⟩,
    ⟨.property, "->([a-zA-Z_]\\w*)"⟩,
    ⟨.number, cNumber⟩,
    ⟨.className,
      "\\b(?:class|interface|trait|enum|new|extends|implements)\\s+([a-zA-Z_\\\\][\\w\\\\]*)"⟩,
    ⟨.namespaceName, "\\b(?:namespace|use)\\s+([a-zA-Z_\\\\][\\w\\\\]*)"⟩,
    ⟨.function, "\\bfunction\\s+&?([a-zA-Z_]\\w*)|\\b([a-zA-Z_]\\w*)\\s*\\("⟩,
    ⟨.constant, "\\b[A-Z][A-Z0-9_]+\\b"⟩,
    ⟨.operator, "===|!==|==|!=|<=>|<=|>=|\\*\\*|\\?\\?=?|->|=>|::|\\.=?|[+\\-*/=<>!&|^%?:~]"⟩]
  embeds := [
    ⟨.javaScript, scriptBlock⟩,
    ⟨.css, styleBlock⟩]
  indent := ⟨cFamilyBlockKeywords, .bare, false, true⟩

end TextEditor.Catalog
