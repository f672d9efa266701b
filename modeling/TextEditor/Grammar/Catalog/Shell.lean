import TextEditor.Grammar.Table

/-!
# The grammar of shell scripts
-/

namespace TextEditor.Catalog

/-- The keywords of shell scripts. -/
def shellKeywords : List String :=
  ["if", "then", "else", "elif", "fi", "for", "while", "until", "do", "done", "case", "esac",
   "in", "function", "select", "return", "break", "continue", "local", "export", "readonly",
   "declare", "unset", "shift", "source", "exit", "echo", "printf", "read", "eval", "exec",
   "trap", "set", "true", "false"]

/-- The keywords of shell scripts that open a block. -/
def shellBlockKeywords : List String :=
  ["then", "do", "else", "in"]

/-- The grammar of shell scripts. -/
def shell : GrammarTable where
  language := .shell
  keywords := shellKeywords
  word := some "\\b[a-zA-Z_][\\w-]*"
  literals := [
    ⟨.string, "\"(?:[^\"\\\\]|\\\\.)*\"|'[^']*'"⟩,
    ⟨.comment, "(?:^|\\s)(#.*)$"⟩]
  patterns := [
    ⟨.variableName, "\\$\\\x7b[^\x7d]*\\\x7d|\\$[a-zA-Z_]\\w*|\\$[0-9#?@$!*-]"⟩,
    ⟨.variableName,
      "^\\s*(?:export\\s+|local\\s+|readonly\\s+" ++
        "|declare\\s+(?:-\\w+\\s+)?)?([a-zA-Z_]\\w*)\\+?="⟩,
    ⟨.function, "\\b([a-zA-Z_][\\w-]*)\\s*\\(\\)"⟩,
    ⟨.delimiter, "<<-?\\s*['\"]?([a-zA-Z_]\\w*)"⟩,
    ⟨.number, "\\b\\d+\\b"⟩,
    ⟨.operator, "&&|\\|\\||;;|<<<|[|&;<>!=]+"⟩,
    ⟨.property, "\\s(--?[a-zA-Z][\\w-]*)"⟩]
  embeds := [
    ⟨.javaScript, "\\bnode\\s+(?:-e|--eval)\\s+['\"]([^'\"]+)['\"]"⟩,
    ⟨.python, "\\bpython3?\\s+-c\\s+['\"]([^'\"]+)['\"]"⟩,
    ⟨.javaScript, "\\bnode\\s+<<<\\s*['\"]([^'\"]+)['\"]"⟩,
    ⟨.python, "\\bpython3?\\s+<<<\\s*['\"]([^'\"]+)['\"]"⟩]
  indent := ⟨shellBlockKeywords, .bare, false, false⟩

end TextEditor.Catalog
