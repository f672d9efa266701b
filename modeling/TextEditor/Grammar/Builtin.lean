import TextEditor.Grammar.Basic
import TextEditor.Grammar.Catalog.C
import TextEditor.Grammar.Catalog.Css
import TextEditor.Grammar.Catalog.Go
import TextEditor.Grammar.Catalog.Html
import TextEditor.Grammar.Catalog.Java
import TextEditor.Grammar.Catalog.JavaScript
import TextEditor.Grammar.Catalog.Json
import TextEditor.Grammar.Catalog.Markdown
import TextEditor.Grammar.Catalog.Php
import TextEditor.Grammar.Catalog.Python
import TextEditor.Grammar.Catalog.Rust
import TextEditor.Grammar.Catalog.Shell
import TextEditor.Grammar.Catalog.Squid

/-!
# Built-in grammars

The table of every language, and the grammars read from them.
-/

namespace TextEditor

/-- The table of a language; plain text has one without rules. -/
def Language.table : Language → GrammarTable
  | .plainText => { language := .plainText }
  | .go => Catalog.go
  | .javaScript => Catalog.javaScript
  | .python => Catalog.python
  | .html => Catalog.html
  | .css => Catalog.css
  | .json => Catalog.json
  | .markdown => Catalog.markdown
  | .shell => Catalog.shell
  | .c => Catalog.c
  | .cpp => Catalog.cpp
  | .rust => Catalog.rust
  | .java => Catalog.java
  | .php => Catalog.php
  | .squid => Catalog.squid

namespace Grammar

/-- The grammar that the table of a language gives. -/
def ofLanguage (language : Language) : Grammar :=
  match ofTable language.table with
  | .ok grammar => grammar
  | .error _ => blank language

/-- The built-in grammars of all languages, in their fixed order. -/
def builtins : List (Language × Grammar) :=
  Language.all.map fun language => (language, ofLanguage language)

/-- The built-in grammar of a language. -/
def builtin (language : Language) : Grammar :=
  (builtins.lookup language).getD (blank language)

end Grammar

end TextEditor
