import TextEditor.PathName
import TextEditor.Text.Words

/-!
# Languages

The languages that the editor has a grammar for, in a fixed order, with the names they go by: the
identifier, its aliases, the name shown to the user, and the extensions of their files.
-/

namespace TextEditor

/-- A language that text can be highlighted in. -/
inductive Language where
  | plainText
  | go
  | javaScript
  | python
  | html
  | css
  | json
  | markdown
  | shell
  | c
  | cpp
  | rust
  | java
  | php
  | squid
  deriving DecidableEq, Repr, Inhabited

namespace Language

/-- All languages, in their fixed order. -/
def all : List Language :=
  [.plainText, .go, .javaScript, .python, .html, .css, .json, .markdown, .shell, .c, .cpp, .rust,
    .java, .php, .squid]

/-- Position of a language in the fixed order. -/
def index : Language → Nat
  | .plainText => 0
  | .go => 1
  | .javaScript => 2
  | .python => 3
  | .html => 4
  | .css => 5
  | .json => 6
  | .markdown => 7
  | .shell => 8
  | .c => 9
  | .cpp => 10
  | .rust => 11
  | .java => 12
  | .php => 13
  | .squid => 14

/-- The identifier of a language. -/
def id : Language → String
  | .plainText => "plaintext"
  | .go => "go"
  | .javaScript => "javascript"
  | .python => "python"
  | .html => "html"
  | .css => "css"
  | .json => "json"
  | .markdown => "markdown"
  | .shell => "shell"
  | .c => "c"
  | .cpp => "cpp"
  | .rust => "rust"
  | .java => "java"
  | .php => "php"
  | .squid => "squid"

/-- The name shown to the user. -/
def displayName : Language → String
  | .plainText => "Plain Text"
  | .go => "Go"
  | .javaScript => "JavaScript"
  | .python => "Python"
  | .html => "HTML"
  | .css => "CSS"
  | .json => "JSON"
  | .markdown => "Markdown"
  | .shell => "Shell"
  | .c => "C"
  | .cpp => "C++"
  | .rust => "Rust"
  | .java => "Java"
  | .php => "PHP"
  | .squid => "Squid++"

/-- The one-word name that summaries of editors and highlighters use. -/
def summaryName : Language → String
  | .plainText => "PlainText"
  | .html => "Html"
  | .css => "Css"
  | .json => "Json"
  | .cpp => "Cpp"
  | .php => "Php"
  | .squid => "Squid"
  | other => other.displayName

/-- The identifiers that name a language: its own and its aliases. -/
def names : Language → List String
  | .plainText => ["plaintext", "plain", "text", "txt"]
  | .go => ["go", "golang"]
  | .javaScript => ["javascript", "js"]
  | .python => ["python", "py"]
  | .html => ["html"]
  | .css => ["css"]
  | .json => ["json"]
  | .markdown => ["markdown", "md"]
  | .shell => ["shell", "sh", "bash"]
  | .c => ["c"]
  | .cpp => ["cpp", "c++"]
  | .rust => ["rust", "rs"]
  | .java => ["java"]
  | .php => ["php"]
  | .squid => ["squid", "squid++", "sqd"]

/-- The extensions, without the dot, of files in a language. -/
def extensions : Language → List String
  | .plainText => []
  | .go => ["go"]
  | .javaScript => ["js", "jsx", "mjs", "cjs"]
  | .python => ["py", "pyw"]
  | .html => ["html", "htm"]
  | .css => ["css"]
  | .json => ["json"]
  | .markdown => ["md", "markdown"]
  | .shell => ["sh", "bash"]
  | .c => ["c", "h"]
  | .cpp => ["cpp", "cc", "cxx", "hpp", "hh"]
  | .rust => ["rs"]
  | .java => ["java"]
  | .php => ["php"]
  | .squid => ["sqd"]

/-- The language that an identifier or alias names; white space around it and case do not count. -/
def ofId? (id : Text) : Option Language :=
  let id := String.ofList id.trim.toAsciiLower
  all.find? fun language => language.names.contains id

/-- The language of files with an extension; dots before it and case do not count, and an unknown
extension means plain text. -/
def ofExtension (extension : Text) : Language :=
  let extension := String.ofList (Text.toAsciiLower (extension.dropWhile (· == '.')))
  (all.find? fun language => language.extensions.contains extension).getD .plainText

/-- The language of a file, by the extension of its path. -/
def ofPath (path : Text) : Language :=
  ((PathName.extension? path).map ofExtension).getD .plainText

end Language

end TextEditor
