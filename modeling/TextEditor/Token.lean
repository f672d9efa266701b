import TextEditor.Language
import TextEditor.Span

/-!
# Tokens and embedded regions

A token is a span of a line with a kind and the language that it was recognised in. An embedded
region is a span of a line that is written in another language.
-/

namespace TextEditor

/-- What a token is, which decides how it is coloured. -/
inductive TokenKind where
  | normal
  | keyword
  | string
  | comment
  | number
  | regex
  | escape
  | function
  | method
  | typeName
  | variableName
  | constant
  | className
  | property
  | namespaceName
  | macroName
  | annotationName
  | operator
  | delimiter
  | preprocessor
  | tag
  | attributeName
  | value
  | doctype
  | entity
  | selector
  | pseudo
  | important
  | unit
  deriving DecidableEq, Repr, Inhabited

namespace TokenKind

/-- All kinds, in their fixed order. -/
def all : List TokenKind :=
  [.normal, .keyword, .string, .comment, .number, .regex, .escape, .function, .method, .typeName,
    .variableName, .constant, .className, .property, .namespaceName, .macroName, .annotationName,
    .operator, .delimiter, .preprocessor, .tag, .attributeName, .value, .doctype, .entity,
    .selector, .pseudo, .important, .unit]

/-- The word for a kind. -/
def name : TokenKind → String
  | .normal => "normal"
  | .keyword => "keyword"
  | .string => "string"
  | .comment => "comment"
  | .number => "number"
  | .regex => "regex"
  | .escape => "escape"
  | .function => "function"
  | .method => "method"
  | .typeName => "type"
  | .variableName => "variable"
  | .constant => "constant"
  | .className => "class"
  | .property => "property"
  | .namespaceName => "namespace"
  | .macroName => "macro"
  | .annotationName => "annotation"
  | .operator => "operator"
  | .delimiter => "delimiter"
  | .preprocessor => "preprocessor"
  | .tag => "tag"
  | .attributeName => "attribute"
  | .value => "value"
  | .doctype => "doctype"
  | .entity => "entity"
  | .selector => "selector"
  | .pseudo => "pseudo"
  | .important => "important"
  | .unit => "unit"

/-- The kind that a word names. -/
def ofName? (name : String) : Option TokenKind := all.find? (·.name == name)

end TokenKind

/-- A piece of a line that was recognised as something. -/
structure Token where
  kind : TokenKind
  span : Span
  language : Language
  deriving DecidableEq, Repr

namespace Token

/-- The token moved to the right and given to another language. -/
def shiftInto (token : Token) (offset : Nat) (language : Language) : Token :=
  { token with span := token.span.shift offset, language := language }

/-- The text under a token; empty if its span leaves the line or cuts a character. -/
def text (token : Token) (line : Text) : Text := (token.span.text? line).getD []

end Token

/-- A region of a line in another language. -/
structure Region where
  language : Language
  span : Span
  deriving DecidableEq, Repr

end TextEditor
