import TextEditor.Error
import TextEditor.Grammar.Table
import TextEditor.Pattern.Reader
import TextEditor.Pattern.Search

/-!
# Grammars

A grammar is a table whose patterns have been read. A rule emits a span for each match of its
pattern: that of the first group that took part in the match or, if none did, that of the match.
-/

namespace TextEditor

/-- What a match of a pattern is recognised as. -/
structure Rule where
  kind : TokenKind
  pattern : Pattern
  deriving DecidableEq, Repr

/-- The language of what the first group of a pattern finds. -/
structure Embed where
  language : Language
  pattern : Pattern
  deriving DecidableEq, Repr

/-- The group of lowest number that took part in a match. -/
def Match.firstGroup? (m : Match) (groupCount : Nat) : Option Span :=
  (List.range' 1 groupCount).findSome? m.group?

namespace Rule

/-- The span that a rule emits for a match, if it is not empty. -/
def emitted? (rule : Rule) (m : Match) : Option Span :=
  let span := (m.firstGroup? rule.pattern.groupCount).getD m.whole
  if span.isEmpty then none else some span

/-- The spans that a rule emits in a line, from left to right. -/
def spans (rule : Rule) (line : Text) : List Span :=
  (rule.pattern.findAll line).filterMap rule.emitted?

end Rule

/-- A grammar, ready to be applied to lines. -/
structure Grammar where
  language : Language
  keywords : List Text
  foldKeywordCase : Bool
  word : Pattern
  literals : List Rule
  patterns : List Rule
  refinements : List Rule
  embeds : List Embed
  indent : IndentRules
  deriving DecidableEq, Repr

namespace Grammar

/-- The pattern that finds words, unless a table gives another. -/
def usualWord : String := "\\b\\w+\\b"

/-- The grammar that recognises nothing. -/
def blank (language : Language) : Grammar where
  language := language
  keywords := []
  foldKeywordCase := false
  word := .empty
  literals := []
  patterns := []
  refinements := []
  embeds := []
  indent := .bracketsOnly

/-- The grammar of a table, provided that all its patterns can be read. -/
def ofTable (table : GrammarTable) : Except EditorError Grammar := do
  let read (written : String) : Except EditorError Pattern :=
    (Pattern.read written.toList).mapError fun _ => .pattern table.language
  let readRule (rule : TableRule) : Except EditorError Rule := do
    return ⟨rule.kind, ← read rule.pattern⟩
  let readEmbed (embed : TableEmbed) : Except EditorError Embed := do
    return ⟨embed.language, ← read embed.pattern⟩
  return {
    language := table.language
    keywords := (table.keywords.map String.toList).eraseDups
    foldKeywordCase := table.foldKeywordCase
    word := ← read (table.word.getD usualWord)
    literals := ← table.literals.mapM readRule
    patterns := ← table.patterns.mapM readRule
    refinements := ← table.refinements.mapM readRule
    embeds := ← table.embeds.mapM readEmbed
    indent := table.indent }

/-- Whether a word is a keyword, as it stands or, where the grammar folds case, in lower case when
it has capitals. -/
def isKeyword (grammar : Grammar) (word : Text) : Bool :=
  grammar.keywords.contains word ||
    (grammar.foldKeywordCase && word.any Char.isUpper &&
      grammar.keywords.contains word.toAsciiLower)

/-- Number of different keywords. -/
def keywordCount (grammar : Grammar) : Nat := grammar.keywords.length

/-- The languages that a grammar can embed, each once, in the order of its rules. -/
def embeddedLanguages (grammar : Grammar) : List Language :=
  (grammar.embeds.map (·.language)).eraseDups

/-- Whether a grammar can never recognise a token. -/
def isPlain (grammar : Grammar) : Bool :=
  grammar.keywords.isEmpty && grammar.literals.isEmpty && grammar.patterns.isEmpty &&
    grammar.refinements.isEmpty

end Grammar

end TextEditor
