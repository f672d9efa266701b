import TextEditor.Grammar.Builtin
import TextEditor.Grammar.Regions
import TextEditor.Grammar.Tokens

/-!
# Highlighters

A highlighter is a grammar together with the grammars of the languages that it embeds. In a region
of a line in such a language, the tokens of the main grammar give way to those that the embedded
grammar finds in the text of the region alone. An embedded grammar does not look for regions in
turn, so that nesting stops after one level.
-/

namespace TextEditor

/-- The tokens and the embedded regions of a line. -/
structure Highlight where
  tokens : List Token
  regions : List Region
  deriving DecidableEq, Repr

/-- A grammar and, for some languages, the grammar of regions in them. -/
structure Highlighter where
  grammar : Grammar
  embedded : List (Language × Grammar)
  deriving DecidableEq, Repr

namespace Highlighter

/-- The highlighter of a grammar that leaves embedded regions to it. -/
def alone (grammar : Grammar) : Highlighter := ⟨grammar, []⟩

/-- The highlighter of a grammar, with the built-in grammars of the languages that it embeds. -/
def ofGrammar (grammar : Grammar) : Highlighter :=
  ⟨grammar, grammar.embeddedLanguages.map fun language => (language, .builtin language)⟩

/-- The highlighter of a language that leaves embedded regions to its own grammar. -/
def basic (language : Language) : Highlighter := alone (.builtin language)

/-- The highlighter of a language. -/
def ofLanguage (language : Language) : Highlighter := ofGrammar (.builtin language)

/-- The highlighter of plain text. -/
def plain : Highlighter := basic .plainText

/-- The language of the main grammar. -/
def language (highlighter : Highlighter) : Language := highlighter.grammar.language

/-- The highlighter that is used inside regions of a language. -/
def embedded? (highlighter : Highlighter) (language : Language) : Option Highlighter :=
  (highlighter.embedded.lookup language).map alone

/-- The languages with a grammar for their regions, in their fixed order. -/
def embeddedLanguages (highlighter : Highlighter) : List Language :=
  Language.all.filter fun language => (highlighter.embedded.lookup language).isSome

/-- The tokens that take the place of others in one region of a line. -/
def embedTokens (highlighter : Highlighter) (line : Text) (tokens : List Token) (region : Region) :
    List Token :=
  match highlighter.embedded.lookup region.language, region.span.text? line with
  | some grammar, some text =>
      tokens.filter (fun token => !token.span.overlaps region.span) ++
        (grammar.tokenize text).map (·.shiftInto region.span.start region.language)
  | _, _ => tokens

/-- The tokens and regions of a line, each by ascending start. -/
def highlight (highlighter : Highlighter) (line : Text) : Highlight :=
  if line.isEmpty then ⟨[], []⟩
  else
    let regions := highlighter.grammar.regions line
    let tokens := regions.foldl (highlighter.embedTokens line) (highlighter.grammar.tokenize line)
    ⟨tokens.mergeSort fun a b => a.span.start ≤ b.span.start, regions⟩

/-- A one-line account of a highlighter: its language and those it embeds. -/
def summary (highlighter : Highlighter) : String :=
  "Highlighter \x7b language: " ++ highlighter.language.summaryName ++ ", embedded: [" ++
    ", ".intercalate (highlighter.embeddedLanguages.map (·.summaryName)) ++ "] \x7d"

end Highlighter

end TextEditor
