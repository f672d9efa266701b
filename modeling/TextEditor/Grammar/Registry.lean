import TextEditor.Grammar.Builtin

/-!
# Registry of grammars

A registry knows one grammar for each language it has been given. Grammars are kept in the order in
which they were registered, all of them; which one a language has now is told by its position, and a
later grammar for the same language only changes that.
-/

namespace TextEditor

/-- The registered grammars, and the position among them of the one that a language has. -/
structure Registry where
  grammars : Array Grammar
  positions : List (Language × Nat)
  deriving DecidableEq, Repr

namespace Registry

/-- The registry without grammars. -/
def empty : Registry := ⟨#[], []⟩

/-- The positions with another one for a language, in place of the one it has had. -/
def point (language : Language) (position : Nat) (positions : List (Language × Nat)) :
    List (Language × Nat) :=
  (language, position) :: positions.filter (·.1 != language)

/-- The registry after one more grammar has been registered. -/
def register (registry : Registry) (grammar : Grammar) : Registry where
  grammars := registry.grammars.push grammar
  positions := point grammar.language registry.grammars.size registry.positions

/-- The registry after grammars have been registered in order. -/
def registerAll (registry : Registry) (grammars : List Grammar) : Registry :=
  grammars.foldl register registry

/-- The registry of the built-in grammars. -/
def builtin : Registry := empty.registerAll (Grammar.builtins.map (·.2))

/-- The grammar that a language has. -/
def get? (registry : Registry) (language : Language) : Option Grammar :=
  (registry.positions.lookup language).bind (registry.grammars[·]?)

/-- The grammar of the language that an identifier names. -/
def byId (registry : Registry) (id : Text) : Except EditorError Grammar :=
  match (Language.ofId? id).bind registry.get? with
  | some grammar => .ok grammar
  | none => .error (.unknownLanguage id)

/-- The grammar for files with an extension. -/
def forExtension? (registry : Registry) (extension : Text) : Option Grammar :=
  registry.get? (Language.ofExtension extension)

/-- Number of languages with a grammar. -/
def size (registry : Registry) : Nat := registry.positions.length

/-- Whether no language has a grammar. -/
def isEmpty (registry : Registry) : Bool := registry.positions.isEmpty

end Registry

end TextEditor
