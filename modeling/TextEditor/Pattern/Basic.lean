import TextEditor.Unicode.CaseFolding
import TextEditor.Unicode.WordChars

/-!
# Patterns

The patterns that grammars recognise tokens with: sets of characters, positions, sequences,
prioritised alternatives, repetition and numbered groups.
-/

namespace TextEditor

/-- The character properties that patterns know by a letter. -/
inductive CharProperty where
  | word
  | digit
  | blank
  deriving DecidableEq, Repr

/-- Whether a character has a property. -/
def CharProperty.holds : CharProperty → Char → Bool
  | .word, c => Unicode.isWord c
  | .digit, c => Unicode.isDigit c
  | .blank, c => Unicode.isBlank c

/-- One member of a set: the characters of a range, or those with or without a property. -/
inductive SetItem where
  | range (first last : Char)
  | property (property : CharProperty) (holds : Bool)
  deriving DecidableEq, Repr

/-- Whether a character belongs to a member of a set. -/
def SetItem.has : SetItem → Char → Bool
  | .range first last, c => first ≤ c && c ≤ last
  | .property p holds, c => p.holds c == holds

/-- A set of characters: the characters of its items, or all others. With `anyCase` a character
counts as an item's when one of its case variants is. -/
structure CharSet where
  items : List SetItem
  negated : Bool
  anyCase : Bool
  deriving DecidableEq, Repr

namespace CharSet

/-- Whether some item of a set has the character. -/
def hasItem (set : CharSet) (c : Char) : Bool := set.items.any (·.has c)

/-- Whether a character belongs to a set. -/
def has (set : CharSet) (c : Char) : Bool :=
  (if set.anyCase then set.hasItem c || (Unicode.caseVariants c).any set.hasItem
    else set.hasItem c) != set.negated

/-- The set of one character. -/
def single (c : Char) : CharSet := ⟨[.range c c], false, false⟩

/-- All characters but the line feed. -/
def anyButFeed : CharSet := ⟨[.range '\n' '\n'], true, false⟩

end CharSet

/-- A condition on a position in a text. -/
inductive Anchor where
  | textStart
  | textEnd
  | wordEdge
  | noWordEdge
  deriving DecidableEq, Repr

/-- A pattern. Of two alternatives the first is preferred; a greedy repetition prefers to go on, a
reluctant one to stop. -/
inductive Pattern where
  | empty
  | oneOf (set : CharSet)
  | position (anchor : Anchor)
  | seq (first second : Pattern)
  | alt (preferred other : Pattern)
  | repeated (body : Pattern) (greedy : Bool)
  | group (index : Nat) (body : Pattern)
  deriving DecidableEq, Repr

namespace Pattern

/-- The body or nothing, in the order that `greedy` says. -/
def optional (body : Pattern) (greedy : Bool) : Pattern :=
  if greedy then .alt body .empty else .alt .empty body

/-- Any number of repetitions. -/
def star (body : Pattern) (greedy : Bool) : Pattern := optional (.repeated body greedy) greedy

/-- The patterns one after the other. -/
def sequence : List Pattern → Pattern
  | [] => .empty
  | [p] => p
  | p :: ps => .seq p (sequence ps)

/-- The patterns as alternatives, the first preferred. -/
def choice : List Pattern → Pattern
  | [] => .empty
  | [p] => p
  | p :: ps => .alt p (choice ps)

/-- The body, `n` times over. -/
def copies (body : Pattern) (n : Nat) : List Pattern := List.replicate n body

/-- At most `n` repetitions, each inside the one before. -/
def upTo (body : Pattern) (greedy : Bool) : Nat → Pattern
  | 0 => .empty
  | n + 1 => optional (.seq body (upTo body greedy n)) greedy

/-- At least `least` repetitions, and at most `most` if that is given. -/
def times (body : Pattern) (least : Nat) (most : Option Nat) (greedy : Bool) : Pattern :=
  match least, most with
  | least, some most =>
      if least = most then sequence (copies body least)
      else sequence (copies body least ++ [upTo body greedy (most - least)])
  | 0, none => star body greedy
  | least + 1, none => sequence (copies body least ++ [.repeated body greedy])

/-- Number of the highest group, zero if there is none. -/
def groupCount : Pattern → Nat
  | .empty | .oneOf _ | .position _ => 0
  | .seq p q | .alt p q => max (groupCount p) (groupCount q)
  | .repeated p _ => groupCount p
  | .group index p => max index (groupCount p)

end Pattern

end TextEditor
