import TextEditor.Text

/-!
# Pairs

Characters that come in pairs. Typing the first of a bracket pair also types the second, and typing
the second in front of itself only steps over it. A quote is both: it opens after an even number of
its kind on the line and closes after an odd number.
-/

namespace TextEditor

/-- A character and the one that closes it; a quote closes itself. -/
abbrev CharPair := Char × Char

/-- What typing a character does. -/
inductive PairAction where
  | insert
  | autoClose (closer : Char)
  | skipOver
  deriving DecidableEq, Repr

namespace CharPair

/-- The pairs that are known unless others are chosen. -/
def usual : List CharPair :=
  [('(', ')'), ('[', ']'), ('{', '}'), ('"', '"'), ('\'', '\''), ('`', '`')]

/-- What a pair makes of a character typed between two texts, if it has a say. -/
def action? (pair : CharPair) (before after : Text) (c : Char) : Option PairAction :=
  let ahead : Bool := after.head? == some c
  if pair.1 = pair.2 then
    if c ≠ pair.1 then none
    else if before.count c % 2 = 0 then some (.autoClose pair.2)
    else if ahead then some .skipOver
    else some .insert
  else if c = pair.1 then some (.autoClose pair.2)
  else if c = pair.2 ∧ ahead then some .skipOver
  else none

/-- What typing a character at byte `column` of a line does: what the first pair that has a say
makes of it. -/
def action (pairs : List CharPair) (line : Text) (column : Nat) (c : Char) : PairAction :=
  (pairs.findSome? (·.action? (line.before column) (line.after column) c)).getD .insert

/-- Whether two characters are a bracket and the one that closes it. -/
def isBracketPair (pairs : List CharPair) (opener closer : Char) : Bool :=
  opener != closer && pairs.contains (opener, closer)

end CharPair

/-- The characters before and after byte `n` of a text. -/
def Text.charsAround (t : Text) (n : Nat) : Option Char × Option Char :=
  ((t.before n).getLast?, (t.after n).head?)

/-- The characters around byte `n` of a line, provided that they are a bracket and the one that
closes it. -/
def CharPair.around? (pairs : List CharPair) (line : Text) (n : Nat) : Option CharPair :=
  match line.charsAround n with
  | (some opener, some closer) =>
      if isBracketPair pairs opener closer then some (opener, closer) else none
  | _ => none

end TextEditor
