import TextEditor.Pattern.Basic
import TextEditor.Text

/-!
# Reading patterns

The written form of patterns. `\w`, `\d` and `\s` stand for word characters, digits and white space,
their capitals for all others; `\b` and `\B` for a word edge and for no word edge; `^` and `$` for
the ends of the text; a point for any character but the line feed; `[…]` and `[^…]` for sets.
`*`, `+`, `?` and `{m,n}` repeat, a `?` after them makes them reluctant, `|` separates
alternatives, `(…)` is a numbered group, `(?P<name>…)` one with a name besides, `(?:…)` groups
without a number, and `(?i)` disregards case up to the end of its group. Patterns are read in two
steps: `symbols` tells the symbols apart, `assemble` nests them. There is no look-around and no
reference back to a group.
-/

namespace TextEditor

/-- Why a text is not a pattern. -/
inductive PatternError where
  | unclosedGroup
  | unopenedGroup
  | unknownGroup
  | unclosedSet
  | unknownEscape
  | badRange
  | badCount
  | nothingToRepeat
  deriving DecidableEq, Repr

/-- A symbol of the written form of patterns. -/
inductive PatternSymbol where
  | char (c : Char)
  | set (items : List SetItem) (negated : Bool)
  | anyButFeed
  | anchor (anchor : Anchor)
  | times (least : Nat) (most : Option Nat) (greedy : Bool)
  | bar
  | openNumbered
  | openPlain
  | openCase (anyCase : Bool)
  | setCase (anyCase : Bool)
  | close
  deriving DecidableEq, Repr

/-- The item of a set that a dash may turn into the start of a range. -/
inductive LastItem where
  | none
  | char (c : Char)
  | property
  deriving DecidableEq, Repr

/-- A set as far as it has been read; the items stand in reverse. -/
structure SetDraft where
  negated : Bool
  items : List SetItem
  last : LastItem
  /-- The start of a range whose end is still to come. -/
  rangeStart : Option Char
  deriving DecidableEq, Repr

namespace SetDraft

/-- A set of which nothing has been read. -/
def new (negated : Bool) : SetDraft := ⟨negated, [], .none, none⟩

/-- The set with one more character, which may end a range. -/
def addChar (draft : SetDraft) (c : Char) : Except PatternError SetDraft :=
  match draft.rangeStart with
  | none => .ok { draft with items := .range c c :: draft.items, last := .char c }
  | some first =>
      if first ≤ c then
        .ok { draft with
          items := .range first c :: draft.items.tail, last := .none, rangeStart := none }
      else .error .badRange

/-- The set with one more property. -/
def addProperty (draft : SetDraft) (p : CharProperty) (holds : Bool) :
    Except PatternError SetDraft :=
  match draft.rangeStart with
  | none => .ok { draft with items := .property p holds :: draft.items, last := .property }
  | some _ => .error .badRange

/-- The set after a dash that `next` follows. -/
def addDash (draft : SetDraft) (next : Option Char) : Except PatternError SetDraft :=
  if draft.rangeStart.isSome || next == some ']' then draft.addChar '-'
  else match draft.last with
    | .none => draft.addChar '-'
    | .char c => .ok { draft with rangeStart := some c }
    | .property => .error .badRange

/-- The symbol of a set that has been read to its end. -/
def symbol (draft : SetDraft) : PatternSymbol := .set draft.items.reverse draft.negated

end SetDraft

/-- The property that a letter after a backslash stands for, and whether it holds or not. -/
def escapedProperty? : Char → Option (CharProperty × Bool)
  | 'w' => some (.word, true)
  | 'W' => some (.word, false)
  | 'd' => some (.digit, true)
  | 'D' => some (.digit, false)
  | 's' => some (.blank, true)
  | 'S' => some (.blank, false)
  | _ => none

/-- The position that a letter after a backslash stands for. -/
def escapedAnchor? : Char → Option Anchor
  | 'b' => some .wordEdge
  | 'B' => some .noWordEdge
  | 'A' => some .textStart
  | 'z' => some .textEnd
  | _ => none

/-- The character that a character after a backslash stands for: some letters name controls, ASCII
punctuation stands for itself. -/
def escapedChar? (c : Char) : Option Char :=
  match c with
  | 'n' => some '\n'
  | 'r' => some '\r'
  | 't' => some '\t'
  | 'a' => some '\x07'
  | 'f' => some '\x0c'
  | 'v' => some '\x0b'
  | '<' | '>' => none
  | _ => if ' ' ≤ c && c ≤ '~' && !c.isAlphanum then some c else none

/-- The symbol of a character after a backslash. -/
def escapedSymbol (c : Char) : Except PatternError PatternSymbol :=
  match escapedProperty? c, escapedAnchor? c, escapedChar? c with
  | some (p, holds), _, _ => .ok (.set [.property p holds] false)
  | _, some anchor, _ => .ok (.anchor anchor)
  | _, _, some c => .ok (.char c)
  | _, _, _ => .error .unknownEscape

/-- The set with the item that a character after a backslash stands for. -/
def SetDraft.addEscaped (draft : SetDraft) (c : Char) : Except PatternError SetDraft :=
  match escapedProperty? c, escapedChar? c with
  | some (p, holds), _ => draft.addProperty p holds
  | _, some c => draft.addChar c
  | _, _ => .error .unknownEscape

/-- What is being read: symbols, a set, the numbers of a repetition, or the name of a group. -/
inductive ReadMode where
  | symbols
  | setStart (negated : Bool)
  | set (draft : SetDraft)
  | least (n : Option Nat)
  | most (least : Nat) (n : Option Nat)
  | name (begun : Bool)
  deriving DecidableEq, Repr

/-- A number with one more decimal digit. -/
def addDigit (n : Option Nat) (c : Char) : Option Nat :=
  some (n.getD 0 * 10 + (c.toNat - '0'.toNat))

/-- The repetition from `least` to `most` times, provided that the numbers are in order. -/
def timesSymbol (least : Nat) (most : Option Nat) (greedy : Bool) :
    Except PatternError PatternSymbol :=
  if most.all (least ≤ ·) then .ok (.times least most greedy) else .error .badCount

/-- The symbols of a written pattern. -/
def symbolsFrom : ReadMode → Text → Except PatternError (List PatternSymbol)
  | .symbols, [] => .ok []
  | .symbols, '\\' :: c :: t => do
      let symbol ← escapedSymbol c
      return symbol :: (← symbolsFrom .symbols t)
  | .symbols, ['\\'] => .error .unknownEscape
  | .symbols, '[' :: '^' :: t => symbolsFrom (.setStart true) t
  | .symbols, '[' :: t => symbolsFrom (.setStart false) t
  | .symbols, '\x7b' :: t => symbolsFrom (.least none) t
  | .symbols, '(' :: '?' :: ':' :: t => return .openPlain :: (← symbolsFrom .symbols t)
  | .symbols, '(' :: '?' :: 'i' :: ')' :: t => return .setCase true :: (← symbolsFrom .symbols t)
  | .symbols, '(' :: '?' :: 'i' :: ':' :: t => return .openCase true :: (← symbolsFrom .symbols t)
  | .symbols, '(' :: '?' :: '-' :: 'i' :: ')' :: t =>
      return .setCase false :: (← symbolsFrom .symbols t)
  | .symbols, '(' :: '?' :: '-' :: 'i' :: ':' :: t =>
      return .openCase false :: (← symbolsFrom .symbols t)
  | .symbols, '(' :: '?' :: 'P' :: '<' :: t => symbolsFrom (.name false) t
  | .symbols, '(' :: '?' :: '<' :: t => symbolsFrom (.name false) t
  | .symbols, '(' :: '?' :: _ => .error .unknownGroup
  | .symbols, '(' :: t => return .openNumbered :: (← symbolsFrom .symbols t)
  | .symbols, ')' :: t => return .close :: (← symbolsFrom .symbols t)
  | .symbols, '|' :: t => return .bar :: (← symbolsFrom .symbols t)
  | .symbols, '.' :: t => return .anyButFeed :: (← symbolsFrom .symbols t)
  | .symbols, '^' :: t => return .anchor .textStart :: (← symbolsFrom .symbols t)
  | .symbols, '$' :: t => return .anchor .textEnd :: (← symbolsFrom .symbols t)
  | .symbols, '*' :: '?' :: t => return .times 0 none false :: (← symbolsFrom .symbols t)
  | .symbols, '*' :: t => return .times 0 none true :: (← symbolsFrom .symbols t)
  | .symbols, '+' :: '?' :: t => return .times 1 none false :: (← symbolsFrom .symbols t)
  | .symbols, '+' :: t => return .times 1 none true :: (← symbolsFrom .symbols t)
  | .symbols, '?' :: '?' :: t => return .times 0 (some 1) false :: (← symbolsFrom .symbols t)
  | .symbols, '?' :: t => return .times 0 (some 1) true :: (← symbolsFrom .symbols t)
  | .symbols, c :: t => return .char c :: (← symbolsFrom .symbols t)
  | .setStart negated, ']' :: t => do
      symbolsFrom (.set (← (SetDraft.new negated).addChar ']')) t
  | .setStart negated, '\\' :: c :: t => do
      symbolsFrom (.set (← (SetDraft.new negated).addEscaped c)) t
  | .setStart negated, c :: t =>
      if c = '\\' || c = '[' then .error .unclosedSet
      else do symbolsFrom (.set (← (SetDraft.new negated).addChar c)) t
  | .setStart _, [] => .error .unclosedSet
  | .set _, [] => .error .unclosedSet
  | .set draft, ']' :: t => return draft.symbol :: (← symbolsFrom .symbols t)
  | .set draft, '\\' :: c :: t => do symbolsFrom (.set (← draft.addEscaped c)) t
  | .set draft, '-' :: t => do symbolsFrom (.set (← draft.addDash t.head?)) t
  | .set draft, c :: t =>
      if c = '\\' || c = '[' then .error .unclosedSet
      else do symbolsFrom (.set (← draft.addChar c)) t
  | .least (some n), '\x7d' :: '?' :: t =>
      return .times n (some n) false :: (← symbolsFrom .symbols t)
  | .least (some n), '\x7d' :: t => return .times n (some n) true :: (← symbolsFrom .symbols t)
  | .least (some n), ',' :: t => symbolsFrom (.most n none) t
  | .least n, c :: t =>
      if c.isDigit then symbolsFrom (.least (addDigit n c)) t else .error .badCount
  | .least _, [] => .error .badCount
  | .most least n, '\x7d' :: '?' :: t => do
      let symbol ← timesSymbol least n false
      return symbol :: (← symbolsFrom .symbols t)
  | .most least n, '\x7d' :: t => do
      let symbol ← timesSymbol least n true
      return symbol :: (← symbolsFrom .symbols t)
  | .most least n, c :: t =>
      if c.isDigit then symbolsFrom (.most least (addDigit n c)) t else .error .badCount
  | .most _ _, [] => .error .badCount
  | .name true, '>' :: t => return .openNumbered :: (← symbolsFrom .symbols t)
  | .name _, c :: t =>
      if c.isAlphanum || c = '_' then symbolsFrom (.name true) t else .error .unknownGroup
  | .name _, [] => .error .unknownGroup

/-- A group as far as its symbols have been read; the parts stand in reverse. -/
structure GroupDraft where
  /-- The number of the group, if it has one. -/
  index : Option Nat
  anyCase : Bool
  /-- The alternatives before the present one. -/
  alternatives : List Pattern
  /-- The parts of the present alternative. -/
  parts : List Pattern
  /-- Whether the last symbol left a part that may be repeated. -/
  repeatable : Bool
  deriving DecidableEq, Repr

namespace GroupDraft

/-- A group of which nothing has been read. -/
def new (index : Option Nat) (anyCase : Bool) : GroupDraft := ⟨index, anyCase, [], [], false⟩

/-- The group with one more part. -/
def add (draft : GroupDraft) (part : Pattern) : GroupDraft :=
  { draft with parts := part :: draft.parts, repeatable := true }

/-- The present alternative. -/
def alternative (draft : GroupDraft) : Pattern := .sequence draft.parts.reverse

/-- The pattern of a group that has been read to its end. -/
def pattern (draft : GroupDraft) : Pattern :=
  let body := Pattern.choice (draft.alternative :: draft.alternatives).reverse
  match draft.index with
  | none => body
  | some index => .group index body

end GroupDraft

/-- Whether the characters of an item are the same in every case: one character without variants, or
a property. -/
def SetItem.isCaseless : SetItem → Bool
  | .range first last => first == last && (Unicode.caseVariants first).all (· == first)
  | .property _ _ => true

/-- A set, with its case variants if `anyCase` asks for them and there are any. -/
def setPattern (items : List SetItem) (negated anyCase : Bool) : Pattern :=
  .oneOf ⟨items, negated, anyCase && !items.all (·.isCaseless)⟩

/-- The pattern of a list of symbols, where `draft` is the innermost group begun so far, `outer` are
the groups around it, and `index` is the number of the next group. -/
def assembleFrom (draft : GroupDraft) (outer : List GroupDraft) (index : Nat) :
    List PatternSymbol → Except PatternError Pattern
  | [] => if outer.isEmpty then .ok draft.pattern else .error .unclosedGroup
  | .char c :: symbols =>
      assembleFrom (draft.add (setPattern [.range c c] false draft.anyCase)) outer index symbols
  | .set items negated :: symbols =>
      assembleFrom (draft.add (setPattern items negated draft.anyCase)) outer index symbols
  | .anyButFeed :: symbols =>
      assembleFrom (draft.add (.oneOf .anyButFeed)) outer index symbols
  | .anchor anchor :: symbols => assembleFrom (draft.add (.position anchor)) outer index symbols
  | .times least most greedy :: symbols =>
      match draft.repeatable, draft.parts with
      | true, part :: parts =>
          assembleFrom { draft with parts := part.times least most greedy :: parts } outer index
            symbols
      | _, _ => .error .nothingToRepeat
  | .bar :: symbols =>
      assembleFrom
        { draft with
          alternatives := draft.alternative :: draft.alternatives
          parts := []
          repeatable := false }
        outer index symbols
  | .openNumbered :: symbols =>
      assembleFrom (.new (some index) draft.anyCase) (draft :: outer) (index + 1) symbols
  | .openPlain :: symbols =>
      assembleFrom (.new none draft.anyCase) (draft :: outer) index symbols
  | .openCase anyCase :: symbols =>
      assembleFrom (.new none anyCase) (draft :: outer) index symbols
  | .setCase anyCase :: symbols =>
      assembleFrom { draft with anyCase := anyCase, repeatable := false } outer index symbols
  | .close :: symbols =>
      match outer with
      | [] => .error .unopenedGroup
      | parent :: outer => assembleFrom (parent.add draft.pattern) outer index symbols

/-- The pattern that a list of symbols writes; groups are numbered from one in the order in which
they open. -/
def assemble (symbols : List PatternSymbol) : Except PatternError Pattern :=
  assembleFrom (.new none false) [] 1 symbols

/-- The pattern that a text writes. -/
def Pattern.read (t : Text) : Except PatternError Pattern := do
  assemble (← symbolsFrom .symbols t)

end TextEditor
