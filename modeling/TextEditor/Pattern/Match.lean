import TextEditor.Pattern.Basic
import TextEditor.Span

/-!
# Matching

A pattern is run at a place in a text. Among all ways to match there, the run finds the one of
highest priority: the first alternative that leads to a match of the whole pattern, and as many or
as few repetitions as greed or reluctance asks for. What has to match afterwards is passed along as
a continuation, so that backing up into an earlier choice is an ordinary return of `none`.

A repetition stops as soon as one round consumes nothing, so that it always ends.
-/

namespace TextEditor

/-- A place in a text: the character before it, what follows, and its byte offset. -/
structure Place where
  previous : Option Char
  rest : Text
  offset : Nat
  deriving DecidableEq, Repr

namespace Place

/-- The start of a text. -/
def start (t : Text) : Place := ⟨none, t, 0⟩

/-- The place after the next character. -/
def next (place : Place) : Place :=
  match place.rest with
  | [] => place
  | c :: rest => ⟨some c, rest, place.offset + c.utf8Size⟩

/-- The first place at or after byte `n` that `steps` many characters reach. -/
def skipTo (n : Nat) : Text → Place → Place
  | [], place => place
  | _ :: steps, place => if n ≤ place.offset then place else skipTo n steps place.next

/-- The first place of a text at or after byte `n`. -/
def ofOffset (t : Text) (n : Nat) : Place := skipTo n t (start t)

/-- Whether exactly one of the two neighbouring characters is a word character. -/
def isWordEdge (place : Place) : Bool :=
  place.previous.any Unicode.isWord != place.rest.head?.any Unicode.isWord

end Place

/-- Whether the condition holds at a place. -/
def Anchor.holds : Anchor → Place → Bool
  | .textStart, place => place.previous.isNone
  | .textEnd, place => place.rest.isEmpty
  | .wordEdge, place => place.isWordEdge
  | .noWordEdge, place => !place.isWordEdge

/-- The spans that numbered groups have matched, the latest first. -/
abbrev Groups := List (Nat × Span)

/-- What is left to match after a pattern: a place and the groups so far lead to an outcome. -/
abbrev Continuation (α : Type) := Place → Groups → Option α

/-- Further rounds of a repetition, each of which has to consume something, and then `k`. The
rounds are no more than the characters in `budget`. -/
def repeatRounds {α : Type} (round : Place → Groups → Continuation α → Option α) (greedy : Bool)
    (k : Continuation α) : Text → Continuation α
  | [], place, groups => k place groups
  | _ :: budget, place, groups =>
      let again (_ : Unit) : Option α := round place groups fun place' groups' =>
        if place.offset < place'.offset then repeatRounds round greedy k budget place' groups'
        else none
      if greedy then (again ()).orElse fun _ => k place groups
      else (k place groups).orElse again

namespace Pattern

/-- The outcome of the preferred way to match a pattern at a place and to continue with `k`. -/
def run {α : Type} : Pattern → Place → Groups → Continuation α → Option α
  | .empty, place, groups, k => k place groups
  | .oneOf set, place, groups, k =>
      match place.rest with
      | [] => none
      | c :: _ => if set.has c then k place.next groups else none
  | .position anchor, place, groups, k => if anchor.holds place then k place groups else none
  | .seq p q, place, groups, k =>
      p.run place groups fun place' groups' => q.run place' groups' k
  | .alt p q, place, groups, k => (p.run place groups k).orElse fun _ => q.run place groups k
  | .group index p, place, groups, k =>
      p.run place groups fun place' groups' =>
        k place' ((index, ⟨place.offset, place'.offset⟩) :: groups')
  | .repeated p greedy, place, groups, k =>
      p.run place groups fun place' groups' =>
        if place.offset < place'.offset then
          repeatRounds (fun place groups k => p.run place groups k) greedy k place'.rest place'
            groups'
        else k place' groups'

end Pattern

/-- A match: the span of the whole pattern and the spans of its groups, the latest first. -/
structure Match where
  whole : Span
  groups : Groups
  deriving DecidableEq, Repr

/-- The span of a group, if the group took part in the match. -/
def Match.group? (m : Match) (index : Nat) : Option Span := m.groups.lookup index

/-- The preferred match of a pattern that begins at a place. -/
def Pattern.matchAt (p : Pattern) (place : Place) : Option Match :=
  p.run place [] fun place' groups => some ⟨⟨place.offset, place'.offset⟩, groups⟩

end TextEditor
