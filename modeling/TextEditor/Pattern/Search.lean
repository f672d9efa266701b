import TextEditor.Pattern.Match

/-!
# Searching

`search` finds the leftmost match at or after a place. `findAll` lists the matches of a text from
left to right: each search resumes where the match before ended, and an empty match right there is
passed over.
-/

namespace TextEditor

namespace Pattern

/-- The leftmost match of a pattern that begins before one of the characters of `rest`, or after
the last of them; `previous` and `offset` complete `rest` to a place. -/
def searchFrom (p : Pattern) (previous : Option Char) (offset : Nat) : Text → Option Match
  | [] => p.matchAt ⟨previous, [], offset⟩
  | c :: rest =>
      (p.matchAt ⟨previous, c :: rest, offset⟩).orElse fun _ =>
        searchFrom p (some c) (offset + c.utf8Size) rest

/-- The leftmost match at or after a place. -/
def search (p : Pattern) (place : Place) : Option Match :=
  searchFrom p place.previous place.offset place.rest

/-- The leftmost match at or after byte `n` of a text; what stands before counts as context. -/
def searchAt (p : Pattern) (t : Text) (n : Nat) : Option Match := p.search (Place.ofOffset t n)

/-- The next match when the last one ended at `place`, as `resumed` says; an empty match there is
passed over in favour of one that begins further on. -/
def nextMatch (p : Pattern) (place : Place) (resumed : Bool) : Option Match :=
  match p.search place with
  | none => none
  | some m =>
      if resumed && m.whole.stop == place.offset then
        if place.rest.isEmpty then none else p.search place.next
      else some m

/-- Matches from a place on, one for each character of `budget` at most. -/
def findFrom (p : Pattern) : Text → Place → Bool → List Match
  | [], _, _ => []
  | _ :: budget, place, resumed =>
      match p.nextMatch place resumed with
      | none => []
      | some m => m :: findFrom p budget (Place.skipTo m.whole.stop place.rest place) true

/-- All matches in a text, from left to right and without overlap. -/
def findAll (p : Pattern) (t : Text) : List Match := findFrom p (' ' :: t) (Place.start t) false

end Pattern

end TextEditor
