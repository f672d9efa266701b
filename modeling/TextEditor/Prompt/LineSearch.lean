import TextEditor.Buffer.Basic

/-!
# Searching lines

A search that is refined as its query is typed: the lines that hold the query, and which of them is
selected. Changing the query looks at the lines anew and selects the first; going on or back wraps
around.
-/

namespace TextEditor

/-- A query, the lines that hold it, and which of these is selected. -/
structure LineSearch where
  query : Text
  results : List Nat
  current : Nat
  deriving DecidableEq, Repr

namespace LineSearch

/-- The search for nothing. -/
def empty : LineSearch := ⟨[], [], 0⟩

/-- The selected result, counted from zero. -/
def index? (search : LineSearch) : Option Nat :=
  if search.results.isEmpty then none else some search.current

/-- The line of the selected result. -/
def line? (search : LineSearch) : Option Nat := search.results[search.current]?

/-- The search over the present lines of a buffer, with the first result selected. -/
def refresh (search : LineSearch) (buffer : LineBuffer) : LineSearch :=
  { search with results := buffer.find search.query, current := 0 }

/-- The search with a longer query. -/
def push (search : LineSearch) (c : Char) (buffer : LineBuffer) : LineSearch :=
  { search with query := search.query ++ [c] }.refresh buffer

/-- The search with the last character taken off the query; unchanged if there is none. -/
def pop (search : LineSearch) (buffer : LineBuffer) : LineSearch :=
  if search.query.isEmpty then search
  else { search with query := search.query.dropLast }.refresh buffer

/-- The search with the result after the selected one selected, if there are results. -/
def next (search : LineSearch) : LineSearch :=
  if search.results.isEmpty then search
  else { search with current := (search.current + 1) % search.results.length }

/-- The search with the result before the selected one selected, if there are results. -/
def previous (search : LineSearch) : LineSearch :=
  if search.results.isEmpty then search
  else { search with
    current := (search.current + search.results.length - 1) % search.results.length }

end LineSearch

end TextEditor
