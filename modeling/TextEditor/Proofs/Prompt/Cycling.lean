import Mathlib.Data.List.Rotate
import TextEditor.Prompt.LineSearch
import TextEditor.Proofs.Buffer.Finding

/-!
# Searches that wrap around

A search has the results of looking for its query in the lines as they were when the query last
changed, and one of them is selected. Going on and going back lead around the results in the two
directions, so that each undoes the other, and as many steps as there are results lead past each of
them and to the one selected before.

Main statements: `Of.previous_next` and `Of.next_previous`; `Settled.performAll`, what every move of
a search keeps; `Of.visited_next` and `Of.visited_previous`, the results that a whole round leads
past; and `performAll_cycles` for all of it.
-/

namespace TextEditor

/-- What can be done with a search, where need be over the lines as they are at that time. -/
inductive SearchMove where
  | push (c : Char) (buffer : LineBuffer)
  | pop (buffer : LineBuffer)
  | clear
  | refresh (buffer : LineBuffer)
  | next
  | previous

namespace LineSearch

variable {search : LineSearch} {looked : LineBuffer}

/-- The results are those of looking for the query in a buffer, and one of them is selected. -/
structure Of (looked : LineBuffer) (search : LineSearch) : Prop where
  results_eq : search.results = looked.find search.query
  current_lt : search.results ≠ [] → search.current < search.results.length

/-- A search for nothing has no results, whatever was looked at. -/
theorem of_empty (looked : LineBuffer) : Of looked empty := ⟨rfl, fun h => absurd rfl h⟩

/-- A search that has been looked up afresh has just the lines that hold the query. -/
theorem of_refresh (search : LineSearch) (looked : LineBuffer) :
    Of looked (search.refresh looked) :=
  ⟨rfl, fun h => List.length_pos_iff.2 h⟩

/-- Changing the query looks at the lines anew. -/
theorem query_push_ne (search : LineSearch) (c : Char) (looked : LineBuffer) :
    (search.push c looked).query ≠ search.query := by
  intro h
  have hlength : (search.query ++ [c]).length = search.query.length := congrArg List.length h
  rw [List.length_append, List.length_singleton] at hlength
  omega

/-- Taking a character off leaves the search as it is, or looks at the lines anew for a shorter
query. -/
theorem pop_cases (search : LineSearch) (looked : LineBuffer) :
    search.pop looked = search ∨
      (search.pop looked).query ≠ search.query ∧ Of looked (search.pop looked) := by
  unfold pop
  split
  · exact .inl rfl
  · next hquery =>
      refine .inr ⟨fun h => ?_, of_refresh _ looked⟩
      have hlength : search.query.dropLast.length = search.query.length := congrArg List.length h
      have hpos : 0 < search.query.length :=
        List.length_pos_iff.2 fun hnil => hquery (List.isEmpty_iff.2 hnil)
      rw [List.length_dropLast] at hlength
      omega

/-- With results, to go on is to add one to the position, around the end. -/
theorem next_of_ne_nil (h : search.results ≠ []) :
    search.next = { search with current := (search.current + 1) % search.results.length } :=
  if_neg fun hempty => h (List.isEmpty_iff.1 hempty)

/-- With results, to go back is to take one from the position, around the start. -/
theorem previous_of_ne_nil (h : search.results ≠ []) :
    search.previous = { search with
      current := (search.current + search.results.length - 1) % search.results.length } :=
  if_neg fun hempty => h (List.isEmpty_iff.1 hempty)

/-- Without results there is nothing to go on to. -/
theorem next_of_nil (h : search.results = []) : search.next = search :=
  if_pos (List.isEmpty_iff.2 h)

/-- Without results there is nothing to go back to. -/
theorem previous_of_nil (h : search.results = []) : search.previous = search :=
  if_pos (List.isEmpty_iff.2 h)

/-- One on and one back, around `n` places. -/
theorem back_of_on {i n : Nat} (h : i < n) : ((i + 1) % n + n - 1) % n = i := by
  rcases Nat.lt_or_eq_of_le (Nat.succ_le_of_lt h) with hlt | hlast
  · rw [Nat.mod_eq_of_lt hlt, Nat.succ_add, Nat.succ_sub_one, Nat.add_mod_right,
      Nat.mod_eq_of_lt h]
  · rw [← hlast, Nat.mod_self, Nat.zero_add]
    exact Nat.mod_eq_of_lt (Nat.lt_succ_self i)

/-- One back and one on, around `n` places. -/
theorem on_of_back {i n : Nat} (h : i < n) : ((i + n - 1) % n + 1) % n = i := by
  cases i with
  | zero =>
      have hlt : n - 1 < n := Nat.sub_lt h Nat.zero_lt_one
      rw [Nat.zero_add, Nat.mod_eq_of_lt hlt, Nat.sub_add_cancel h, Nat.mod_self]
  | succ i =>
      rw [Nat.add_right_comm, Nat.add_sub_cancel, Nat.add_mod_right,
        Nat.mod_eq_of_lt (Nat.lt_of_succ_lt h), Nat.mod_eq_of_lt h]

/-- Going on keeps query and results. -/
theorem next_kept (search : LineSearch) :
    search.next.query = search.query ∧ search.next.results = search.results := by
  unfold next
  split
  · exact ⟨rfl, rfl⟩
  · exact ⟨rfl, rfl⟩

/-- Going back keeps query and results. -/
theorem previous_kept (search : LineSearch) :
    search.previous.query = search.query ∧ search.previous.results = search.results := by
  unfold previous
  split
  · exact ⟨rfl, rfl⟩
  · exact ⟨rfl, rfl⟩

namespace Of

/-- Going on stays with the results. -/
theorem next (h : Of looked search) : Of looked search.next := by
  by_cases hnil : search.results = []
  · rwa [next_of_nil hnil]
  · rw [next_of_ne_nil hnil]
    exact ⟨h.results_eq, fun _ => Nat.mod_lt _ (List.length_pos_iff.2 hnil)⟩

/-- Going back stays with the results. -/
theorem previous (h : Of looked search) : Of looked search.previous := by
  by_cases hnil : search.results = []
  · rwa [previous_of_nil hnil]
  · rw [previous_of_ne_nil hnil]
    exact ⟨h.results_eq, fun _ => Nat.mod_lt _ (List.length_pos_iff.2 hnil)⟩

/-- The selected result is the number of a line that holds the query. -/
theorem mem_results {line : Nat} (h : Of looked search) :
    line ∈ search.results ↔
      line < looked.length ∧ search.query ≠ [] ∧ search.query <:+: looked.line line := by
  rw [h.results_eq]
  exact LineBuffer.mem_find_iff

/-- The line that is selected is one of the buffer that was looked at. -/
theorem line?_lt {line : Nat} (h : Of looked search) (hline : search.line? = some line) :
    line < looked.length := (h.mem_results.1 (List.mem_of_getElem? hline)).1

/-- One of the results is selected if there are results. -/
theorem exists_line? (h : Of looked search) (hresults : search.results ≠ []) :
    ∃ line, search.line? = some line := ⟨_, List.getElem?_eq_getElem (h.current_lt hresults)⟩

/-- Going on and back again selects the same result. -/
theorem previous_next (h : Of looked search) : search.next.previous = search := by
  by_cases hnil : search.results = []
  · rw [next_of_nil hnil, previous_of_nil hnil]
  · have hon : search.next.results ≠ [] := by rwa [next_of_ne_nil hnil]
    rw [previous_of_ne_nil hon, next_of_ne_nil hnil]
    simp only [back_of_on (h.current_lt hnil)]

/-- Going back and on again selects the same result. -/
theorem next_previous (h : Of looked search) : search.previous.next = search := by
  by_cases hnil : search.results = []
  · rw [previous_of_nil hnil, next_of_nil hnil]
  · have hback : search.previous.results ≠ [] := by rwa [previous_of_ne_nil hnil]
    rw [next_of_ne_nil hback, previous_of_ne_nil hnil]
    simp only [on_of_back (h.current_lt hnil)]

end Of

/-! ## Moves of a search -/

/-- The search after a move. -/
def perform (search : LineSearch) : SearchMove → LineSearch
  | .push c buffer => search.push c buffer
  | .pop buffer => search.pop buffer
  | .clear => empty
  | .refresh buffer => search.refresh buffer
  | .next => search.next
  | .previous => search.previous

/-- The search after several moves. -/
def performAll (search : LineSearch) (moves : List SearchMove) : LineSearch :=
  moves.foldl perform search

/-- The results are those of some buffer, one of them is selected, and the place of the selected one
is the first if there are none. -/
structure Settled (search : LineSearch) : Prop where
  of : ∃ looked, Of looked search
  current_eq_zero : search.results = [] → search.current = 0

/-- A search for nothing is settled. -/
theorem settled_empty : Settled empty := ⟨⟨.empty .plain, of_empty _⟩, fun _ => rfl⟩

/-- A search that has just been looked up is settled. -/
theorem settled_refresh (search : LineSearch) (looked : LineBuffer) :
    (search.refresh looked).Settled := ⟨⟨looked, of_refresh search looked⟩, fun _ => rfl⟩

/-- A settled search stays so by every move. -/
theorem Settled.perform (h : search.Settled) (move : SearchMove) :
    (search.perform move).Settled := by
  obtain ⟨⟨looked, hof⟩, hzero⟩ := h
  cases move with
  | push c buffer => exact settled_refresh _ buffer
  | pop buffer =>
      show (search.pop buffer).Settled
      unfold pop
      split
      · exact ⟨⟨looked, hof⟩, hzero⟩
      · exact settled_refresh _ buffer
  | clear => exact settled_empty
  | refresh buffer => exact settled_refresh search buffer
  | next =>
      refine ⟨⟨looked, hof.next⟩, fun hnil => ?_⟩
      have hnone : search.results = [] := search.next_kept.2.symm.trans hnil
      show search.next.current = 0
      rw [next_of_nil hnone, hzero hnone]
  | previous =>
      refine ⟨⟨looked, hof.previous⟩, fun hnil => ?_⟩
      have hnone : search.results = [] := search.previous_kept.2.symm.trans hnil
      show search.previous.current = 0
      rw [previous_of_nil hnone, hzero hnone]

/-- A settled search stays so by any number of moves. -/
theorem Settled.performAll (h : search.Settled) (moves : List SearchMove) :
    (search.performAll moves).Settled := by
  induction moves generalizing search with
  | nil => exact h
  | cons move moves ih => exact ih (h.perform move)

/-! ## A whole round -/

/-- The lines selected after each of `n` steps of one kind. -/
def visited (step : LineSearch → LineSearch) (search : LineSearch) (n : Nat) : List (Option Nat) :=
  (List.range n).map fun i => (step^[i + 1] search).line?

namespace Of

/-- Going on `n` times moves the selection by `n` places around the results. -/
theorem next_iterate (h : Of looked search) (hresults : search.results ≠ []) (n : Nat) :
    LineSearch.next^[n] search =
      { search with current := (search.current + n) % search.results.length } := by
  induction n with
  | zero =>
      show search = _
      rw [Nat.add_zero, Nat.mod_eq_of_lt (h.current_lt hresults)]
  | succ n ih =>
      rw [Function.iterate_succ_apply', ih]
      have hmoved : ({ search with
          current := (search.current + n) % search.results.length } : LineSearch).results ≠ [] :=
        hresults
      rw [next_of_ne_nil hmoved]
      show { search with
        current := ((search.current + n) % search.results.length + 1) % search.results.length } = _
      rw [Nat.mod_add_mod, Nat.add_assoc]

/-- A whole round on ends where it began. -/
theorem next_round (h : Of looked search) :
    LineSearch.next^[search.results.length] search = search := by
  by_cases hnil : search.results = []
  · rw [hnil]
    rfl
  · rw [h.next_iterate hnil, Nat.add_mod_right, Nat.mod_eq_of_lt (h.current_lt hnil)]

/-- Going on any number of times stays with the results. -/
theorem iterate_next (h : Of looked search) (n : Nat) : Of looked (LineSearch.next^[n] search) := by
  induction n with
  | zero => exact h
  | succ n ih =>
      rw [Function.iterate_succ_apply']
      exact ih.next

/-- Going back `n` times is going on as often as is missing to a whole round. -/
theorem previous_iterate (h : Of looked search) {n : Nat} (hn : n ≤ search.results.length) :
    LineSearch.previous^[n] search = LineSearch.next^[search.results.length - n] search := by
  induction n with
  | zero => exact h.next_round.symm
  | succ n ih =>
      have hleft : search.results.length - n = search.results.length - (n + 1) + 1 := by omega
      rw [Function.iterate_succ_apply', ih (Nat.le_of_succ_le hn), hleft,
        Function.iterate_succ_apply', (h.iterate_next _).previous_next]

/-- The line selected after going on `n` times. -/
theorem line?_next_iterate (h : Of looked search) (hresults : search.results ≠ []) (n : Nat) :
    (LineSearch.next^[n] search).line? =
      search.results[(search.current + n) % search.results.length]? := by
  rw [h.next_iterate hresults]
  rfl

/-- A whole round on leads past the results from the one behind the selected one. -/
theorem visited_next (h : Of looked search) :
    visited LineSearch.next search search.results.length =
      (search.results.rotate (search.current + 1)).map some := by
  refine List.ext_getElem (by simp [visited]) fun i hi _ => ?_
  have hlt : i < search.results.length := by simpa [visited] using hi
  have hresults : search.results ≠ [] := List.length_pos_iff.1 (Nat.zero_lt_of_lt hlt)
  simp only [visited, List.getElem_map, List.getElem_range, List.getElem_rotate]
  rw [h.line?_next_iterate hresults, ← List.getElem?_eq_getElem]
  congr 2
  omega

/-- A whole round back leads past the results from the one before the selected one. -/
theorem visited_previous (h : Of looked search) :
    visited LineSearch.previous search search.results.length =
      ((search.results.rotate search.current).map some).reverse := by
  refine List.ext_getElem (by simp [visited]) fun i hi _ => ?_
  have hlt : i < search.results.length := by simpa [visited] using hi
  have hresults : search.results ≠ [] := List.length_pos_iff.1 (Nat.zero_lt_of_lt hlt)
  simp only [visited, List.getElem_map, List.getElem_range, List.getElem_reverse,
    List.length_map, List.length_rotate, List.getElem_rotate]
  rw [h.previous_iterate hlt, h.line?_next_iterate hresults, ← List.getElem?_eq_getElem]
  congr 2
  omega

end Of

/-- One of the results of a search is selected, and going on and going back lead around them. -/
structure Cycles (search : LineSearch) : Prop where
  /-- Where there are no results the place of the selected one is the first. -/
  selected : search.results = [] ∧ search.current = 0 ∨ search.current < search.results.length
  /-- There is a place exactly if there is a line. -/
  shown : search.index?.isSome = search.line?.isSome
  sorted : search.results.Pairwise (· < ·)
  on_back : search.next.previous = search
  back_on : search.previous.next = search
  /-- A whole round on leads past each result once, and to where it began. -/
  visits_on : (visited next search search.results.length).Perm (search.results.map some)
  round_on : next^[search.results.length] search = search
  /-- So does a whole round back. -/
  visits_back : (visited previous search search.results.length).Perm (search.results.map some)
  round_back : previous^[search.results.length] search = search

/-- Where one of the results is selected, or there are none, there is a place exactly if there is a
line. -/
theorem isSome_index?_eq
    (h : search.results = [] ∧ search.current = 0 ∨ search.current < search.results.length) :
    search.index?.isSome = search.line?.isSome := by
  rcases h with ⟨hnil, -⟩ | hlt
  · simp [index?, line?, hnil]
  · have hresults : search.results ≠ [] := List.length_pos_iff.1 (Nat.zero_lt_of_lt hlt)
    simp [index?, line?, hresults, hlt]

/-- After any moves, whatever the lines are at each of them, going on and going back lead around the
results of a search. -/
theorem performAll_cycles (moves : List SearchMove) : (empty.performAll moves).Cycles := by
  generalize hsearch : empty.performAll moves = search
  obtain ⟨⟨looked, hof⟩, hzero⟩ : search.Settled := hsearch ▸ settled_empty.performAll moves
  have hselected :
      search.results = [] ∧ search.current = 0 ∨ search.current < search.results.length := by
    by_cases hnil : search.results = []
    · exact .inl ⟨hnil, hzero hnil⟩
    · exact .inr (hof.current_lt hnil)
  refine ⟨hselected, isSome_index?_eq hselected, ?_, hof.previous_next, hof.next_previous, ?_,
    hof.next_round, ?_, ?_⟩
  · rw [hof.results_eq]
    exact LineBuffer.pairwise_find looked search.query
  · rw [hof.visited_next]
    exact (List.rotate_perm search.results _).map some
  · rw [hof.visited_previous]
    exact (List.reverse_perm _).trans ((List.rotate_perm search.results _).map some)
  · rw [hof.previous_iterate (Nat.le_refl _), Nat.sub_self]
    rfl

end LineSearch

end TextEditor
