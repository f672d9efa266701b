import TextEditor.Proofs.Text.Decoding
import TextEditor.Proofs.Text.Joining

/-!
# The lines of a content

A content that is read piece by piece is cut at its line feeds, and the pieces are cut again where
they hold carriage returns of their own. The lines are then those of the content as a whole, except
that a terminator at the very end opens no further line.

Main statements: `contentLines_append_feed` and `feedInduction`, by which a content is read from the
front, and `flattenLines_contentLines`.
-/

namespace TextEditor.Text

variable {s t : Text}

/-- The text without the line feed that ends it, if one does, and the carriage return before. -/
def dropFinalFeed (t : Text) : Text :=
  if t.getLast? = some '\n' then dropFinalReturn t.dropLast else t

/-! ## The end of a text -/

/-- An empty text has no final carriage return. -/
@[simp] theorem dropFinalReturn_nil : dropFinalReturn [] = [] := rfl

/-- A final carriage return is dropped. -/
theorem dropFinalReturn_concat (s : Text) : dropFinalReturn (s ++ ['\r']) = s := by
  rw [dropFinalReturn, List.getLast?_concat, if_pos rfl, List.dropLast_concat]

/-- Any other end is kept. -/
theorem dropFinalReturn_of_ne (h : t.getLast? ≠ some '\r') : dropFinalReturn t = t := if_neg h

/-- Only the end of what comes last matters to a carriage return that may end the text. -/
theorem dropFinalReturn_append_feed (s t : Text) :
    dropFinalReturn (s ++ '\n' :: t) = s ++ '\n' :: dropFinalReturn t := by
  by_cases ht : t = []
  · rw [ht, dropFinalReturn_of_ne]
    · rfl
    · rw [List.getLast?_concat]
      decide
  · obtain ⟨front, last, rfl⟩ : ∃ front last, t = front ++ [last] :=
      ⟨_, _, (List.dropLast_concat_getLast ht).symm⟩
    unfold dropFinalReturn
    rw [← List.cons_append, ← List.append_assoc, List.getLast?_concat, List.getLast?_concat,
      List.dropLast_concat, List.dropLast_concat]
    split <;> simp

/-- An empty text has no final line feed. -/
@[simp] theorem dropFinalFeed_nil : dropFinalFeed [] = [] := rfl

/-- A final line feed is dropped, with the carriage return before it. -/
theorem dropFinalFeed_concat (s : Text) : dropFinalFeed (s ++ ['\n']) = dropFinalReturn s := by
  rw [dropFinalFeed, List.getLast?_concat, if_pos rfl, List.dropLast_concat]

/-- A text without a line feed is kept. -/
theorem dropFinalFeed_of_not_mem (h : '\n' ∉ t) : dropFinalFeed t = t :=
  if_neg fun hlast => h (List.mem_of_getLast? hlast)

/-- A line feed before the end is kept. -/
theorem dropFinalFeed_append_feed (s : Text) (ht : t ≠ []) :
    dropFinalFeed (s ++ '\n' :: t) = s ++ '\n' :: dropFinalFeed t := by
  obtain ⟨front, last, rfl⟩ : ∃ front last, t = front ++ [last] :=
    ⟨_, _, (List.dropLast_concat_getLast ht).symm⟩
  unfold dropFinalFeed
  rw [← List.cons_append, ← List.append_assoc, List.getLast?_concat, List.getLast?_concat,
    List.dropLast_concat, List.dropLast_concat]
  split
  · exact dropFinalReturn_append_feed s front
  · simp

/-! ## Cutting at a line feed -/

/-- The pieces of a text are those of the parts before and after one of its line feeds. -/
theorem splitAtFeeds_append_feed (s t : Text) :
    splitAtFeeds (s ++ '\n' :: t) = splitAtFeeds s ++ splitAtFeeds t := by
  induction s with
  | nil => rfl
  | cons c s ih =>
      rw [List.cons_append, splitAtFeeds, splitAtFeeds, ih]
      split
      · rfl
      · cases hs : splitAtFeeds s with
        | nil => exact absurd hs (splitAtFeeds_ne_nil s)
        | cons line lines => rfl

/-- Bringing a text into normal form goes through a line feed, which takes a carriage return before
it along. -/
theorem normalize_append_feed (s t : Text) :
    normalize (s ++ '\n' :: t) = normalize (dropFinalReturn s) ++ '\n' :: normalize t := by
  have hfeed : normalize ('\n' :: t) = '\n' :: normalize t := by
    rw [normalize_cons, if_neg (fun h => absurd h.1 (by decide)), if_neg (by decide)]
  by_cases hs : s.getLast? = some '\r'
  · obtain ⟨front, rfl⟩ := List.getLast?_eq_some_iff.1 hs
    have hpair : normalize ('\r' :: '\n' :: t) = normalize ('\n' :: t) := by
      rw [normalize_cons, if_pos ⟨rfl, rfl⟩]
    have hhead : ('\r' :: '\n' :: t).head? ≠ some '\n' := by
      rw [List.head?_cons]
      decide
    rw [dropFinalReturn_concat, List.append_assoc, List.singleton_append,
      normalize_append (fun _ => hhead), hpair, hfeed]
  · rw [dropFinalReturn_of_ne hs, normalize_append (fun h => absurd h hs), hfeed]

/-- The lines of a text are those before and those after one of its line feeds. -/
theorem splitLines_append_feed (s t : Text) :
    splitLines (s ++ '\n' :: t) = splitLines (dropFinalReturn s) ++ splitLines t := by
  rw [splitLines, normalize_append_feed, splitAtFeeds_append_feed, splitLines, splitLines]

/-! ## Reading from the front -/

/-- Up to its first line feed a text is a line, without the carriage return before that. -/
theorem contentLines_append_feed (hs : '\n' ∉ s) (t : Text) :
    contentLines (s ++ '\n' :: t) = dropFinalReturn s :: contentLines t := by
  have hcut : splitAtFeeds (s ++ '\n' :: t) = s :: splitAtFeeds t := by
    rw [splitAtFeeds_append_feed, splitAtFeeds_of_not_mem hs, List.singleton_append]
  obtain ⟨last, hlast⟩ : ∃ last, (splitAtFeeds t).getLast? = some last := by
    rw [List.getLast?_eq_some_getLast (splitAtFeeds_ne_nil t)]
    exact ⟨_, rfl⟩
  unfold contentLines
  rw [hcut, List.getLast?_cons, List.dropLast_cons_of_ne_nil (splitAtFeeds_ne_nil t), hlast]
  cases last with
  | nil => rfl
  | cons c last => rfl

/-- A text without a line feed is one line. -/
theorem contentLines_of_not_mem (ht : '\n' ∉ t) (hne : t ≠ []) : contentLines t = [t] := by
  unfold contentLines
  rw [splitAtFeeds_of_not_mem ht]
  cases t with
  | nil => exact absurd rfl hne
  | cons c t => rfl

/-- An empty text has no lines. -/
@[simp] theorem contentLines_nil : contentLines [] = [] := rfl

/-- A text is read from the front: up to its first line feed, and then what stands behind that. -/
@[elab_as_elim]
theorem feedInduction {motive : Text → Prop} (whole : ∀ t, '\n' ∉ t → motive t)
    (cut : ∀ s rest, '\n' ∉ s → motive rest → motive (s ++ '\n' :: rest)) (t : Text) :
    motive t := by
  induction hn : t.length using Nat.strongRecOn generalizing t with
  | ind n ih =>
      by_cases hmem : '\n' ∈ t
      · obtain ⟨s, rest, rfl, hs⟩ := List.eq_append_cons_of_mem hmem
        refine cut s rest hs (ih rest.length ?_ rest rfl)
        rw [← hn, List.length_append, List.length_cons]
        omega
      · exact whole t hmem

/-- The lines that a content is read in are those of the content without its last line feed. -/
theorem flattenLines_contentLines (hne : t ≠ []) :
    flattenLines (contentLines t) = splitLines (dropFinalFeed t) := by
  induction t using feedInduction with
  | whole t hmem =>
      rw [contentLines_of_not_mem hmem hne, dropFinalFeed_of_not_mem hmem]
      exact List.append_nil (splitLines t)
  | cut s rest hs ih =>
      rw [contentLines_append_feed hs, flattenLines, List.flatMap_cons]
      by_cases hrest : rest = []
      · rw [hrest, dropFinalFeed_concat, contentLines_nil, List.flatMap_nil, List.append_nil]
      · rw [dropFinalFeed_append_feed s hrest, splitLines_append_feed, ← ih hrest, flattenLines]

end TextEditor.Text
