import TextEditor.Text

/-!
# Lines

A line ends with a line feed, a carriage return, or both in this order. `splitLines` first gives
every terminator the form of a line feed and then cuts at the line feeds; a terminator at the end
leaves an empty last line. `contentLines` is the other convention: it cuts at line feeds only, drops
one carriage return before each, and has no line after a last line feed.

Main statements: `splitLines_ne_nil`, and `noTerminator_of_mem_splitLines`, that no line holds a
terminator.
-/

namespace TextEditor

/-- Line feed or carriage return. -/
def isTerminator (c : Char) : Bool := c == '\n' || c == '\r'

namespace Text

/-- Whether a text holds a line terminator. -/
def hasTerminator (t : Text) : Bool := t.any isTerminator

/-- Every carriage return that stands before a line feed is dropped. -/
def dropPairedReturns : Text → Text
  | [] => []
  | c :: t => if c == '\r' && t.head? == some '\n' then dropPairedReturns t
      else c :: dropPairedReturns t

/-- The text with every line terminator written as one line feed. -/
def normalize (t : Text) : Text :=
  (dropPairedReturns t).map fun c => if c = '\r' then '\n' else c

/-- The pieces of a text between its line feeds. -/
def splitAtFeeds : Text → List Text
  | [] => [[]]
  | c :: t =>
      if c = '\n' then [] :: splitAtFeeds t
      else match splitAtFeeds t with
        | [] => [[c]]
        | line :: lines => (c :: line) :: lines

/-- The lines of a text; there is always at least one. -/
def splitLines (t : Text) : List Text := splitAtFeeds (normalize t)

/-- The lines of several texts, in order. -/
def flattenLines (texts : List Text) : List Text := texts.flatMap splitLines

/-- The lines joined by line feeds. -/
def joinLines (lines : List Text) : Text := List.intercalate ['\n'] lines

/-- A line without the carriage return that ends it. -/
def dropFinalReturn (line : Text) : Text :=
  if line.getLast? = some '\r' then line.dropLast else line

/-- The pieces of a text that each end with a line feed, the feed and one carriage return before it
taken off, and what follows the last line feed, if anything. -/
def contentLines (t : Text) : List Text :=
  match (splitAtFeeds t).getLast? with
  | none | some [] => (splitAtFeeds t).dropLast.map dropFinalReturn
  | some last => (splitAtFeeds t).dropLast.map dropFinalReturn ++ [last]

/-- A text is in one piece at least. -/
theorem splitAtFeeds_ne_nil (t : Text) : splitAtFeeds t ≠ [] := by
  cases t with
  | nil => simp [splitAtFeeds]
  | cons c t =>
      simp only [splitAtFeeds]
      split
      · simp
      · split <;> simp

/-- There is always at least one line. -/
theorem splitLines_ne_nil (t : Text) : splitLines t ≠ [] := splitAtFeeds_ne_nil _

/-- No piece between line feeds holds a line feed, nor a character that the text does not hold. -/
theorem mem_of_mem_splitAtFeeds {t line : Text} (h : line ∈ splitAtFeeds t) {c : Char}
    (hc : c ∈ line) : c ≠ '\n' ∧ c ∈ t := by
  induction t generalizing line with
  | nil =>
      simp only [splitAtFeeds, List.mem_singleton] at h
      simp [h] at hc
  | cons d t ih =>
      by_cases hd : d = '\n'
      · simp only [splitAtFeeds, hd, if_true, List.mem_cons] at h
        rcases h with rfl | h
        · simp at hc
        · exact ⟨(ih h hc).1, List.mem_cons_of_mem _ (ih h hc).2⟩
      · cases hs : splitAtFeeds t with
        | nil => exact absurd hs (splitAtFeeds_ne_nil t)
        | cons first rest =>
            simp only [splitAtFeeds, hd, if_false, hs, List.mem_cons] at h
            rcases h with rfl | h
            · rcases List.mem_cons.1 hc with rfl | hc
              · exact ⟨hd, List.mem_cons_self ..⟩
              · have := @ih first (by simp [hs]) hc
                exact ⟨this.1, List.mem_cons_of_mem _ this.2⟩
            · have := @ih line (by simp [hs, h]) hc
              exact ⟨this.1, List.mem_cons_of_mem _ this.2⟩

/-- There is no carriage return in a text whose only terminators are line feeds. -/
theorem ne_return_of_mem_normalize {t : Text} {c : Char} (h : c ∈ normalize t) : c ≠ '\r' := by
  simp only [normalize, List.mem_map] at h
  obtain ⟨d, _, rfl⟩ := h
  split
  · decide
  · assumption

/-- No line of a text holds a terminator. -/
theorem noTerminator_of_mem_splitLines {t line : Text} (h : line ∈ splitLines t) :
    hasTerminator line = false := by
  simp only [hasTerminator, List.any_eq_false]
  intro c hc
  have hmem := mem_of_mem_splitAtFeeds h hc
  have := ne_return_of_mem_normalize hmem.2
  simp [isTerminator, hmem.1, this]

end Text

end TextEditor
