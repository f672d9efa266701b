import TextEditor.Proofs.Text.Joining

/-!
# Lines in one pass

The lines of a text are found by bringing it into normal form first and cutting it at its line feeds
then. One pass from the start does the same: a pair of carriage return and line feed, or either of
them alone, ends the line that has begun, and what follows begins the next; so a terminator at the
end of the text leaves an empty line begun.

Main statements: `splitLines_eq_scanLines` and `normalize_eq_withFeeds`, one pass for each of the
two; and `splitLines_joinLines`, that lines are found again in their joined text.
-/

namespace TextEditor.Text

variable {t : Text} {lines : List Text}

/-- The lines of a text found in one pass; `begun` is the part that has been read of the line the
pass is in. -/
def scanLines (begun : Text) : Text → List Text
  | [] => [begun]
  | '\r' :: '\n' :: t => begun :: scanLines [] t
  | c :: t => if isTerminator c then begun :: scanLines [] t else scanLines (begun ++ [c]) t

/-- The text with each terminator, a pair of them as well as a single one, replaced by a line feed
in one pass. -/
def withFeeds : Text → Text
  | [] => []
  | '\r' :: '\n' :: t => '\n' :: withFeeds t
  | c :: t => (if isTerminator c then '\n' else c) :: withFeeds t

/-! ## The first character -/

/-- A carriage return with a line feed becomes one line feed. -/
theorem normalize_pair (t : Text) : normalize ('\r' :: '\n' :: t) = '\n' :: normalize t := by
  rw [normalize_cons, if_pos ⟨rfl, rfl⟩, normalize_cons, if_neg (fun h => absurd h.1 (by decide)),
    if_neg (by decide)]

/-- A character that does not begin a pair is kept, or is a terminator of its own. -/
theorem normalize_cons_of_unpaired {c : Char} (h : ∀ rest, c = '\r' → t = '\n' :: rest → False) :
    normalize (c :: t) = (if isTerminator c then '\n' else c) :: normalize t := by
  have hpair : ¬ (c = '\r' ∧ t.head? = some '\n') := by
    rintro ⟨hc, hhead⟩
    obtain ⟨rest, hrest⟩ := List.head?_eq_some_iff.1 hhead
    exact h rest hc hrest
  have hsame : (if c = '\r' then '\n' else c) = if isTerminator c then '\n' else c := by
    by_cases hc : c = '\r'
    · rw [hc]
      rfl
    · by_cases hfeed : c = '\n'
      · rw [hfeed]
        rfl
      · rw [if_neg hc, isTerminator_eq_false_iff.2 ⟨hfeed, hc⟩, if_neg Bool.false_ne_true]
  rw [normalize_cons, if_neg hpair, hsame]

/-- A character other than a line feed goes to the front of the first piece. -/
theorem splitAtFeeds_cons_of_ne {c : Char} (h : c ≠ '\n') (t : Text) :
    splitAtFeeds (c :: t) = (splitAtFeeds t).modifyHead (c :: ·) := by
  rw [splitAtFeeds, if_neg h]
  cases hpieces : splitAtFeeds t with
  | nil => exact absurd hpieces (splitAtFeeds_ne_nil t)
  | cons piece pieces => rfl

/-- A carriage return with a line feed ends one line. -/
theorem splitLines_pair (t : Text) : splitLines ('\r' :: '\n' :: t) = [] :: splitLines t := by
  rw [splitLines, normalize_pair, splitAtFeeds, if_pos rfl, splitLines]

/-- A terminator at the start, which is not the first half of a pair, ends an empty line. -/
theorem splitLines_cons_of_terminator {c : Char} (hc : isTerminator c = true)
    (h : ∀ rest, c = '\r' → t = '\n' :: rest → False) :
    splitLines (c :: t) = [] :: splitLines t := by
  rw [splitLines, normalize_cons_of_unpaired h, if_pos hc, splitAtFeeds, if_pos rfl, splitLines]

/-- Any other character begins the first line. -/
theorem splitLines_cons_of_not_terminator {c : Char} (hc : isTerminator c = false) (t : Text) :
    splitLines (c :: t) = (splitLines t).modifyHead (c :: ·) := by
  have hne := isTerminator_eq_false_iff.1 hc
  rw [splitLines, normalize_cons_of_unpaired (fun _ hreturn => absurd hreturn hne.2), hc,
    if_neg Bool.false_ne_true, splitAtFeeds_cons_of_ne hne.1, splitLines]

/-! ## One pass -/

/-- One pass brings a text into normal form. -/
theorem normalize_eq_withFeeds (t : Text) : normalize t = withFeeds t := by
  fun_induction withFeeds t with
  | case1 => rfl
  | case2 t ih => rw [normalize_pair, ih]
  | case3 c t hunpaired ih => rw [normalize_cons_of_unpaired hunpaired, ih]

/-- What a pass has read of a line stands before the first line that it goes on to find. -/
theorem scanLines_eq_modifyHead (begun t : Text) :
    scanLines begun t = (splitLines t).modifyHead (begun ++ ·) := by
  have hnil : ∀ lines : List Text, lines.modifyHead ([] ++ ·) = lines := by
    intro lines
    cases lines <;> rfl
  fun_induction scanLines begun t with
  | case1 begun => exact congrArg (fun line => [line]) (List.append_nil begun).symm
  | case2 begun t ih => rw [splitLines_pair, List.modifyHead_cons, List.append_nil, ih, hnil]
  | case3 begun c t hunpaired hend ih =>
      rw [splitLines_cons_of_terminator hend hunpaired, List.modifyHead_cons, List.append_nil, ih,
        hnil]
  | case4 begun c t hunpaired hgoes ih =>
      have happend : (begun ++ [c] ++ ·) = (begun ++ ·) ∘ (c :: ·) := by
        funext line
        exact List.append_assoc begun [c] line
      rw [splitLines_cons_of_not_terminator (Bool.eq_false_iff.2 hgoes), List.modifyHead_modifyHead,
        ih, happend]

/-- One pass finds the lines of a text. -/
theorem splitLines_eq_scanLines (t : Text) : splitLines t = scanLines [] t := by
  rw [scanLines_eq_modifyHead]
  cases splitLines t <;> rfl

/-! ## Joined lines -/

/-- To cut at line feeds is to split there. -/
theorem splitAtFeeds_eq_splitOn (t : Text) : splitAtFeeds t = t.splitOn '\n' := by
  induction t with
  | nil => rfl
  | cons c t ih =>
      rw [List.splitOn_cons_eq_if_modifyHead]
      by_cases hc : c = '\n'
      · rw [splitAtFeeds, if_pos hc, if_pos (beq_iff_eq.2 hc), ih]
      · rw [splitAtFeeds_cons_of_ne hc, if_neg (mt beq_iff_eq.1 hc), ih]

/-- A text without carriage returns is in normal form. -/
theorem normalize_of_not_mem (h : '\r' ∉ t) : normalize t = t := by
  induction t with
  | nil => rfl
  | cons c t ih =>
      rw [List.mem_cons, not_or] at h
      rw [normalize_cons, if_neg (fun hpair => h.1 hpair.1.symm), if_neg (Ne.symm h.1), ih h.2]

/-- Joined lines hold no characters but theirs and line feeds. -/
theorem mem_joinLines {c : Char} (h : c ∈ joinLines lines) :
    c = '\n' ∨ ∃ line ∈ lines, c ∈ line := by
  cases lines with
  | nil => exact absurd h List.not_mem_nil
  | cons line lines =>
      rw [joinLines_cons, List.mem_append] at h
      rcases h with h | h
      · exact .inr ⟨line, List.mem_cons_self .., h⟩
      · obtain ⟨other, hother, hmem⟩ := List.mem_flatMap.1 h
        rcases List.mem_cons.1 hmem with hfeed | hmem
        · exact .inl hfeed
        · exact .inr ⟨other, List.mem_cons_of_mem _ hother, hmem⟩

/-- Lines are found again in the text that they are joined to. -/
theorem splitLines_joinLines (hne : lines ≠ [])
    (hterm : ∀ line ∈ lines, hasTerminator line = false) :
    splitLines (joinLines lines) = lines := by
  have hnone : ∀ line ∈ lines, '\n' ∉ line ∧ '\r' ∉ line := fun line hline =>
    hasTerminator_eq_false_iff.1 (hterm line hline)
  have hreturn : '\r' ∉ joinLines lines := by
    intro hmem
    rcases mem_joinLines hmem with heq | ⟨line, hline, hmem⟩
    · exact absurd heq (by decide)
    · exact (hnone line hline).2 hmem
  rw [splitLines, normalize_of_not_mem hreturn, splitAtFeeds_eq_splitOn]
  exact List.splitOn_intercalate '\n' (fun line hline => (hnone line hline).1) hne

end TextEditor.Text
