import TextEditor.Text.Lines

/-!
# Splitting and joining lines

A text with its terminators in normal form is its lines joined by line feeds. `normalize` only ever
shortens a carriage return and line feed to one, so it goes through concatenations that do not
separate such a pair.

Main statements: `joinLines_splitLines`, `normalize_append`, and `joinLines_append_cons`, which
takes a joined text apart at one of its lines.
-/

namespace TextEditor.Text

variable {s t line : Text} {lines : List Text}

/-- An empty text has no terminator. -/
@[simp] theorem hasTerminator_nil : hasTerminator [] = false := rfl

/-- A text has a terminator if its first character is one or the others have one. -/
@[simp] theorem hasTerminator_cons (c : Char) (t : Text) :
    hasTerminator (c :: t) = (isTerminator c || hasTerminator t) := rfl

/-- Texts in a row have a terminator if one of them has. -/
@[simp] theorem hasTerminator_append (s t : Text) :
    hasTerminator (s ++ t) = (hasTerminator s || hasTerminator t) := by
  simp [hasTerminator]

/-- A text is without terminators if it has neither of the two characters. -/
theorem hasTerminator_eq_false_iff : hasTerminator t = false ↔ '\n' ∉ t ∧ '\r' ∉ t := by
  rw [hasTerminator, List.any_eq_false]
  constructor
  · intro h
    exact ⟨fun hfeed => h _ hfeed rfl, fun hreturn => h _ hreturn rfl⟩
  · rintro ⟨hfeed, hreturn⟩ c hc hend
    rcases Bool.or_eq_true_iff.1 hend with heq | heq
    · exact hfeed (beq_iff_eq.1 heq ▸ hc)
    · exact hreturn (beq_iff_eq.1 heq ▸ hc)

/-- A piece of a text without terminators has none. -/
theorem hasTerminator_before (h : hasTerminator t = false) (n : Nat) :
    hasTerminator (before t n) = false := by
  rw [← before_append_after t n, hasTerminator_append, Bool.or_eq_false_iff] at h
  exact h.1

/-- What is cut from a text without terminators has none. -/
theorem hasTerminator_after (h : hasTerminator t = false) (n : Nat) :
    hasTerminator (after t n) = false := by
  rw [← before_append_after t n, hasTerminator_append, Bool.or_eq_false_iff] at h
  exact h.2

/-- The two characters that end a line are terminators, and no others. -/
theorem isTerminator_eq_false_iff {c : Char} :
    isTerminator c = false ↔ c ≠ '\n' ∧ c ≠ '\r' := by
  simp [isTerminator]

/-! ## Normal form -/

/-- An empty text stays as it is. -/
@[simp] theorem normalize_nil : normalize [] = [] := rfl

/-- A carriage return before a line feed goes; a character in any other place keeps its own form. -/
theorem normalize_cons (c : Char) (t : Text) :
    normalize (c :: t) =
      if c = '\r' ∧ t.head? = some '\n' then normalize t
      else (if c = '\r' then '\n' else c) :: normalize t := by
  by_cases h : c = '\r' ∧ t.head? = some '\n'
  · have hpair : (c == '\r' && t.head? == some '\n') = true := by simp [h]
    rw [if_pos h, normalize, dropPairedReturns, if_pos hpair, normalize]
  · have hpair : ¬ (c == '\r' && t.head? == some '\n') = true := by simpa using h
    rw [if_neg h, normalize, dropPairedReturns, if_neg hpair, List.map_cons, normalize]

/-- A text without terminators is in normal form. -/
theorem normalize_of_not_hasTerminator (h : hasTerminator t = false) : normalize t = t := by
  induction t with
  | nil => rfl
  | cons c t ih =>
      rw [hasTerminator_cons, Bool.or_eq_false_iff, isTerminator_eq_false_iff] at h
      have hpair : ¬ (c = '\r' ∧ t.head? = some '\n') := fun hc => h.1.2 hc.1
      rw [normalize_cons, if_neg hpair, if_neg h.1.2, ih h.2]

/-- The normal form of two pieces is that of each, unless they separate a carriage return from its
line feed. -/
theorem normalize_append (h : s.getLast? = some '\r' → t.head? ≠ some '\n') :
    normalize (s ++ t) = normalize s ++ normalize t := by
  induction s with
  | nil => rfl
  | cons c s ih =>
      have hrest : s.getLast? = some '\r' → t.head? ≠ some '\n' := by
        intro hlast
        apply h
        rw [List.getLast?_cons, hlast, Option.getD_some]
      have hpair : (c = '\r' ∧ (s ++ t).head? = some '\n') ↔ (c = '\r' ∧ s.head? = some '\n') := by
        cases s with
        | nil =>
            -- only here does the next character belong to `t`
            have : c = '\r' → t.head? ≠ some '\n' := by simpa using h
            simp only [List.nil_append, List.head?_nil, reduceCtorEq, and_false, iff_false, not_and]
            exact this
        | cons d s => simp
      rw [List.cons_append, normalize_cons, normalize_cons, ih hrest]
      by_cases hc : c = '\r' ∧ s.head? = some '\n'
      · rw [if_pos (hpair.2 hc), if_pos hc]
      · rw [if_neg (mt hpair.1 hc), if_neg hc, List.cons_append]

/-- Bringing a text into normal form takes no line end away. -/
theorem hasTerminator_normalize (t : Text) : hasTerminator (normalize t) = hasTerminator t := by
  induction t with
  | nil => rfl
  | cons c t ih =>
      rw [normalize_cons]
      split
      · next hpair =>
          obtain ⟨rest, rfl⟩ := List.head?_eq_some_iff.1 hpair.2
          rw [ih, hasTerminator_cons, hasTerminator_cons]
          simp [isTerminator]
      · rw [hasTerminator_cons, hasTerminator_cons, ih]
        by_cases hc : c = '\r'
        · simp [isTerminator, hc]
        · rw [if_neg hc]

/-- What stands behind a text of any kind keeps its form if it has no terminators. -/
theorem normalize_append_of_not_hasTerminator (h : hasTerminator t = false) :
    normalize (s ++ t) = normalize s ++ t := by
  rw [normalize_append, normalize_of_not_hasTerminator h]
  intro _ hhead
  obtain ⟨rest, rfl⟩ := List.head?_eq_some_iff.1 hhead
  simp [isTerminator] at h

/-! ## Joined lines -/

/-- No lines make an empty text. -/
@[simp] theorem joinLines_nil : joinLines [] = [] := rfl

/-- One line is joined to itself. -/
@[simp] theorem joinLines_singleton (line : Text) : joinLines [line] = line := by
  simp [joinLines, List.intercalate]

/-- The lines of a joined text behind the first each come after a line feed. -/
theorem joinLines_cons (line : Text) (lines : List Text) :
    joinLines (line :: lines) = line ++ lines.flatMap ('\n' :: ·) := by
  induction lines generalizing line with
  | nil => simp
  | cons next lines ih =>
      rw [List.flatMap_cons, List.cons_append, ← ih next]
      simp [joinLines, List.intercalate]

/-- A joined text around one of its lines: a line feed ends each line before it, and begins each
line behind it. -/
theorem joinLines_append_cons (front back : List Text) (line : Text) :
    joinLines (front ++ line :: back) =
      front.flatMap (· ++ ['\n']) ++ (line ++ back.flatMap ('\n' :: ·)) := by
  induction front with
  | nil => exact joinLines_cons line back
  | cons first front ih =>
      have hrest : joinLines (first :: (front ++ line :: back)) =
          first ++ '\n' :: joinLines (front ++ line :: back) := by
        obtain ⟨next, rest, hsplit⟩ : ∃ next rest, front ++ line :: back = next :: rest := by
          cases front with
          | nil => exact ⟨line, back, rfl⟩
          | cons next front => exact ⟨next, front ++ line :: back, rfl⟩
        rw [hsplit, joinLines_cons, List.flatMap_cons, joinLines_cons, List.cons_append]
      rw [List.cons_append, hrest, ih]
      simp

/-- Lines that follow another line are the joined lines after a line feed, if there are any. -/
theorem flatMap_feed_cons (h : lines ≠ []) :
    lines.flatMap ('\n' :: ·) = '\n' :: joinLines lines := by
  cases lines with
  | nil => exact absurd rfl h
  | cons line lines => rw [joinLines_cons, List.flatMap_cons, List.cons_append]

/-! ## Splitting and joining -/

/-- A text is its pieces between line feeds, joined again. -/
theorem joinLines_splitAtFeeds (t : Text) : joinLines (splitAtFeeds t) = t := by
  induction t with
  | nil => rfl
  | cons c t ih =>
      cases hs : splitAtFeeds t with
      | nil => exact absurd hs (splitAtFeeds_ne_nil t)
      | cons line lines =>
          rw [hs] at ih
          by_cases hc : c = '\n'
          · rw [splitAtFeeds, if_pos hc, hs, joinLines_cons, flatMap_feed_cons (by simp), ih, hc,
              List.nil_append]
          · rw [splitAtFeeds, if_neg hc, hs]
            rw [joinLines_cons] at ih ⊢
            rw [← ih, List.cons_append]

/-- The lines of a text join to its normal form. -/
theorem joinLines_splitLines (t : Text) : joinLines (splitLines t) = normalize t :=
  joinLines_splitAtFeeds (normalize t)

/-- A text without a line feed is in one piece. -/
theorem splitAtFeeds_of_not_mem (h : '\n' ∉ t) : splitAtFeeds t = [t] := by
  induction t with
  | nil => rfl
  | cons c t ih =>
      rw [List.mem_cons, not_or] at h
      rw [splitAtFeeds, if_neg (Ne.symm h.1), ih h.2]

/-- A text without terminators is one line. -/
theorem splitLines_of_not_hasTerminator (h : hasTerminator t = false) : splitLines t = [t] := by
  rw [splitLines, normalize_of_not_hasTerminator h]
  apply splitAtFeeds_of_not_mem
  intro hmem
  have hfalse := List.any_eq_false.1 h _ hmem
  simp [isTerminator] at hfalse

/-- A text with terminators is more than one line. -/
theorem two_le_length_splitLines (h : hasTerminator t = true) : 2 ≤ (splitLines t).length := by
  refine Nat.not_lt.1 fun hlt => ?_
  obtain ⟨line, hline⟩ : ∃ line, splitLines t = [line] := by
    apply List.length_eq_one_iff.1
    have := List.length_pos_iff.2 (splitLines_ne_nil t)
    omega
  -- a single line is the whole normal form, which then has no terminator although `t` has one
  have hjoin : line = normalize t := by
    rw [← joinLines_splitLines t, hline, joinLines_singleton]
  have hnone : hasTerminator (normalize t) = false := by
    rw [← hjoin]
    exact noTerminator_of_mem_splitLines (by rw [hline]; exact List.mem_singleton.2 rfl)
  rw [hasTerminator_normalize, h] at hnone
  exact Bool.noConfusion hnone

/-- The lines of a text with terminators: a line feed ends each but the last. -/
theorem exists_splitLines_eq (h : hasTerminator t = true) :
    ∃ first mid last, splitLines t = first :: (mid ++ [last]) ∧
      normalize t = (first :: mid).flatMap (· ++ ['\n']) ++ last := by
  have htwo := two_le_length_splitLines h
  cases hlines : splitLines t with
  | nil => exact absurd hlines (splitLines_ne_nil t)
  | cons first rest =>
      have hrest : rest ≠ [] := by
        intro hnil
        rw [hlines, hnil, List.length_singleton] at htwo
        exact absurd htwo (by decide)
      obtain ⟨mid, last, rfl⟩ : ∃ mid last, rest = mid ++ [last] :=
        ⟨_, _, (List.dropLast_concat_getLast hrest).symm⟩
      refine ⟨first, mid, last, rfl, ?_⟩
      rw [← joinLines_splitLines, hlines, ← List.cons_append, joinLines_append_cons]
      simp

/-- The first line of a text holds no terminator. -/
theorem hasTerminator_headD_splitLines (t : Text) :
    hasTerminator ((splitLines t).headD []) = false := by
  cases hlines : splitLines t with
  | nil => rfl
  | cons first rest =>
      apply noTerminator_of_mem_splitLines (t := t)
      rw [hlines]
      exact List.mem_cons_self ..

/-! ## The lines of several texts -/

/-- No line of several texts holds a terminator. -/
theorem noTerminator_of_mem_flattenLines {texts : List Text} (h : line ∈ flattenLines texts) :
    hasTerminator line = false := by
  obtain ⟨text, -, hline⟩ := List.mem_flatMap.1 h
  exact noTerminator_of_mem_splitLines hline

/-- The lines of texts are those of the first of them and those of the others. -/
theorem flattenLines_append (texts more : List Text) :
    flattenLines (texts ++ more) = flattenLines texts ++ flattenLines more :=
  List.flatMap_append

/-- Lines are the lines of themselves. -/
theorem flattenLines_eq_self (h : ∀ line ∈ lines, hasTerminator line = false) :
    flattenLines lines = lines := by
  induction lines with
  | nil => rfl
  | cons line lines ih =>
      rw [flattenLines, List.flatMap_cons,
        splitLines_of_not_hasTerminator (h line (List.mem_cons_self ..)), List.singleton_append]
      exact congrArg (line :: ·) (ih fun l hl => h l (List.mem_cons_of_mem _ hl))

/-- The lines of several texts, each after a line feed, are their normal forms, each after one. -/
theorem flatMap_feed_flattenLines (texts : List Text) :
    (flattenLines texts).flatMap ('\n' :: ·) =
      texts.flatMap fun text => '\n' :: normalize text := by
  induction texts with
  | nil => rfl
  | cons text texts ih =>
      rw [flattenLines, List.flatMap_cons, List.flatMap_append, List.flatMap_cons,
        flatMap_feed_cons (splitLines_ne_nil text), joinLines_splitLines]
      exact congrArg ('\n' :: normalize text ++ ·) ih

end TextEditor.Text
