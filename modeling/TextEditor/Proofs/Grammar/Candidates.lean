import TextEditor.Grammar.Tokens
import TextEditor.Proofs.Pattern.Pieces

/-!
# Where candidates come from

Every candidate for a token is the find of a rule in the line. For words, patterns and refinements
this is how the candidates are listed. The literal scan carries the next matches of its rules along
and searches again only for some of them, so that it takes an invariant: what it carries was found
by a search in this line.

Main statements: `exists_of_mem_literalsFrom` and `cuts_of_mem_candidates`.
-/

namespace TextEditor

variable {line : Text} {n : Nat}

/-! ## The literal scan -/

/-- A match of a literal rule cuts no character, neither as a whole nor in what it emits. -/
structure LiteralMatch.Cuts (m : LiteralMatch) (line : Text) : Prop where
  whole : m.whole.Cuts line
  candidate : m.candidate.span.Cuts line

/-- What a literal rule finds is a piece of the line. -/
theorem Rule.cuts_of_literalAt? {rule : Rule} {m : LiteralMatch}
    (h : rule.literalAt? line n = some m) : m.Cuts line := by
  obtain ⟨found, hfound, rfl⟩ := Option.map_eq_some_iff.1 h
  have hcuts := Pattern.cuts_of_searchAt hfound
  refine ⟨hcuts.whole, ?_⟩
  show ((rule.emitted? found).getD ⟨found.whole.start, found.whole.start⟩).Cuts line
  cases hspan : rule.emitted? found with
  | none => exact ⟨Nat.le_refl _, hcuts.whole.start_boundary, hcuts.whole.start_boundary⟩
  | some span => exact hcuts.emitted hspan

namespace Upcoming

/-- Each match that the scan carries was found in the line by the rule that it stands with. -/
def AllFound (line : Text) (upcoming : List Upcoming) : Prop :=
  ∀ rule m, (rule, some m) ∈ upcoming → ∃ n, rule.literalAt? line n = some m

/-- At the start of a line each rule waits with what it finds there. -/
theorem allFound_start (line : Text) (rules : List Rule) :
    AllFound line (rules.map fun rule => (rule, rule.literalAt? line 0)) := by
  intro rule m hmem
  obtain ⟨rule', -, heq⟩ := List.mem_map.1 hmem
  obtain ⟨rfl, hm⟩ := Prod.mk.inj heq
  exact ⟨0, hm⟩

/-- Looking again where a rule has been overtaken leaves each rule with something found in the
line. -/
theorem AllFound.refresh {upcoming : List Upcoming} (h : AllFound line upcoming) (n : Nat) :
    AllFound line (upcoming.map (Upcoming.refresh line n)) := by
  intro rule m hmem
  obtain ⟨⟨rule', found⟩, hold, hnew⟩ := List.mem_map.1 hmem
  cases found with
  | none => cases hnew
  | some m' =>
      obtain ⟨rfl, hm⟩ := Prod.mk.inj hnew
      split at hm
      · exact ⟨n, hm⟩
      · obtain rfl := Option.some.inj hm
        exact h _ _ hold

/-- The leftmost of two matches is one of them. -/
theorem eq_some_of_leftOf? {best next : Option LiteralMatch} {m : LiteralMatch}
    (h : leftOf? best next = some m) : best = some m ∨ next = some m := by
  unfold leftOf? at h
  split at h
  · exact .inr h
  · exact .inl h
  · split at h
    · exact .inr h
    · exact .inl h

/-- The leftmost of the next matches is one of them. -/
theorem mem_of_leftmost? {upcoming : List Upcoming} {m : LiteralMatch}
    (h : leftmost? upcoming = some m) : ∃ rule, (rule, some m) ∈ upcoming := by
  -- the best so far is the one that the fold began with, or one of those that it has passed
  have hfold (upcoming : List Upcoming) (best : Option LiteralMatch)
      (h : upcoming.foldl (fun best first => leftOf? best first.2) best = some m) :
      best = some m ∨ ∃ rule, (rule, some m) ∈ upcoming := by
    induction upcoming generalizing best with
    | nil => exact .inl h
    | cons first upcoming ih =>
        obtain ⟨rule, next⟩ := first
        rcases ih _ h with hbest | ⟨other, hmem⟩
        · rcases eq_some_of_leftOf? hbest with hbest | rfl
          · exact .inl hbest
          · exact .inr ⟨rule, List.mem_cons_self ..⟩
        · exact .inr ⟨other, List.mem_cons_of_mem _ hmem⟩
  rcases hfold upcoming none h with hnone | hmem
  · cases hnone
  · exact hmem

/-- The leftmost of what the rules wait with is a piece of the line. -/
theorem AllFound.cuts_of_leftmost? {upcoming : List Upcoming} (h : AllFound line upcoming)
    {m : LiteralMatch} (hm : leftmost? upcoming = some m) : m.Cuts line := by
  obtain ⟨rule, hmem⟩ := mem_of_leftmost? hm
  obtain ⟨n, hn⟩ := h rule m hmem
  exact Rule.cuts_of_literalAt? hn

end Upcoming

/-- The scan goes on at a boundary. -/
theorem isBoundary_resumeAfter (hn : line.isBoundary n = true) (hlt : n < line.size)
    {m : LiteralMatch} (hm : m.whole.Cuts line) :
    line.isBoundary (resumeAfter line n m) = true := by
  unfold resumeAfter
  split
  · exact hm.stop_boundary
  · obtain ⟨s, u, rfl, rfl⟩ := Text.isBoundary_iff.1 hn
    cases u with
    | nil => simp at hlt
    | cons c u =>
        rw [Text.after_append_size]
        refine Text.isBoundary_iff.2 ⟨s ++ [c], u, by simp, ?_⟩
        simp

/-- What the scan lists was found in the line by one of the rules that it began with. -/
theorem exists_of_mem_literalsFrom {candidate : Candidate} {budget : Text}
    {upcoming : List Upcoming} (hfound : Upcoming.AllFound line upcoming)
    (h : candidate ∈ literalsFrom line budget n upcoming) :
    ∃ m : LiteralMatch, m.Cuts line ∧ m.candidate = candidate := by
  induction budget generalizing n upcoming with
  | nil => exact absurd h List.not_mem_nil
  | cons c budget ih =>
      unfold literalsFrom at h
      split at h
      · have hfound := hfound.refresh n
        simp only at h
        split at h
        · exact absurd h List.not_mem_nil
        · next m hm =>
            rcases List.mem_cons.1 h with rfl | h
            · exact ⟨m, hfound.cuts_of_leftmost? hm, rfl⟩
            · exact ih hfound h
      · exact absurd h List.not_mem_nil

/-! ## All candidates -/

namespace Grammar

variable {grammar : Grammar} {candidate : Candidate}

/-- The candidates of the literal scan are pieces of the line. -/
theorem cuts_of_mem_literalCandidates (h : candidate ∈ grammar.literalCandidates line) :
    candidate.span.Cuts line := by
  obtain ⟨m, hm, rfl⟩ :=
    exists_of_mem_literalsFrom (Upcoming.allFound_start line grammar.literals) h
  exact hm.candidate

/-- The keywords among the words of a line are pieces of it. -/
theorem cuts_of_mem_keywordCandidates (h : candidate ∈ grammar.keywordCandidates line) :
    candidate.span.Cuts line := by
  obtain ⟨span, hspan, hkeyword⟩ := List.mem_filterMap.1 h
  split at hkeyword
  · obtain rfl := Option.some.inj hkeyword
    exact Rule.cuts_of_mem_spans hspan
  · cases hkeyword

/-- All that a rule finds in a line is a piece of it. -/
theorem cuts_of_mem_ruleCandidates {rules : List Rule} (h : candidate ∈ ruleCandidates rules line) :
    candidate.span.Cuts line := by
  obtain ⟨rule, -, hrule⟩ := List.mem_flatMap.1 h
  obtain ⟨span, hspan, rfl⟩ := List.mem_map.1 hrule
  exact Rule.cuts_of_mem_spans hspan

/-- Every candidate for a token in a line begins and ends at boundaries of the line. -/
theorem cuts_of_mem_candidates (h : candidate ∈ grammar.candidates line) :
    candidate.span.Cuts line := by
  unfold candidates at h
  simp only [List.mem_append, or_assoc] at h
  rcases h with h | h | h | h
  · exact cuts_of_mem_literalCandidates h
  · exact cuts_of_mem_keywordCandidates h
  · exact cuts_of_mem_ruleCandidates h
  · exact cuts_of_mem_ruleCandidates h

end Grammar

end TextEditor
