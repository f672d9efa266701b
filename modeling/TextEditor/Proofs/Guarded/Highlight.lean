import TextEditor.Highlighter
import TextEditor.Proofs.Guarded.Basic
import TextEditor.Proofs.Grammar.Candidates

/-!
# Highlighting within range

The tokens of a line, with every cut and every start of a search guarded. The literal scan stands at
boundaries only, since matches end there; the words that are looked up as keywords are spans of
matches.

Main statement: `highlight_eq`, for every highlighter and every line.
-/

namespace TextEditor.Guarded

/-- The first match of a literal rule at or after byte `n`, provided that the line is that long. -/
def literalAt (rule : Rule) (line : Text) (n : Nat) : Option (Option LiteralMatch) :=
  if n ≤ line.size then some (rule.literalAt? line n) else none

/-- The rule searched again from byte `n`, provided that its match begins before. -/
def refresh (line : Text) (n : Nat) : Upcoming → Option Upcoming
  | (rule, some m) => do
      return (rule, ← if m.whole.start < n then literalAt rule line n else some (some m))
  | (rule, none) => some (rule, none)

/-- Where the literal scan goes on after a match. -/
def resumeAfter (line : Text) (n : Nat) (m : LiteralMatch) : Option Nat :=
  if n < m.whole.stop then some m.whole.stop
  else do
    let rest ← back line n
    return n + (rest.head?.map Char.utf8Size).getD 1

/-- The literal candidates from byte `n` on, at most one for each character of `budget`. -/
def literalsFrom (line : Text) : Text → Nat → List Upcoming → Option (List Candidate)
  | [], _, _ => some []
  | _ :: budget, n, upcoming =>
      if n < line.size then do
        let upcoming ← upcoming.mapM (refresh line n)
        match Upcoming.leftmost? upcoming with
        | none => return []
        | some m =>
            let n ← resumeAfter line n m
            return m.candidate :: (← literalsFrom line budget n upcoming)
      else some []

/-- The literal candidates of a line, from left to right. -/
def literalCandidates (grammar : Grammar) (line : Text) : Option (List Candidate) := do
  let upcoming ← grammar.literals.mapM fun rule => do return (rule, ← literalAt rule line 0)
  literalsFrom line line 0 upcoming

/-- The words of a line that are keywords. -/
def keywordCandidates (grammar : Grammar) (line : Text) : Option (List Candidate) := do
  let words ← (grammar.wordRule.spans line).mapM fun span => do return (span, ← span.text? line)
  return words.filterMap fun (span, word) =>
    if grammar.isKeyword word then some ⟨.keyword, span⟩ else none

/-- The tokens of a line, by ascending start. -/
def tokenize (grammar : Grammar) (line : Text) : Option (List Token) :=
  if line.isEmpty || grammar.isPlain then some []
  else do
    let literals ← literalCandidates grammar line
    let keywords ← keywordCandidates grammar line
    return ((Claims.empty grammar.language).claimAll (literals ++ keywords ++
      Grammar.ruleCandidates grammar.patterns line ++
      Grammar.ruleCandidates grammar.refinements line)).tokens

/-- The tokens that take the place of others in one region of a line; a region that cannot be cut
out is passed over. -/
def embedTokens (highlighter : Highlighter) (line : Text) (tokens : List Token) (region : Region) :
    Option (List Token) :=
  match highlighter.embedded.lookup region.language, region.span.text? line with
  | some grammar, some text => do
      let inner ← tokenize grammar text
      return tokens.filter (fun token => !token.span.overlaps region.span) ++
        inner.map (·.shiftInto region.span.start region.language)
  | _, _ => some tokens

/-- The tokens and regions of a line, each by ascending start. -/
def highlight (highlighter : Highlighter) (line : Text) : Option Highlight :=
  if line.isEmpty then some ⟨[], []⟩
  else do
    let tokens ← tokenize highlighter.grammar line
    let regions := highlighter.grammar.regions line
    let tokens ← regions.foldlM (embedTokens highlighter line) tokens
    return ⟨tokens.mergeSort fun a b => a.span.start ≤ b.span.start, regions⟩

/-! ## The literal scan -/

variable {line : Text} {n : Nat}

/-- A rule can look for a literal from any offset in the line. -/
@[simp] theorem literalAt_of_le (h : n ≤ line.size) (rule : Rule) :
    literalAt rule line n = some (rule.literalAt? line n) := if_pos h

/-- A rule that has been overtaken can look again from any offset in the line. -/
theorem refresh_of_le (h : n ≤ line.size) (upcoming : Upcoming) :
    refresh line n upcoming = some (upcoming.refresh line n) := by
  obtain ⟨rule, found⟩ := upcoming
  cases found with
  | none => rfl
  | some m =>
      simp only [refresh, Upcoming.refresh, literalAt_of_le h]
      split <;> rfl

/-- Where the scan goes on, there is a character to step over or the line ends. -/
theorem resumeAfter_eq (hn : line.isBoundary n = true) (m : LiteralMatch) :
    resumeAfter line n m = some (TextEditor.resumeAfter line n m) := by
  unfold resumeAfter TextEditor.resumeAfter
  split
  · rfl
  · rw [back_of_isBoundary hn]
    rfl

/-- The literal scan can be carried on from any boundary. -/
theorem literalsFrom_eq {budget : Text} {upcoming : List Upcoming}
    (hn : line.isBoundary n = true) (hfound : Upcoming.AllFound line upcoming) :
    literalsFrom line budget n upcoming =
      some (TextEditor.literalsFrom line budget n upcoming) := by
  induction budget generalizing n upcoming with
  | nil => rfl
  | cons c budget ih =>
      unfold literalsFrom TextEditor.literalsFrom
      by_cases hlt : n < line.size
      · rw [if_pos hlt, if_pos hlt,
          mapM_eq_some fun item _ => refresh_of_le (Nat.le_of_lt hlt) item, Option.bind_eq_bind,
          Option.bind_some]
        have hfound' := hfound.refresh n
        generalize upcoming.map (Upcoming.refresh line n) = refreshed at hfound' ⊢
        cases hm : Upcoming.leftmost? refreshed with
        | none => simp [hm]
        | some m =>
            have hresume := isBoundary_resumeAfter hn hlt (hfound'.cuts_of_leftmost? hm).whole
            simp only [hm, resumeAfter_eq hn, Option.bind_eq_bind, Option.bind_some,
              ih hresume hfound']
            rfl
      · rw [if_neg hlt, if_neg hlt]

/-- The literal scan can be carried out on any line. -/
theorem literalCandidates_eq (grammar : Grammar) (line : Text) :
    literalCandidates grammar line = some (grammar.literalCandidates line) := by
  have hupcoming : grammar.literals.mapM (fun rule => do
        return ((rule, ← literalAt rule line 0) : Upcoming)) =
      some (grammar.literals.map fun rule => (rule, rule.literalAt? line 0)) :=
    mapM_eq_some fun rule _ => by rw [literalAt_of_le (Nat.zero_le _)]; rfl
  rw [literalCandidates, hupcoming, Option.bind_eq_bind, Option.bind_some,
    literalsFrom_eq (Text.isBoundary_zero line) (Upcoming.allFound_start line _)]
  rfl

/-! ## Words, tokens and regions -/

/-- The words of any line can be cut out and looked up. -/
theorem keywordCandidates_eq (grammar : Grammar) (line : Text) :
    keywordCandidates grammar line = some (grammar.keywordCandidates line) := by
  have hwords : (grammar.wordRule.spans line).mapM (fun span => do
        return (span, ← span.text? line)) =
      some ((grammar.wordRule.spans line).map fun span =>
        (span, line.between span.start span.stop)) :=
    mapM_eq_some fun span hspan => by rw [(Rule.cuts_of_mem_spans hspan).text?_eq]; rfl
  rw [keywordCandidates, hwords, Option.bind_eq_bind, Option.bind_some, List.filterMap_map]
  rfl

/-- Any line can be tokenized by any grammar. -/
theorem tokenize_eq (grammar : Grammar) (line : Text) :
    tokenize grammar line = some (grammar.tokenize line) := by
  unfold tokenize Grammar.tokenize
  split
  · rfl
  · rw [literalCandidates_eq, keywordCandidates_eq]
    rfl

/-- The inside of any region can be cut out and tokenized. -/
theorem embedTokens_eq (highlighter : Highlighter) (line : Text) (tokens : List Token)
    (region : Region) :
    embedTokens highlighter line tokens region =
      some (highlighter.embedTokens line tokens region) := by
  unfold embedTokens Highlighter.embedTokens
  cases highlighter.embedded.lookup region.language with
  | none => rfl
  | some grammar =>
      cases region.span.text? line with
      | none => rfl
      | some text =>
          simp only [tokenize_eq]
          rfl

/-- No highlighter goes out of range in any line. -/
@[simp] theorem highlight_eq (highlighter : Highlighter) (line : Text) :
    highlight highlighter line = some (highlighter.highlight line) := by
  unfold highlight Highlighter.highlight
  split
  · rfl
  · simp only [tokenize_eq, Option.bind_eq_bind, Option.bind_some,
      foldlM_eq_some fun tokens region _ => embedTokens_eq highlighter line tokens region]
    rfl

end TextEditor.Guarded
