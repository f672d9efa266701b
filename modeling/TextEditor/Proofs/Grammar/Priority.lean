import Mathlib.Data.List.Pairwise
import Mathlib.Data.List.Sort
import TextEditor.Proofs.Grammar.Claiming
import TextEditor.Proofs.Grammar.LiteralScan
import TextEditor.Proofs.Pattern.Succession

/-!
# Which candidates become tokens

The candidates of a line are ranked by the order in which they are offered. A candidate stands if it
is not empty and touches no candidate of smaller rank that stands; this says nothing of how tokens
are kept or compared. The tokens of a line are the candidates that stand. Literals always stand,
since the scan lists them one after the other, and what is offered later changes nothing about
those that are there.

Main statements: `Claims.mem_claimAll_iff`, `mem_tokenize_iff` and `tokenize_priority`, and
`tokenize_eq_map`, by which the tokens of a line are known from its candidates.
-/

namespace TextEditor

variable {line : Text} {candidate : Candidate} {candidates more : List Candidate} {rank : Nat}

/-- The token that a candidate becomes. -/
def Candidate.token (candidate : Candidate) (language : Language) : Token :=
  ⟨candidate.kind, candidate.span, language⟩

/-- The candidate of a rank is not empty and touches none of smaller rank that stands. -/
def Stands (candidates : List Candidate) (rank : Nat) : Prop :=
  ∃ candidate, candidates[rank]? = some candidate ∧
    candidate.span.start < candidate.span.stop ∧
    ∀ lower other, lower < rank → candidates[lower]? = some other → Stands candidates lower →
      other.span.Apart candidate.span
termination_by rank

/-! ## Ranks -/

/-- Whether a candidate stands depends on those before it alone. -/
theorem stands_append_iff (h : rank < candidates.length) :
    Stands (candidates ++ more) rank ↔ Stands candidates rank := by
  induction rank using Nat.strongRecOn with
  | ind rank ih =>
      have hsame {lower : Nat} (hle : lower ≤ rank) :
          (candidates ++ more)[lower]? = candidates[lower]? :=
        List.getElem?_append_left (Nat.lt_of_le_of_lt hle h)
      rw [Stands, Stands, hsame (Nat.le_refl rank)]
      refine exists_congr fun candidate => and_congr_right fun _ => and_congr_right fun _ => ?_
      refine forall_congr' fun lower => forall_congr' fun other => forall_congr' fun hlt => ?_
      rw [hsame (Nat.le_of_lt hlt), ih lower hlt (Nat.lt_trans hlt h)]

/-- A candidate offered last stands if it is not empty and apart from all that stand before it. -/
theorem stands_concat_iff : Stands (candidates ++ [candidate]) candidates.length ↔
    candidate.span.start < candidate.span.stop ∧
      ∀ lower other, candidates[lower]? = some other → Stands candidates lower →
        other.span.Apart candidate.span := by
  have hlast : (candidates ++ [candidate])[candidates.length]? = some candidate :=
    List.getElem?_concat_length
  rw [Stands, hlast]
  constructor
  · rintro ⟨other, hother, hlt, hapart⟩
    obtain rfl := Option.some.inj hother
    refine ⟨hlt, fun lower other hget hstands => ?_⟩
    have hlower : lower < candidates.length := (List.getElem?_eq_some_iff.1 hget).1
    refine hapart lower other hlower ?_ ((stands_append_iff hlower).2 hstands)
    rw [List.getElem?_append_left hlower, hget]
  · rintro ⟨hlt, hapart⟩
    refine ⟨candidate, rfl, hlt, fun lower other hlower hget hstands => ?_⟩
    rw [List.getElem?_append_left hlower] at hget
    exact hapart lower other hget ((stands_append_iff hlower).1 hstands)

/-! ## Claiming in order -/

namespace Claims

/-- Claiming a candidate adds its token if it is not empty and apart from all tokens. -/
theorem Laid.mem_claim_iff {claims : Claims} (h : claims.Laid line) {token : Token} :
    token ∈ (claims.claim candidate).2.tokens ↔
      token ∈ claims.tokens ∨
        (candidate.span.start < candidate.span.stop ∧
          ∀ other ∈ claims.tokens, other.span.Apart candidate.span) ∧
        token = candidate.token claims.language := by
  rw [← h.admits_iff]
  exact h.inOrder.mem_claim_iff

/-- The tokens claimed from candidates in order are the candidates that stand. -/
theorem mem_claimAll_iff (language : Language)
    (hcuts : ∀ candidate ∈ candidates, candidate.span.Cuts line) {token : Token} :
    token ∈ ((empty language).claimAll candidates).tokens ↔
      ∃ rank candidate, candidates[rank]? = some candidate ∧ Stands candidates rank ∧
        token = candidate.token language := by
  induction candidates using List.reverseRecOn generalizing token with
  | nil =>
      refine ⟨fun h => absurd h List.not_mem_nil, ?_⟩
      rintro ⟨rank, candidate, hget, -⟩
      simp at hget
  | append_singleton candidates last ih =>
      have hbefore : ∀ candidate ∈ candidates, candidate.span.Cuts line := fun candidate hmem =>
        hcuts candidate (List.mem_append_left _ hmem)
      have hlaid := (laid_empty language line).claimAll hbefore
      have hlanguage : ((empty language).claimAll candidates).language = language :=
        claimAll_language (empty language) candidates
      -- the last candidate is admitted exactly if it stands
      have hlast : (last.span.start < last.span.stop ∧
          ∀ other ∈ ((empty language).claimAll candidates).tokens,
            other.span.Apart last.span) ↔ Stands (candidates ++ [last]) candidates.length := by
        rw [stands_concat_iff]
        refine and_congr_right fun _ => ⟨fun h lower other hget hstands => ?_, fun h => ?_⟩
        · exact h (other.token language) ((ih hbefore).2 ⟨lower, other, hget, hstands, rfl⟩)
        · intro token hmem
          obtain ⟨lower, other, hget, hstands, rfl⟩ := (ih hbefore).1 hmem
          exact h lower other hget hstands
      have hclaim : (empty language).claimAll (candidates ++ [last]) =
          (((empty language).claimAll candidates).claim last).2 := List.foldl_concat ..
      rw [hclaim, hlaid.mem_claim_iff, hlast, hlanguage, ih hbefore]
      constructor
      · rintro (⟨rank, candidate, hget, hstands, rfl⟩ | ⟨hstands, rfl⟩)
        · have hrank : rank < candidates.length := (List.getElem?_eq_some_iff.1 hget).1
          exact ⟨rank, candidate, by rw [List.getElem?_append_left hrank, hget],
            (stands_append_iff hrank).2 hstands, rfl⟩
        · exact ⟨candidates.length, last, List.getElem?_concat_length, hstands, rfl⟩
      · rintro ⟨rank, candidate, hget, hstands, rfl⟩
        have hrank : rank < (candidates ++ [last]).length := (List.getElem?_eq_some_iff.1 hget).1
        rw [List.length_append, List.length_singleton] at hrank
        rcases Nat.lt_or_eq_of_le (Nat.le_of_lt_succ hrank) with hlt | rfl
        · rw [List.getElem?_append_left hlt] at hget
          exact .inl ⟨rank, candidate, hget, (stands_append_iff hlt).1 hstands, rfl⟩
        · rw [List.getElem?_concat_length] at hget
          obtain rfl := Option.some.inj hget
          exact .inr ⟨hstands, rfl⟩

end Claims

/-! ## Things in order -/

/-- Of things with spans one after the other any two are apart. -/
theorem apart_of_pairwise_precedes {α : Type} (span : α → Span) {items : List α}
    (h : items.Pairwise fun a b => (span a).Precedes (span b)) {a b : α} (ha : a ∈ items)
    (hb : b ∈ items) (hne : a ≠ b) : (span a).Apart (span b) := by
  have hsymm : Std.Symm fun a b => (span a).Apart (span b) := ⟨fun _ _ h => h.symm⟩
  exact (h.imp Span.Precedes.apart).forall ha hb hne

/-- Things with spans that are not empty and come one after the other are given by which they
are. -/
theorem eq_of_pairwise_precedes {α : Type} (span : α → Span) {items others : List α}
    (hpieces : ∀ item ∈ items, (span item).start < (span item).stop)
    (hitems : items.Pairwise fun a b => (span a).Precedes (span b))
    (hothers : others.Pairwise fun a b => (span a).Precedes (span b))
    (hsame : ∀ item, item ∈ items ↔ item ∈ others) : items = others := by
  have hirrefl : Std.Irrefl fun a b => (span a).start < (span b).start :=
    ⟨fun _ => Nat.lt_irrefl _⟩
  have hantisymm : Std.Antisymm fun a b => (span a).start < (span b).start :=
    ⟨fun _ _ hlt hgt => absurd hlt (Nat.lt_asymm hgt)⟩
  have hstarts {items : List α} (hpieces : ∀ item ∈ items, (span item).start < (span item).stop)
      (h : items.Pairwise fun a b => (span a).Precedes (span b)) :
      items.Pairwise fun a b => (span a).start < (span b).start :=
    h.imp_of_mem fun ha _ hab => Nat.lt_of_lt_of_le (hpieces _ ha) hab
  exact (hstarts hpieces hitems).eq_of_mem_iff
    (hstarts (fun item hmem => hpieces item ((hsame item).2 hmem)) hothers) hsame

/-! ## The tokens of a line -/

namespace Grammar

variable {grammar : Grammar}

/-- A grammar that can recognise nothing proposes nothing. -/
theorem candidates_of_isPlain (h : grammar.isPlain = true) (line : Text) :
    grammar.candidates line = [] := by
  unfold isPlain at h
  simp only [Bool.and_eq_true, List.isEmpty_iff] at h
  obtain ⟨⟨⟨hkeywords, hliterals⟩, hpatterns⟩, hrefinements⟩ := h
  have hnone : grammar.keywordCandidates line = [] := by
    refine List.filterMap_eq_nil_iff.2 fun span _ => ?_
    simp [isKeyword, hkeywords]
  rw [candidates, hnone, literalCandidates_eq_plain, hliterals, hpatterns, hrefinements,
    plainLiterals]
  simp [plainNext?, ruleCandidates]

/-- The tokens of a line are the candidates that stand. -/
theorem mem_tokenize_iff {token : Token} : token ∈ grammar.tokenize line ↔
    ∃ rank candidate, (grammar.candidates line)[rank]? = some candidate ∧
      Stands (grammar.candidates line) rank ∧ token = candidate.token grammar.language := by
  unfold tokenize
  split
  · next hnone =>
      refine ⟨fun h => absurd h List.not_mem_nil, ?_⟩
      rintro ⟨rank, candidate, hget, hstands, -⟩
      exfalso
      rcases Bool.or_eq_true_iff.1 hnone with hempty | hplain
      · -- nothing but the empty span lies in an empty line
        obtain rfl := List.isEmpty_iff.1 hempty
        rw [Stands] at hstands
        obtain ⟨other, hother, hlt, -⟩ := hstands
        have hcuts := cuts_of_mem_candidates (List.mem_of_getElem? hother)
        have hstop := Text.le_size_of_isBoundary hcuts.stop_boundary
        rw [Text.size_nil] at hstop
        omega
      · rw [candidates_of_isPlain hplain] at hget
        simp at hget
  · exact Claims.mem_claimAll_iff grammar.language fun candidate h => cuts_of_mem_candidates h

/-- The matches of the literal scan come one after the other. -/
theorem pairwise_literalCandidates (grammar : Grammar) (line : Text) :
    (grammar.literalCandidates line).Pairwise fun a b => a.span.Precedes b.span := by
  rw [literalCandidates_eq_plain]
  exact (plainLiterals_ordered (Text.isBoundary_zero line)).2

/-- A literal that is not empty is never rejected. -/
theorem token_mem_tokenize_of_literal (hmem : candidate ∈ grammar.literalCandidates line)
    (hlt : candidate.span.start < candidate.span.stop) :
    candidate.token grammar.language ∈ grammar.tokenize line := by
  obtain ⟨rank, hrank, hget⟩ := List.mem_iff_getElem.1 hmem
  have hordered := pairwise_literalCandidates grammar line
  have hfront {i : Nat} (hi : i < (grammar.literalCandidates line).length) :
      (grammar.candidates line)[i]? = some (grammar.literalCandidates line)[i] := by
    rw [candidates, List.append_assoc, List.append_assoc, List.getElem?_append_left hi,
      List.getElem?_eq_getElem hi]
  refine mem_tokenize_iff.2 ⟨rank, candidate, by rw [hfront hrank, hget], ?_, rfl⟩
  rw [Stands]
  refine ⟨candidate, by rw [hfront hrank, hget], hlt, fun lower other hlower hother _ => ?_⟩
  rw [hfront (Nat.lt_trans hlower hrank)] at hother
  obtain rfl := Option.some.inj hother
  rw [← hget]
  exact (List.pairwise_iff_getElem.1 hordered lower rank _ hrank hlower).apart

/-! ## Knowing the tokens of a line -/

/-- Whether a candidate is one of those expected, or touches a literal that is. -/
def Covered (grammar : Grammar) (line : Text) (expected : List Candidate) (candidate : Candidate) :
    Prop :=
  candidate ∈ expected ∨ ∃ literal ∈ expected, literal ∈ grammar.literalCandidates line ∧
    ¬ literal.span.Apart candidate.span

/-- A candidate is known by the token that it would become. -/
theorem eq_of_token_eq {other : Candidate} {language : Language}
    (h : candidate.token language = other.token language) : candidate = other := by
  obtain ⟨hkind, hspan, -⟩ := Token.mk.inj h
  cases candidate
  cases other
  simp only [Candidate.mk.injEq]
  exact ⟨hkind, hspan⟩

/-- A candidate that stands is expected if it is covered: a literal that it touched would stand as
well, so that it is this literal. -/
theorem Covered.mem_of_stands {expected : List Candidate}
    (h : grammar.Covered line expected candidate)
    (hpieces : ∀ other ∈ expected, other.span.start < other.span.stop)
    (hget : (grammar.candidates line)[rank]? = some candidate)
    (hstands : Stands (grammar.candidates line) rank) : candidate ∈ expected := by
  rcases h with hmem | ⟨literal, hmem, hliteral, htouch⟩
  · exact hmem
  · have htoken : candidate.token grammar.language ∈ grammar.tokenize line :=
      mem_tokenize_iff.2 ⟨rank, candidate, hget, hstands, rfl⟩
    have hother := token_mem_tokenize_of_literal hliteral (hpieces literal hmem)
    have hordered := (grammar.laid_tokenize line).ordered
    by_cases heq : literal.token grammar.language = candidate.token grammar.language
    · exact eq_of_token_eq heq ▸ hmem
    · exact absurd (apart_of_pairwise_precedes Token.span hordered hother htoken heq) htouch

/-- The tokens of a line are those expected if these come one after the other, all of them are
offered, and every other candidate touches one of them that is a literal. -/
theorem tokenize_eq_map {expected : List Candidate}
    (hpieces : ∀ candidate ∈ expected, candidate.span.start < candidate.span.stop)
    (hordered : expected.Pairwise fun a b => a.span.Precedes b.span)
    (hoffered : ∀ candidate ∈ expected, candidate ∈ grammar.candidates line)
    (hcovered : ∀ candidate ∈ grammar.candidates line, grammar.Covered line expected candidate) :
    grammar.tokenize line = expected.map fun candidate => candidate.token grammar.language := by
  have hlaid := grammar.laid_tokenize line
  have hexpected {rank : Nat} {candidate : Candidate}
      (hget : (grammar.candidates line)[rank]? = some candidate)
      (hstands : Stands (grammar.candidates line) rank) : candidate ∈ expected :=
    (hcovered candidate (List.mem_of_getElem? hget)).mem_of_stands hpieces hget hstands
  refine eq_of_pairwise_precedes Token.span (fun token hmem => ?_) hlaid.ordered ?_ fun token => ?_
  · exact (hlaid.piece token hmem).start_lt_stop
  · exact List.pairwise_map.2 hordered
  · rw [mem_tokenize_iff, List.mem_map]
    constructor
    · rintro ⟨rank, candidate, hget, hstands, rfl⟩
      exact ⟨candidate, hexpected hget hstands, rfl⟩
    · rintro ⟨candidate, hmem, rfl⟩
      obtain ⟨rank, hget⟩ := List.mem_iff_getElem?.1 (hoffered candidate hmem)
      -- it stands where it is offered, unless it stands before
      by_cases hearlier : ∃ lower < rank, (grammar.candidates line)[lower]? = some candidate ∧
          Stands (grammar.candidates line) lower
      · obtain ⟨lower, -, hget, hstands⟩ := hearlier
        exact ⟨lower, candidate, hget, hstands, rfl⟩
      · refine ⟨rank, candidate, hget, ?_, rfl⟩
        rw [Stands]
        refine ⟨candidate, hget, hpieces candidate hmem, ?_⟩
        intro lower other hlower hother hstands
        refine apart_of_pairwise_precedes Candidate.span hordered (hexpected hother hstands) hmem ?_
        rintro rfl
        exact hearlier ⟨lower, hlower, hother, hstands⟩

/-! ## More refinements -/

/-- The candidates of further refinements come behind all others. -/
theorem candidates_append_refinements (grammar : Grammar) (rules : List Rule) (line : Text) :
    { grammar with refinements := grammar.refinements ++ rules }.candidates line =
      grammar.candidates line ++ ruleCandidates rules line := by
  simp only [candidates, ruleCandidates, List.flatMap_append, List.append_assoc]
  rfl

/-- More refinements leave every token as it is. -/
theorem mem_tokenize_append_refinements {token : Token} (h : token ∈ grammar.tokenize line)
    (rules : List Rule) :
    token ∈ { grammar with refinements := grammar.refinements ++ rules }.tokenize line := by
  obtain ⟨rank, candidate, hget, hstands, rfl⟩ := mem_tokenize_iff.1 h
  have hrank : rank < (grammar.candidates line).length := (List.getElem?_eq_some_iff.1 hget).1
  refine mem_tokenize_iff.2 ⟨rank, candidate, ?_, ?_, rfl⟩
  · rw [candidates_append_refinements, List.getElem?_append_left hrank, hget]
  · rw [candidates_append_refinements]
    exact (stands_append_iff hrank).2 hstands

/-- A computation that succeeds as a whole has succeeded in its first step. -/
theorem exists_of_bind_eq_ok {ε α β : Type} {x : Except ε α} {f : α → Except ε β} {b : β}
    (h : x >>= f = .ok b) : ∃ a, x = .ok a ∧ f a = .ok b := by
  cases x with
  | error e => cases h
  | ok a => exact ⟨a, rfl, h⟩

/-- More refinements in a table are more refinements in its grammar. -/
theorem exists_of_ofTable_append {table : GrammarTable} {more : List TableRule}
    {extended : Grammar} (h : ofTable table = .ok grammar)
    (hmore : ofTable { table with refinements := table.refinements ++ more } = .ok extended) :
    ∃ rules, extended = { grammar with refinements := grammar.refinements ++ rules } := by
  simp only [ofTable] at h hmore
  obtain ⟨word, hword, h⟩ := exists_of_bind_eq_ok h
  obtain ⟨literals, hliterals, h⟩ := exists_of_bind_eq_ok h
  obtain ⟨patterns, hpatterns, h⟩ := exists_of_bind_eq_ok h
  obtain ⟨refinements, hrefinements, h⟩ := exists_of_bind_eq_ok h
  obtain ⟨embeds, hembeds, h⟩ := exists_of_bind_eq_ok h
  -- all but the refinements are read from the same places, with the same results
  rw [hword, hliterals, hpatterns, hembeds, List.mapM_append, hrefinements] at hmore
  obtain ⟨_, ⟨⟩, hmore⟩ := exists_of_bind_eq_ok hmore
  obtain ⟨_, ⟨⟩, hmore⟩ := exists_of_bind_eq_ok hmore
  obtain ⟨_, ⟨⟩, hmore⟩ := exists_of_bind_eq_ok hmore
  obtain ⟨all, hall, hmore⟩ := exists_of_bind_eq_ok hmore
  obtain ⟨_, ⟨⟩, hall⟩ := exists_of_bind_eq_ok hall
  obtain ⟨rules, -, hall⟩ := exists_of_bind_eq_ok hall
  obtain ⟨_, ⟨⟩, hmore⟩ := exists_of_bind_eq_ok hmore
  cases h
  cases hall
  cases hmore
  exact ⟨rules, rfl⟩

/-- The tokens of a line are the candidates that stand: those that are not empty and touch no
candidate of smaller rank that stands. They come one after the other. All literals that are not
empty are among them; literals, and what any one rule emits, are ranked from left to right. Further
refinements in a table leave all tokens as they are. -/
theorem tokenize_priority (grammar : Grammar) (line : Text) :
    (∀ token, token ∈ grammar.tokenize line ↔
      ∃ rank candidate, (grammar.candidates line)[rank]? = some candidate ∧
        Stands (grammar.candidates line) rank ∧ token = candidate.token grammar.language) ∧
    (grammar.tokenize line).Pairwise (fun a b => a.span.Precedes b.span) ∧
    (∀ candidate ∈ grammar.literalCandidates line, candidate.span.start < candidate.span.stop →
      candidate.token grammar.language ∈ grammar.tokenize line) ∧
    (grammar.literalCandidates line).Pairwise (fun a b => a.span.Precedes b.span) ∧
    (∀ rule ∈ grammar.wordRule :: grammar.patterns ++ grammar.refinements,
      (rule.spans line).Pairwise Span.Precedes) ∧
    ∀ table more extended, ofTable table = .ok grammar →
      ofTable { table with refinements := table.refinements ++ more } = .ok extended →
        ∀ token ∈ grammar.tokenize line, token ∈ extended.tokenize line := by
  refine ⟨fun token => mem_tokenize_iff, (grammar.laid_tokenize line).ordered,
    fun candidate => token_mem_tokenize_of_literal, pairwise_literalCandidates grammar line,
    fun rule _ => rule.pairwise_spans line, ?_⟩
  intro table more extended htable hmore token hmem
  obtain ⟨rules, rfl⟩ := exists_of_ofTable_append htable hmore
  exact mem_tokenize_append_refinements hmem rules

/-- In `"ab" ab b12` the string stands and the keyword inside it does not; nor does `b1`, which is
offered after the number. A refinement finds the letter before the number and nothing else. -/
theorem tokenize_priority_overlapping :
    let table : GrammarTable := {
      language := .plainText
      keywords := ["ab"]
      literals := [⟨.string, "\"[^\"]*\""⟩]
      patterns := [⟨.number, "\\d+"⟩, ⟨.variableName, "b\\d"⟩] }
    let extension := { table with refinements := table.refinements ++ [⟨.typeName, "[a-z]+"⟩] }
    let read (table : GrammarTable) := (ofTable table).toOption.getD (blank .plainText)
    let line := "\"ab\" ab b12".toList
    let tokens : List Token := [⟨.string, ⟨0, 4⟩, .plainText⟩, ⟨.keyword, ⟨5, 7⟩, .plainText⟩,
      ⟨.number, ⟨9, 11⟩, .plainText⟩]
    ofTable table = .ok (read table) ∧ ofTable extension = .ok (read extension) ∧
      (read table).tokenize line = tokens ∧
      (∀ token ∈ tokens, token ∈ (read extension).tokenize line) ∧
      ⟨.typeName, ⟨8, 9⟩, .plainText⟩ ∈ (read extension).tokenize line := by
  intro table extension read line tokens
  have htable : ofTable table = .ok (read table) := by decide +kernel
  have hextension : ofTable extension = .ok (read extension) := by decide +kernel
  have htokens : (read table).tokenize line = tokens := by decide +kernel
  have hlast : ⟨.typeName, ⟨8, 9⟩, .plainText⟩ ∈ (read extension).tokenize line := by
    decide +kernel
  obtain ⟨-, -, -, -, -, hmore⟩ := tokenize_priority (read table) line
  refine ⟨htable, hextension, htokens, fun token hmem => ?_, hlast⟩
  exact hmore table _ _ htable hextension token (htokens ▸ hmem)

end Grammar

end TextEditor
