import TextEditor.Proofs.Grammar.Candidates
import TextEditor.Proofs.Grammar.Neighbours

/-!
# Claimed tokens are laid out in the line

The candidates of a line cut no character of it. So the tokens that are claimed from them do not
only come one after the other, as claimed tokens always do, but are pieces of the line, in the
language of the grammar.

Main statements: `Laid.claim` for one candidate, and `laid_tokenize` for the tokens of a line.
-/

namespace TextEditor

variable {line : Text}

namespace Claims

/-- The tokens claimed so far are pieces of the line, one after the other, in one language. -/
structure Laid (claims : Claims) (line : Text) : Prop where
  piece : ∀ token ∈ claims.tokens, token.span.Piece line
  language : ∀ token ∈ claims.tokens, token.language = claims.language
  ordered : claims.tokens.Pairwise fun a b => a.span.Precedes b.span

/-- Before anything is claimed, all that is claimed is laid out. -/
theorem laid_empty (language : Language) (line : Text) : (empty language).Laid line where
  piece := fun _ h => absurd h List.not_mem_nil
  language := fun _ h => absurd h List.not_mem_nil
  ordered := List.Pairwise.nil

/-- Tokens that are laid out come one after the other. -/
theorem Laid.inOrder {claims : Claims} (h : claims.Laid line) : InOrder claims.tokens :=
  ⟨fun token hmem => (h.piece token hmem).start_lt_stop, h.ordered⟩

/-- A span is admitted exactly if it is not empty and apart from all tokens. -/
theorem Laid.admits_iff {claims : Claims} (h : claims.Laid line) (span : Span) :
    claims.admits span = true ↔
      span.start < span.stop ∧ ∀ token ∈ claims.tokens, token.span.Apart span :=
  h.inOrder.admits_iff span

/-! ## Claiming -/

/-- Claiming a candidate keeps the tokens laid out. -/
theorem Laid.claim {claims : Claims} (h : claims.Laid line) {candidate : Candidate}
    (hcuts : candidate.span.Cuts line) : (claims.claim candidate).2.Laid line := by
  refine ⟨fun token htoken => ?_, fun token htoken => ?_, (h.inOrder.claim candidate).ordered⟩
  · rcases h.inOrder.mem_claim_iff.1 htoken with htoken | ⟨hadmits, rfl⟩
    · exact h.piece token htoken
    · exact hcuts.piece ((h.admits_iff candidate.span).1 hadmits).1
  · rw [claim_language]
    rcases h.inOrder.mem_claim_iff.1 htoken with htoken | ⟨-, rfl⟩
    · exact h.language token htoken
    · rfl

/-- Claims of pieces of the line, as many as there are, leave the tokens laid out. -/
theorem Laid.claimAll {claims : Claims} (h : claims.Laid line) {candidates : List Candidate}
    (hcuts : ∀ candidate ∈ candidates, candidate.span.Cuts line) :
    (claims.claimAll candidates).Laid line := by
  unfold Claims.claimAll
  refine List.foldlRecOn candidates _ (motive := fun claims' : Claims => claims'.Laid line) h ?_
  intro claims' h' candidate hmem
  exact h'.claim (hcuts candidate hmem)

end Claims

/-- The tokens of a line are pieces of it, one after the other, in the language of the grammar. -/
theorem Grammar.laid_tokenize (grammar : Grammar) (line : Text) :
    Claims.Laid ⟨grammar.language, grammar.tokenize line⟩ line := by
  unfold tokenize
  split
  · exact Claims.laid_empty grammar.language line
  · have hcuts : ∀ candidate ∈ grammar.candidates line, candidate.span.Cuts line :=
      fun candidate h => cuts_of_mem_candidates h
    have hlaid := (Claims.laid_empty grammar.language line).claimAll hcuts
    have hlanguage := Claims.claimAll_language (.empty grammar.language) (grammar.candidates line)
    refine ⟨hlaid.piece, fun token hmem => ?_, hlaid.ordered⟩
    rw [hlaid.language token hmem, hlanguage]
    rfl

end TextEditor
