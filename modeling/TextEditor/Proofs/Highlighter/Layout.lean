import TextEditor.Highlighter
import TextEditor.Proofs.Grammar.Claiming

/-!
# The layout of a highlighted line

The regions of a line are pieces of it, one after the other. The tokens are pieces as well: those of
the main grammar to begin with, and each region in turn drops the tokens that it overlaps and puts
the tokens of its own text there. So tokens stay pairwise apart and are either in the main language
or inside a region in theirs; they come one after the other once they have been sorted.

Main statements: `laid_regions`, `Layered.embedTokens` for one region, and `laidOut_highlight`.
-/

namespace TextEditor

variable {line : Text}

/-! ## Regions -/

/-- Regions are pieces of a line that are pairwise apart. -/
structure Region.AllApart (regions : List Region) (line : Text) : Prop where
  piece : ∀ region ∈ regions, region.span.Piece line
  apart : regions.Pairwise fun a b => a.span.Apart b.span

namespace Grammar

/-- Regions that are offered are pieces of the line. -/
theorem piece_of_mem_regionCandidates {grammar : Grammar} {region : Region}
    (h : region ∈ grammar.regionCandidates line) : region.span.Piece line := by
  obtain ⟨embed, -, hembed⟩ := List.mem_flatMap.1 h
  obtain ⟨m, hm, hregion⟩ := List.mem_filterMap.1 hembed
  split at hregion
  · cases hregion
  · next span hspan =>
      split at hregion
      · cases hregion
      · next hempty =>
          obtain rfl := Option.some.inj hregion
          have hlt := Span.isEmpty_eq_false_iff.1 (Bool.eq_false_iff.2 hempty)
          exact ((Pattern.cuts_of_mem_findAll hm).group hspan).piece hlt

/-- A region is added only if it is apart from those that are there. -/
theorem allApart_addRegion {regions : List Region} {region : Region}
    (h : Region.AllApart regions line) (hregion : region.span.Piece line) :
    Region.AllApart (addRegion regions region) line := by
  unfold addRegion
  split
  · exact h
  · next hnone =>
      refine ⟨fun other hmem => ?_,
        List.pairwise_append.2 ⟨h.apart, List.pairwise_singleton _ _, ?_⟩⟩
      · rcases List.mem_append.1 hmem with hmem | hmem
        · exact h.piece other hmem
        · obtain rfl := List.mem_singleton.1 hmem
          exact hregion
      · intro other hmem last hlast
        obtain rfl := List.mem_singleton.1 hlast
        have hoverlaps : other.span.overlaps last.span ≠ true := fun hoverlaps =>
          hnone (List.any_eq_true.2 ⟨other, hmem, hoverlaps⟩)
        exact Span.overlaps_eq_false_iff.1 (Bool.eq_false_iff.2 hoverlaps)

/-- The regions that are kept are apart, whatever the embed rules propose. -/
theorem allApart_regionCandidates (grammar : Grammar) (line : Text) :
    Region.AllApart ((grammar.regionCandidates line).foldl addRegion []) line := by
  refine List.foldlRecOn (grammar.regionCandidates line) _
    (motive := fun regions => Region.AllApart regions line) ?_ ?_
  · exact ⟨fun _ h => absurd h List.not_mem_nil, List.Pairwise.nil⟩
  · intro regions h region hmem
    exact allApart_addRegion h (piece_of_mem_regionCandidates hmem)

/-- The regions of a line are pieces of it, one after the other. -/
theorem laid_regions (grammar : Grammar) (line : Text) :
    (∀ region ∈ grammar.regions line, region.span.Piece line) ∧
      (grammar.regions line).Pairwise fun a b => a.span.Precedes b.span := by
  have h := grammar.allApart_regionCandidates line
  refine ⟨fun region hmem => ?_, ?_⟩
  · exact h.piece region ((List.mergeSort_perm _ _).mem_iff.1 hmem)
  · exact pairwise_precedes_mergeSort Region.span
      (fun region hmem => (h.piece region hmem).start_lt_stop) h.apart

end Grammar

/-! ## Tokens in layers -/

/-- A token is in the main language, or inside a region that is in the language of the token. -/
def Token.Tagged (token : Token) (main : Language) (regions : List Region) : Prop :=
  token.language = main ∨
    ∃ region ∈ regions, region.language = token.language ∧ region.span.contains token.span = true

/-- Tokens are pieces of a line that are pairwise apart, each tagged with a language that has its
place there. -/
structure Token.Layered (tokens : List Token) (line : Text) (main : Language)
    (regions : List Region) : Prop where
  piece : ∀ token ∈ tokens, token.span.Piece line
  apart : tokens.Pairwise fun a b => a.span.Apart b.span
  tagged : ∀ token ∈ tokens, token.Tagged main regions

/-- The tokens of the main grammar, before any region has been looked at. -/
theorem Grammar.layered_tokenize (grammar : Grammar) (line : Text) (regions : List Region) :
    Token.Layered (grammar.tokenize line) line grammar.language regions := by
  have h := grammar.laid_tokenize line
  exact ⟨h.piece, h.ordered.imp Span.Precedes.apart, fun token hmem => .inl (h.language token hmem)⟩

/-- The tokens that an embedded grammar finds in a region are pieces of the line inside it. -/
theorem piece_of_mem_shifted {grammar : Grammar} {region : Region} {text : Text} {token : Token}
    (htext : region.span.text? line = some text)
    (h : token ∈ (grammar.tokenize text).map (·.shiftInto region.span.start region.language)) :
    token.span.Piece line ∧ region.span.contains token.span = true ∧
      token.language = region.language := by
  obtain ⟨inner, hinner, rfl⟩ := List.mem_map.1 h
  obtain ⟨hpiece, hcontains⟩ :=
    Span.piece_shift htext ((grammar.laid_tokenize text).piece inner hinner)
  exact ⟨hpiece, hcontains, rfl⟩

/-- What is left when the tokens that touch a region are taken out is apart from it. -/
theorem apart_of_mem_filter {tokens : List Token} {region : Region} {token : Token}
    (h : token ∈ tokens.filter fun token => !token.span.overlaps region.span) :
    token.span.Apart region.span := by
  have hfilter := (List.mem_filter.1 h).2
  rw [Bool.not_eq_true'] at hfilter
  exact Span.overlaps_eq_false_iff.1 hfilter

/-- Putting the tokens of one region in place keeps all tokens apart and tagged. -/
theorem Token.Layered.embedTokens {tokens : List Token} {main : Language} {regions : List Region}
    (h : Token.Layered tokens line main regions) (highlighter : Highlighter) {region : Region}
    (hregion : region ∈ regions) :
    Token.Layered (highlighter.embedTokens line tokens region) line main regions := by
  unfold Highlighter.embedTokens
  split
  · next grammar text _ htext =>
      refine ⟨?_, List.pairwise_append.2 ⟨h.apart.filter _, ?_, ?_⟩, ?_⟩
      · intro token hmem
        rcases List.mem_append.1 hmem with hmem | hmem
        · exact h.piece token (List.mem_filter.1 hmem).1
        · exact (piece_of_mem_shifted htext hmem).1
      · -- among themselves the new tokens are apart as they were in the text of the region
        refine List.pairwise_map.2 ((grammar.laid_tokenize text).ordered.imp fun hprecedes => ?_)
        exact hprecedes.apart.shift region.span.start
      · intro kept hkept new hnew
        exact (apart_of_mem_filter hkept).of_contains (piece_of_mem_shifted htext hnew).2.1
      · intro token hmem
        rcases List.mem_append.1 hmem with hmem | hmem
        · exact h.tagged token (List.mem_filter.1 hmem).1
        · obtain ⟨-, hcontains, hlanguage⟩ := piece_of_mem_shifted htext hmem
          exact .inr ⟨region, hregion, hlanguage.symm, hcontains⟩
  · exact h

/-! ## A highlighted line -/

/-- What is found in a line is laid out on it: tokens and regions are pieces of the line, those of
each kind one after the other, and each token is in the main language or inside a region in its
own. -/
structure Highlight.LaidOut (found : Highlight) (line : Text) (main : Language) : Prop where
  token_piece : ∀ token ∈ found.tokens, token.span.Piece line
  token_order : found.tokens.Pairwise fun a b => a.span.Precedes b.span
  token_language : ∀ token ∈ found.tokens, token.Tagged main found.regions
  region_piece : ∀ region ∈ found.regions, region.span.Piece line
  region_order : found.regions.Pairwise fun a b => a.span.Precedes b.span

/-- Every highlighter lays out what it finds in every line. -/
theorem Highlighter.laidOut_highlight (highlighter : Highlighter) (line : Text) :
    (highlighter.highlight line).LaidOut line highlighter.language := by
  unfold highlight
  split
  · exact ⟨fun _ h => absurd h List.not_mem_nil, List.Pairwise.nil,
      fun _ h => absurd h List.not_mem_nil, fun _ h => absurd h List.not_mem_nil,
      List.Pairwise.nil⟩
  · obtain ⟨hregion_piece, hregion_order⟩ := highlighter.grammar.laid_regions line
    have hlayered : Token.Layered ((highlighter.grammar.regions line).foldl
        (highlighter.embedTokens line) (highlighter.grammar.tokenize line)) line
        highlighter.language (highlighter.grammar.regions line) := by
      refine List.foldlRecOn (highlighter.grammar.regions line) _
        (motive := fun tokens => Token.Layered tokens line highlighter.language _)
        (highlighter.grammar.layered_tokenize line _) ?_
      intro tokens h region hregion
      exact h.embedTokens highlighter hregion
    have hmem {token : Token} := (List.mergeSort_perm ((highlighter.grammar.regions line).foldl
      (highlighter.embedTokens line) (highlighter.grammar.tokenize line))
      fun a b => a.span.start ≤ b.span.start).mem_iff (a := token)
    exact {
      token_piece := fun token h => hlayered.piece token (hmem.1 h)
      token_order := pairwise_precedes_mergeSort Token.span
        (fun token h => (hlayered.piece token h).start_lt_stop) hlayered.apart
      token_language := fun token h => hlayered.tagged token (hmem.1 h)
      region_piece := hregion_piece
      region_order := hregion_order }

end TextEditor
