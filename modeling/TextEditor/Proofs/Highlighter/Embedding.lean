import TextEditor.Proofs.Grammar.Priority
import TextEditor.Proofs.Highlighter.Layout

/-!
# Embedded regions

A highlighted line is put together from two kinds of tokens: those of the main grammar that overlap
no region with a grammar of its own, and for each such region those that its grammar finds in the
text of the region alone. A highlighter works region by region on one list of tokens, and each
region drops what it overlaps, whether it comes from the main grammar or from a region before. That
nothing of another region is dropped rests on the regions being apart.

Main statements: `foldl_embedTokens`, all regions at once, and `highlight_embedding`.
-/

namespace TextEditor

/-! ## Regions of a line -/

/-- Regions are apart in any order. -/
theorem Region.AllApart.perm {line : Text} {regions order : List Region}
    (h : AllApart regions line) (horder : order.Perm regions) : AllApart order line :=
  ⟨fun region hmem => h.piece region (horder.mem_iff.1 hmem),
    (horder.pairwise_iff Span.Apart.symm).2 h.apart⟩

namespace Grammar

/-- The regions of a line are apart, and pieces of it. -/
theorem allApart_regions (grammar : Grammar) (line : Text) :
    Region.AllApart (grammar.regions line) line :=
  (grammar.allApart_regionCandidates line).perm (List.mergeSort_perm ..)

/-- The empty line has no room for a region. -/
@[simp] theorem regions_nil (grammar : Grammar) : grammar.regions [] = [] := by
  refine List.eq_nil_iff_forall_not_mem.2 fun region hmem => ?_
  have hpiece := (grammar.allApart_regions []).piece region hmem
  have hlt := hpiece.start_lt_stop
  have hle : region.span.stop ≤ 0 := hpiece.stop_le_size
  omega

end Grammar

namespace Highlighter

variable {highlighter : Highlighter} {line : Text}

/-- Whether a region is in a language that the highlighter has a grammar for. -/
def embeds (highlighter : Highlighter) (region : Region) : Bool :=
  (highlighter.embedded.lookup region.language).isSome

/-- The tokens of a list that overlap none of the regions with a grammar of their own. -/
def outside (highlighter : Highlighter) (regions : List Region) (tokens : List Token) :
    List Token :=
  tokens.filter fun token =>
    regions.all fun region => !(highlighter.embeds region && token.span.overlaps region.span)

/-- The tokens that the grammar of a region finds in its text alone, where the region stands and in
its language; none if there is no grammar for it. -/
def inside (highlighter : Highlighter) (line : Text) (region : Region) : List Token :=
  match highlighter.embedded.lookup region.language with
  | none => []
  | some grammar =>
      (grammar.tokenize (line.between region.span.start region.span.stop)).map
        (·.shiftInto region.span.start region.language)

/-! ## One region -/

/-- One region drops the tokens that it overlaps and adds its own, if it has a grammar. -/
theorem embedTokens_eq {region : Region} (hpiece : region.span.Piece line) (tokens : List Token) :
    highlighter.embedTokens line tokens region =
      highlighter.outside [region] tokens ++ highlighter.inside line region := by
  unfold embedTokens outside inside embeds
  rw [hpiece.toCuts.text?_eq]
  cases hlookup : highlighter.embedded.lookup region.language with
  | none => simp [hlookup]
  | some grammar => simp [hlookup]

/-- A token inside a region is a piece of the line that the region contains, and the region has a
known language. -/
theorem contains_of_mem_inside {region : Region} {token : Token} (hpiece : region.span.Piece line)
    (h : token ∈ highlighter.inside line region) :
    highlighter.embeds region = true ∧ token.span.Piece line ∧
      region.span.contains token.span = true := by
  unfold inside at h
  unfold embeds
  cases hlookup : highlighter.embedded.lookup region.language with
  | none =>
      rw [hlookup] at h
      exact absurd h List.not_mem_nil
  | some grammar =>
      rw [hlookup] at h
      obtain ⟨htoken, hcontains, -⟩ := piece_of_mem_shifted hpiece.toCuts.text?_eq h
      exact ⟨rfl, htoken, hcontains⟩

/-- The tokens inside a region come one after the other. -/
theorem pairwise_precedes_inside (line : Text) (region : Region) :
    (highlighter.inside line region).Pairwise fun a b => a.span.Precedes b.span := by
  unfold inside
  split
  · exact List.Pairwise.nil
  · next grammar _ =>
      refine List.pairwise_map.2 ((grammar.laid_tokenize _).ordered.imp fun hprecedes => ?_)
      exact Nat.add_le_add_right hprecedes region.span.start

/-- The tokens of a region stand outside all regions that are apart from it. -/
theorem outside_inside {region : Region} {regions : List Region}
    (hpiece : region.span.Piece line)
    (hapart : ∀ other ∈ regions, region.span.Apart other.span) :
    highlighter.outside regions (highlighter.inside line region) =
      highlighter.inside line region := by
  refine List.filter_eq_self.2 fun token hmem => List.all_eq_true.2 fun other hother => ?_
  have hcontains := (contains_of_mem_inside hpiece hmem).2.2
  have htoken : token.span.Apart other.span :=
    ((hapart other hother).symm.of_contains hcontains).symm
  rw [Span.overlaps_eq_false_iff.2 htoken, Bool.and_false, Bool.not_false]

/-! ## All regions -/

/-- The tokens outside some regions are found one list after the other. -/
theorem outside_append (regions : List Region) (tokens others : List Token) :
    highlighter.outside regions (tokens ++ others) =
      highlighter.outside regions tokens ++ highlighter.outside regions others :=
  List.filter_append ..

/-- Outside one region and the others is outside all of them. -/
theorem outside_outside (region : Region) (regions : List Region) (tokens : List Token) :
    highlighter.outside regions (highlighter.outside [region] tokens) =
      highlighter.outside (region :: regions) tokens := by
  unfold outside
  rw [List.filter_filter]
  refine List.filter_congr fun token _ => ?_
  rw [List.all_cons, List.all_cons, List.all_nil, Bool.and_true, Bool.and_comm]

/-- Working through regions that are apart leaves the tokens outside all of them and adds what each
of them has inside. -/
theorem foldl_embedTokens {regions : List Region} (h : Region.AllApart regions line)
    (tokens : List Token) :
    regions.foldl (highlighter.embedTokens line) tokens =
      highlighter.outside regions tokens ++ regions.flatMap (highlighter.inside line) := by
  induction regions generalizing tokens with
  | nil => simp [outside]
  | cons region regions ih =>
      obtain ⟨hfirst, htail⟩ := List.forall_mem_cons.1 h.piece
      obtain ⟨hregion, hregions⟩ := List.pairwise_cons.1 h.apart
      rw [List.foldl_cons, ih ⟨htail, hregions⟩, embedTokens_eq hfirst, outside_append,
        outside_outside, outside_inside hfirst hregion, List.flatMap_cons, List.append_assoc]

/-- The tokens that working through some regions of a line gives are apart from each other. -/
theorem layered_foldl_embedTokens (highlighter : Highlighter) (line : Text)
    {regions order : List Region} (horder : ∀ region ∈ order, region ∈ regions) :
    Token.Layered (order.foldl (highlighter.embedTokens line) (highlighter.grammar.tokenize line))
      line highlighter.language regions := by
  refine List.foldlRecOn order _
    (motive := fun tokens => Token.Layered tokens line highlighter.language regions)
    (highlighter.grammar.layered_tokenize line regions) ?_
  intro tokens h region hregion
  exact h.embedTokens highlighter (horder region hregion)

/-! ## Highlighted lines -/

/-- The tokens of a line are what working through its regions gives, by ascending start. -/
theorem highlight_tokens (highlighter : Highlighter) (line : Text) :
    (highlighter.highlight line).tokens =
      ((highlighter.grammar.regions line).foldl (highlighter.embedTokens line)
        (highlighter.grammar.tokenize line)).mergeSort
          fun a b => a.span.start ≤ b.span.start := by
  unfold highlight
  split
  · next hempty =>
      obtain rfl := List.isEmpty_iff.1 hempty
      rw [Grammar.regions_nil]
      exact List.mergeSort_nil.symm
  · rfl

variable (highlighter line) in
/-- The tokens of a line are pieces of it, one after the other. -/
theorem pairwise_precedes_highlight :
    (∀ token ∈ (highlighter.highlight line).tokens, token.span.Piece line) ∧
      (highlighter.highlight line).tokens.Pairwise fun a b => a.span.Precedes b.span := by
  have hlayered := layered_foldl_embedTokens highlighter line
    fun region (h : region ∈ highlighter.grammar.regions line) => h
  rw [highlight_tokens]
  refine ⟨fun token hmem => ?_, ?_⟩
  · exact hlayered.piece token ((List.mergeSort_perm ..).mem_iff.1 hmem)
  · exact pairwise_precedes_mergeSort Token.span
      (fun token hmem => (hlayered.piece token hmem).start_lt_stop) hlayered.apart

variable (highlighter line) in
/-- A highlighted line has the tokens of the main grammar outside the regions with a grammar, and
the tokens inside these regions. -/
theorem perm_highlight :
    (highlighter.highlight line).tokens.Perm
      (highlighter.outside (highlighter.grammar.regions line) (highlighter.grammar.tokenize line) ++
        (highlighter.grammar.regions line).flatMap (highlighter.inside line)) := by
  rw [highlight_tokens, foldl_embedTokens (highlighter.grammar.allApart_regions line)]
  exact List.mergeSort_perm ..

/-- The order in which the regions of a line are worked through does not matter. -/
theorem mergeSort_foldl_embedTokens {order : List Region}
    (horder : order.Perm (highlighter.grammar.regions line)) :
    ((order.foldl (highlighter.embedTokens line) (highlighter.grammar.tokenize line)).mergeSort
      fun a b => a.span.start ≤ b.span.start) = (highlighter.highlight line).tokens := by
  have hlayered := layered_foldl_embedTokens highlighter line
    fun region (h : region ∈ order) => horder.mem_iff.1 h
  have hpieces := fun token hmem => (hlayered.piece token hmem).start_lt_stop
  have hsorted := List.mergeSort_perm
    (order.foldl (highlighter.embedTokens line) (highlighter.grammar.tokenize line))
    fun a b => a.span.start ≤ b.span.start
  have houtside (tokens : List Token) :
      highlighter.outside order tokens =
        highlighter.outside (highlighter.grammar.regions line) tokens :=
    List.filter_congr fun token _ => horder.all_eq
  refine eq_of_pairwise_precedes Token.span (fun token hmem => ?_)
    (pairwise_precedes_mergeSort Token.span hpieces hlayered.apart)
    (pairwise_precedes_highlight highlighter line).2 fun token => ?_
  · exact hpieces token (hsorted.mem_iff.1 hmem)
  · rw [hsorted.mem_iff, (perm_highlight highlighter line).mem_iff,
      foldl_embedTokens ((highlighter.grammar.allApart_regions line).perm horder), houtside,
      List.mem_append, List.mem_append, (horder.flatMap_right _).mem_iff]

/-- Under an embedded region stand exactly the tokens inside it. -/
theorem filter_overlaps_highlight {region : Region}
    (hregion : region ∈ highlighter.grammar.regions line)
    (hembeds : highlighter.embeds region = true) :
    (highlighter.highlight line).tokens.filter (·.span.overlaps region.span) =
      highlighter.inside line region := by
  have hregions := highlighter.grammar.laid_regions line
  have hpiece := hregions.1 region hregion
  obtain ⟨hpieces, hordered⟩ := pairwise_precedes_highlight highlighter line
  refine eq_of_pairwise_precedes Token.span
    (fun token hmem => (hpieces token (List.mem_filter.1 hmem).1).start_lt_stop)
    (hordered.filter _) (pairwise_precedes_inside line region) fun token => ?_
  rw [List.mem_filter, (perm_highlight highlighter line).mem_iff, List.mem_append,
    List.mem_flatMap]
  constructor
  · rintro ⟨hmem | ⟨other, hother, hmem⟩, hoverlaps⟩
    · have hall := List.all_eq_true.1 (List.mem_filter.1 hmem).2 region hregion
      rw [hembeds, hoverlaps] at hall
      cases hall
    · by_cases hsame : other = region
      · exact hsame ▸ hmem
      · -- what is inside another region is apart from this one
        have hapart := apart_of_pairwise_precedes Region.span hregions.2 hregion hother
          (Ne.symm hsame)
        have hcontains := (contains_of_mem_inside (hregions.1 other hother) hmem).2.2
        rw [Span.overlaps_comm,
          Span.overlaps_eq_false_iff.2 (hapart.of_contains hcontains)] at hoverlaps
        cases hoverlaps
  · intro hmem
    refine ⟨.inr ⟨region, hregion, hmem⟩, ?_⟩
    obtain ⟨-, htoken, hcontains⟩ := contains_of_mem_inside hpiece hmem
    have hlt := htoken.start_lt_stop
    rw [Span.contains_iff] at hcontains
    simp only [Span.overlaps, Bool.and_eq_true, decide_eq_true_eq]
    omega

/-- A highlighter that embeds nothing shows the tokens of its grammar. -/
theorem highlight_alone (grammar : Grammar) (line : Text) :
    ((alone grammar).highlight line).tokens = grammar.tokenize line := by
  have houtside : (alone grammar).outside (grammar.regions line) (grammar.tokenize line) =
      grammar.tokenize line := by
    refine List.filter_eq_self.2 fun token _ => List.all_eq_true.2 fun region _ => rfl
  have hinside : (grammar.regions line).flatMap ((alone grammar).inside line) = [] :=
    List.flatMap_eq_nil_iff.2 fun region _ => rfl
  have hlaid := grammar.laid_tokenize line
  refine eq_of_pairwise_precedes Token.span ?_ (pairwise_precedes_highlight _ line).2
    hlaid.ordered fun token => ?_
  · exact fun token hmem =>
      ((pairwise_precedes_highlight _ line).1 token hmem).start_lt_stop
  · have hperm := perm_highlight (alone grammar) line
    rw [show (alone grammar).grammar = grammar from rfl, houtside, hinside,
      List.append_nil] at hperm
    exact hperm.mem_iff

/-- The tokens of a highlighted line, by ascending start, are those of the main grammar outside the
regions with a grammar of their own and, for each such region, those of its grammar in the text of
the region alone, moved to where it stands and in its language. In whatever order the regions are
worked through, the tokens are the same. What is shown in such a region depends on its text and
language only, and there no further region is looked for. -/
theorem highlight_embedding (highlighter : Highlighter) (line : Text) :
    (highlighter.highlight line).tokens.Perm
      (highlighter.outside (highlighter.grammar.regions line) (highlighter.grammar.tokenize line) ++
        (highlighter.grammar.regions line).flatMap (highlighter.inside line)) ∧
    (highlighter.highlight line).tokens.Pairwise (fun a b => a.span.start < b.span.start) ∧
    (∀ order : List Region, order.Perm (highlighter.grammar.regions line) →
      ((order.foldl (highlighter.embedTokens line) (highlighter.grammar.tokenize line)).mergeSort
        fun a b => a.span.start ≤ b.span.start) = (highlighter.highlight line).tokens) ∧
    (∀ region ∈ highlighter.grammar.regions line, ∀ embedded,
      highlighter.embedded? region.language = some embedded →
        ∃ text, region.span.text? line = some text ∧
          (highlighter.highlight line).tokens.filter (·.span.overlaps region.span) =
            (embedded.grammar.tokenize text).map
              (·.shiftInto region.span.start region.language) ∧
          (embedded.highlight text).tokens = embedded.grammar.tokenize text ∧
          ∀ language, embedded.embedded? language = none) := by
  obtain ⟨hpieces, hordered⟩ := pairwise_precedes_highlight highlighter line
  refine ⟨perm_highlight highlighter line, ?_, fun order => mergeSort_foldl_embedTokens, ?_⟩
  · exact hordered.imp_of_mem fun ha _ hab => Nat.lt_of_lt_of_le (hpieces _ ha).start_lt_stop hab
  · intro region hregion embedded hembedded
    obtain ⟨grammar, hlookup, rfl⟩ := Option.map_eq_some_iff.1 hembedded
    have hpiece := (highlighter.grammar.laid_regions line).1 region hregion
    have hembeds : highlighter.embeds region = true := by rw [embeds, hlookup]; rfl
    refine ⟨_, hpiece.toCuts.text?_eq, ?_, highlight_alone grammar _, fun language => rfl⟩
    rw [filter_overlaps_highlight hregion hembeds, inside, hlookup]
    rfl

end Highlighter

end TextEditor
