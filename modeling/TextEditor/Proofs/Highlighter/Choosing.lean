import TextEditor.Proofs.Grammar.Priority
import TextEditor.Proofs.Highlighter.Layout

/-!
# Which spans become regions

The spans that embed rules propose for a line are ranked by the order of the rules and, for one
rule, from left to right. A span is chosen if it touches no chosen span of smaller rank; this says
nothing of the order in which regions are kept, and it leaves only one choice. The regions of a
line are this choice. A span that is not among them touches one of smaller rank that is, be it
inside that one, around it or across an end of it.

Main statements: `ChosenByRank.addRegion` with `ChosenByRank.mem_iff`, and `regions_by_rank`.
-/

namespace TextEditor

variable {line : Text} {candidates chosen others : List Region} {region last : Region} {rank : Nat}

/-! ## Choosing by rank -/

namespace Region

/-- A span touches no chosen candidate below a rank. -/
def ClearBelow (candidates chosen : List Region) (rank : Nat) (span : Span) : Prop :=
  ∀ (lower : Nat) (other : Region), lower < rank → candidates[lower]? = some other →
    other ∈ chosen → other.span.Apart span

/-- Those candidates are chosen that touch no chosen candidate of smaller rank. -/
def ChosenByRank (candidates chosen : List Region) : Prop :=
  ∀ region : Region, region ∈ chosen ↔
    ∃ rank, candidates[rank]? = some region ∧ ClearBelow candidates chosen rank region.span

/-- All candidates hold at least one byte. -/
def AllNonempty (candidates : List Region) : Prop :=
  ∀ region ∈ candidates, region.span.start < region.span.stop

/-- A candidate that is offered last has the highest rank. -/
theorem getElem?_concat_eq_some_iff : (candidates ++ [last])[rank]? = some region ↔
    candidates[rank]? = some region ∨ rank = candidates.length ∧ region = last := by
  rcases Nat.lt_trichotomy rank candidates.length with hlt | rfl | hgt
  · rw [List.getElem?_append_left hlt]
    exact (or_iff_left fun h => Nat.ne_of_lt hlt h.1).symm
  · rw [List.getElem?_concat_length, List.getElem?_eq_none (Nat.le_refl _)]
    simp [eq_comm]
  · have hlength : (candidates ++ [last]).length ≤ rank := by
      rw [List.length_append, List.length_singleton]
      exact hgt
    rw [List.getElem?_eq_none hlength, List.getElem?_eq_none (Nat.le_of_lt hgt)]
    simp [Nat.ne_of_gt hgt]

/-- A region that is not empty is not apart from itself. -/
theorem not_apart_self (h : region.span.start < region.span.stop) :
    ¬ region.span.Apart region.span := by
  rintro (hle | hle) <;> omega

/-- What is offered last does not count below its own rank. -/
theorem clearBelow_concat_iff (h : rank ≤ candidates.length) {span : Span} :
    ClearBelow (candidates ++ [last]) chosen rank span ↔
      ClearBelow candidates chosen rank span := by
  refine forall_congr' fun lower => forall_congr' fun other => forall_congr' fun hlower => ?_
  rw [List.getElem?_append_left (Nat.lt_of_lt_of_le hlower h)]

/-- A region that is added last has no part in what comes before one of the others. -/
theorem clearBelow_concat_iff_of_getElem? (h : candidates[rank]? = some region) {span : Span} :
    ClearBelow (candidates ++ [last]) chosen rank span ↔
      ClearBelow candidates chosen rank span :=
  clearBelow_concat_iff (Nat.le_of_lt (List.getElem?_eq_some_iff.1 h).1)

namespace ChosenByRank

/-- What is chosen is one of the candidates. -/
theorem mem_candidates (h : ChosenByRank candidates chosen) (hmem : region ∈ chosen) :
    region ∈ candidates := by
  obtain ⟨rank, hget, -⟩ := (h region).1 hmem
  exact List.mem_of_getElem? hget

/-- A candidate that is not chosen touches a chosen one of smaller rank. -/
theorem exists_not_apart (h : ChosenByRank candidates chosen)
    (hget : candidates[rank]? = some region) (hnot : region ∉ chosen) :
    ∃ lower other, lower < rank ∧ candidates[lower]? = some other ∧ other ∈ chosen ∧
      ¬ other.span.Apart region.span := by
  by_contra hnone
  refine hnot ((h region).2 ⟨rank, hget, fun lower other hlower hother hmem => ?_⟩)
  by_contra htouch
  exact hnone ⟨lower, other, hlower, hother, hmem, htouch⟩

/-- There is one choice only. -/
theorem mem_iff (hne : AllNonempty candidates) (h : ChosenByRank candidates chosen)
    (hothers : ChosenByRank candidates others) : region ∈ chosen ↔ region ∈ others := by
  -- that two choices are the same at one rank follows from the ranks below
  have hle {a b : List Region} (ha : ChosenByRank candidates a) (hb : ChosenByRank candidates b)
      {rank : Nat} {region : Region} (hget : candidates[rank]? = some region)
      (hbelow : ∀ lower < rank, ∀ other, candidates[lower]? = some other →
        other ∈ b → other ∈ a) (hmem : region ∈ a) : region ∈ b := by
    obtain ⟨first, hfirst, hclear⟩ := (ha region).1 hmem
    have hrank : first ≤ rank := by
      by_contra hlt
      exact not_apart_self (hne region (List.mem_of_getElem? hget))
        (hclear rank region (Nat.not_le.1 hlt) hget hmem)
    refine (hb region).2 ⟨first, hfirst, fun lower other hlower hother hmem => ?_⟩
    exact hclear lower other hlower hother
      (hbelow lower (Nat.lt_of_lt_of_le hlower hrank) other hother hmem)
  have hsame : ∀ (rank : Nat) (region : Region), candidates[rank]? = some region →
      (region ∈ chosen ↔ region ∈ others) := by
    intro rank
    induction rank using Nat.strongRecOn with
    | ind rank ih =>
        intro region hget
        constructor
        · exact hle h hothers hget fun lower hlower other hother => (ih lower hlower other hother).2
        · exact hle hothers h hget fun lower hlower other hother => (ih lower hlower other hother).1
  constructor
  · intro hmem
    obtain ⟨rank, hget⟩ := List.mem_iff_getElem?.1 (h.mem_candidates hmem)
    exact (hsame rank region hget).1 hmem
  · intro hmem
    obtain ⟨rank, hget⟩ := List.mem_iff_getElem?.1 (hothers.mem_candidates hmem)
    exact (hsame rank region hget).2 hmem

/-- A candidate that touches a chosen one changes nothing. -/
theorem skip (h : ChosenByRank candidates chosen) {other : Region} (hother : other ∈ chosen)
    (htouch : ¬ other.span.Apart last.span) : ChosenByRank (candidates ++ [last]) chosen := by
  intro region
  rw [h region]
  constructor
  · rintro ⟨rank, hget, hclear⟩
    exact ⟨rank, getElem?_concat_eq_some_iff.2 (.inl hget),
      (clearBelow_concat_iff_of_getElem? hget).2 hclear⟩
  · rintro ⟨rank, hget, hclear⟩
    rcases getElem?_concat_eq_some_iff.1 hget with hget | ⟨rfl, rfl⟩
    · exact ⟨rank, hget, (clearBelow_concat_iff_of_getElem? hget).1 hclear⟩
    · obtain ⟨lower, hlower, hget⟩ := List.mem_iff_getElem.1 (h.mem_candidates hother)
      refine absurd (hclear lower other hlower ?_ hother) htouch
      exact getElem?_concat_eq_some_iff.2 (.inl (List.getElem?_eq_some_iff.2 ⟨hlower, hget⟩))

/-- A candidate that touches none is chosen, and is in the way of none before it. -/
theorem take (h : ChosenByRank candidates chosen) (hlast : last.span.start < last.span.stop)
    (hapart : ∀ other ∈ chosen, other.span.Apart last.span) :
    ChosenByRank (candidates ++ [last]) (chosen ++ [last]) := by
  -- had it been offered before, it or what kept it out would be chosen already
  have hnew : last ∉ candidates := by
    intro hmem
    obtain ⟨rank, hget⟩ := List.mem_iff_getElem?.1 hmem
    by_cases hchosen : last ∈ chosen
    · exact not_apart_self hlast (hapart last hchosen)
    · obtain ⟨_, other, -, -, hother, htouch⟩ := h.exists_not_apart hget hchosen
      exact htouch (hapart other hother)
  intro region
  rw [List.mem_append, List.mem_singleton]
  constructor
  · rintro (hmem | rfl)
    · obtain ⟨rank, hget, hclear⟩ := (h region).1 hmem
      refine ⟨rank, getElem?_concat_eq_some_iff.2 (.inl hget),
        (clearBelow_concat_iff_of_getElem? hget).2 ?_⟩
      intro lower other hlower hother hchosen
      rcases List.mem_append.1 hchosen with hchosen | hnext
      · exact hclear lower other hlower hother hchosen
      · rw [List.mem_singleton.1 hnext] at hother
        exact absurd (List.mem_of_getElem? hother) hnew
    · refine ⟨candidates.length, List.getElem?_concat_length, ?_⟩
      refine (clearBelow_concat_iff (Nat.le_refl _)).2 fun lower other _ hother hchosen => ?_
      rcases List.mem_append.1 hchosen with hchosen | hnext
      · exact hapart other hchosen
      · rw [List.mem_singleton.1 hnext] at hother
        exact absurd (List.mem_of_getElem? hother) hnew
  · rintro ⟨rank, hget, hclear⟩
    refine (getElem?_concat_eq_some_iff.1 hget).imp (fun hget => ?_) And.right
    refine (h region).2 ⟨rank, hget, fun lower other hlower hother hchosen => ?_⟩
    exact (clearBelow_concat_iff_of_getElem? hget).1 hclear lower other hlower hother
      (List.mem_append_left _ hchosen)

/-- Adding a region, or not, is the choice with one more candidate. -/
theorem addRegion (h : ChosenByRank candidates chosen)
    (hlast : last.span.start < last.span.stop) :
    ChosenByRank (candidates ++ [last]) (Grammar.addRegion chosen last) := by
  unfold Grammar.addRegion
  split
  · next hoverlaps =>
      obtain ⟨other, hother, htouch⟩ := List.any_eq_true.1 hoverlaps
      refine h.skip hother fun hapart => ?_
      rw [Span.overlaps_eq_false_iff.2 hapart] at htouch
      cases htouch
  · next hnone =>
      refine h.take hlast fun other hother => ?_
      refine Span.overlaps_eq_false_iff.1 (Bool.eq_false_iff.2 fun hoverlaps => ?_)
      exact hnone (List.any_eq_true.2 ⟨other, hother, hoverlaps⟩)

/-- Offering candidates in order of rank makes the choice. -/
theorem foldl (hne : AllNonempty candidates) :
    ChosenByRank candidates (candidates.foldl Grammar.addRegion []) := by
  induction candidates using List.reverseRecOn with
  | nil => exact fun region => by simp
  | append_singleton candidates last ih =>
      rw [List.foldl_concat]
      refine (ih fun region hmem => hne region (List.mem_append_left _ hmem)).addRegion ?_
      exact hne last (List.mem_append_right _ (List.mem_singleton.2 rfl))

end ChosenByRank

end Region

/-! ## What is proposed -/

/-- What the first group holds in the matches of a rule, where it holds anything. -/
def Embed.innerSpans (embed : Embed) (line : Text) : List Span :=
  ((embed.pattern.findAll line).filterMap (·.group? 1)).filter fun span => !span.isEmpty

/-- The inner spans of a rule are found from left to right. -/
theorem Embed.pairwise_innerSpans (embed : Embed) (line : Text) :
    (embed.innerSpans line).Pairwise Span.Precedes := by
  refine (Pattern.pairwise_filterMap fun m hm span hspan => ?_).filter _
  obtain ⟨_, _, hsplit, -⟩ := List.lookup_eq_some_iff.1 hspan
  exact Pattern.contains_of_mem_findAll hm (1, span) (by simp [hsplit])

/-- A written rule is read as a rule in its language, with the pattern that it spells out. -/
def TableEmbed.ReadsAs (written : TableEmbed) (embed : Embed) : Prop :=
  embed.language = written.language ∧ Pattern.read written.pattern.toList = .ok embed.pattern

namespace Grammar

variable {grammar : Grammar}

/-- The candidates are the inner spans of the rules, rule by rule, in the languages of the rules. -/
theorem regionCandidates_eq (grammar : Grammar) (line : Text) :
    grammar.regionCandidates line = grammar.embeds.flatMap fun embed =>
      (embed.innerSpans line).map (Region.mk embed.language) := by
  refine List.flatMap_congr fun embed _ => ?_
  rw [Embed.innerSpans]
  induction embed.pattern.findAll line with
  | nil => rfl
  | cons m rest ih =>
      rw [List.filterMap_cons, List.filterMap_cons, ih]
      cases m.group? 1 with
      | none => simp only
      | some span => cases hempty : span.isEmpty <;> simp [hempty]

/-- A computation that succeeds on all of a list has succeeded on each item. -/
theorem forall₂_of_mapM {ε α β : Type} {f : α → Except ε β} {items : List α} {results : List β}
    (h : items.mapM f = .ok results) :
    List.Forall₂ (fun item result => f item = .ok result) items results := by
  induction items generalizing results with
  | nil =>
      cases h
      exact .nil
  | cons item items ih =>
      rw [List.mapM_cons] at h
      obtain ⟨first, hfirst, h⟩ := exists_of_bind_eq_ok h
      obtain ⟨others, hothers, h⟩ := exists_of_bind_eq_ok h
      cases h
      exact .cons hfirst (ih hothers)

/-- The rules of a compiled table are those written in it, in their order. -/
theorem embeds_ofTable {table : GrammarTable} (h : ofTable table = .ok grammar) :
    List.Forall₂ TableEmbed.ReadsAs table.embeds grammar.embeds := by
  simp only [ofTable] at h
  obtain ⟨_, -, h⟩ := exists_of_bind_eq_ok h
  obtain ⟨_, -, h⟩ := exists_of_bind_eq_ok h
  obtain ⟨_, -, h⟩ := exists_of_bind_eq_ok h
  obtain ⟨_, -, h⟩ := exists_of_bind_eq_ok h
  obtain ⟨embeds, hembeds, h⟩ := exists_of_bind_eq_ok h
  cases h
  refine (forall₂_of_mapM hembeds).imp fun written embed hread => ?_
  obtain ⟨pattern, hpattern, hembed⟩ := exists_of_bind_eq_ok hread
  cases hembed
  refine ⟨rfl, ?_⟩
  cases hparsed : Pattern.read written.pattern.toList with
  | error e =>
      rw [hparsed] at hpattern
      cases hpattern
  | ok parsed =>
      rw [hparsed] at hpattern
      cases hpattern
      rfl

/-- Regions that are offered are not empty. -/
theorem allNonempty_regionCandidates (grammar : Grammar) (line : Text) :
    Region.AllNonempty (grammar.regionCandidates line) := fun _ hmem =>
  (piece_of_mem_regionCandidates hmem).start_lt_stop

/-- The regions of a line are chosen by rank from what the rules propose. -/
theorem chosenByRank_regions (grammar : Grammar) (line : Text) :
    Region.ChosenByRank (grammar.regionCandidates line) (grammar.regions line) := by
  have hperm {region : Region} : region ∈ grammar.regions line ↔
      region ∈ (grammar.regionCandidates line).foldl addRegion [] :=
    (List.mergeSort_perm _ _).mem_iff
  intro region
  rw [hperm, Region.ChosenByRank.foldl (allNonempty_regionCandidates grammar line) region]
  simp only [Region.ClearBelow, hperm]

/-- A compiled table has the rules written in it, in their order. The inner spans of these rules, in
the order of the rules and from left to right for each, are the candidates for regions. The regions
are pieces of the line, one after the other, and they are the only such list of the candidates that
touch no chosen one of smaller rank; so what is left out touches a region of smaller rank. -/
theorem regions_by_rank {table : GrammarTable} (htable : ofTable table = .ok grammar)
    (line : Text) :
    List.Forall₂ TableEmbed.ReadsAs table.embeds grammar.embeds ∧
      (grammar.regionCandidates line = grammar.embeds.flatMap fun embed =>
        (embed.innerSpans line).map (Region.mk embed.language)) ∧
      (∀ embed ∈ grammar.embeds, (embed.innerSpans line).Pairwise Span.Precedes) ∧
      Region.ChosenByRank (grammar.regionCandidates line) (grammar.regions line) ∧
      (grammar.regions line).Pairwise (fun a b => a.span.Precedes b.span) ∧
      (∀ region ∈ grammar.regions line, region.span.Piece line) ∧
      (∀ (rank : Nat) (region : Region), (grammar.regionCandidates line)[rank]? = some region →
        region ∉ grammar.regions line → ∃ lower other, lower < rank ∧
          (grammar.regionCandidates line)[lower]? = some other ∧ other ∈ grammar.regions line ∧
          ¬ other.span.Apart region.span) ∧
      ∀ others : List Region, Region.ChosenByRank (grammar.regionCandidates line) others →
        others.Pairwise (fun a b => a.span.Precedes b.span) → others = grammar.regions line := by
  have hchosen := grammar.chosenByRank_regions line
  obtain ⟨hpieces, hordered⟩ := grammar.laid_regions line
  refine ⟨embeds_ofTable htable, grammar.regionCandidates_eq line,
    fun embed _ => embed.pairwise_innerSpans line, hchosen, hordered, hpieces,
    fun rank region hget hnot => hchosen.exists_not_apart hget hnot, ?_⟩
  intro others hothers hafter
  have hsame {region : Region} : region ∈ others ↔ region ∈ grammar.regions line :=
    hothers.mem_iff (allNonempty_regionCandidates grammar line) hchosen
  refine eq_of_pairwise_precedes Region.span (fun region hmem => ?_) hafter hordered
    fun region => hsame
  exact (hpieces region (hsame.1 hmem)).start_lt_stop

/-- A script around a piece of PHP and one inside another are both left out; one behind them is
found, and one that is empty is not even proposed. -/
theorem regions_by_rank_nested :
    let table : GrammarTable := {
      language := .html
      embeds := [⟨.php, "<\\?(.*?)\\?>"⟩, ⟨.javaScript, "<s>(.*?)</s>"⟩] }
    let grammar := (ofTable table).toOption.getD (blank .html)
    let line := "<s>a<?b?>c</s><?<s>x</s>?><s>é</s><s></s>".toList
    ofTable table = .ok grammar ∧
      grammar.regionCandidates line = [⟨.php, ⟨6, 7⟩⟩, ⟨.php, ⟨16, 24⟩⟩, ⟨.javaScript, ⟨3, 10⟩⟩,
        ⟨.javaScript, ⟨19, 20⟩⟩, ⟨.javaScript, ⟨29, 31⟩⟩] ∧
      grammar.regions line = [⟨.php, ⟨6, 7⟩⟩, ⟨.php, ⟨16, 24⟩⟩, ⟨.javaScript, ⟨29, 31⟩⟩] ∧
      ∀ region ∈ grammar.regions line, region.span.Piece line := by
  intro table grammar line
  have htable : ofTable table = .ok grammar := by decide +kernel
  have hfold : (grammar.regionCandidates line).foldl addRegion [] =
      [⟨.php, ⟨6, 7⟩⟩, ⟨.php, ⟨16, 24⟩⟩, ⟨.javaScript, ⟨29, 31⟩⟩] := by
    decide +kernel
  obtain ⟨-, -, -, -, -, hpieces, -, -⟩ := regions_by_rank htable line
  refine ⟨htable, by decide +kernel, ?_, hpieces⟩
  rw [regions, hfold]
  exact List.mergeSort_of_pairwise (by decide)

end Grammar

end TextEditor
