import TextEditor.Grammar.Basic
import TextEditor.Proofs.Text.Cuts

/-!
# Where matches begin and end

A pattern is only ever run at places of a text, that is at character boundaries, and only moves on.
So the spans of a match and of its groups begin and end at boundaries, in order.

Main statements: `continues_of_run`, what a run hands on to its continuation, `cuts_of_search` with
`cuts_of_mem_findAll`, for matches, and `cuts_of_mem_spans`, for what a rule emits.
-/

namespace TextEditor

variable {t : Text}

/-- A span begins and ends at character boundaries of a text, in order. -/
structure Span.Cuts (span : Span) (t : Text) : Prop where
  start_le_stop : span.start ≤ span.stop
  start_boundary : t.isBoundary span.start = true
  stop_boundary : t.isBoundary span.stop = true

/-- A place lies in a text: what follows it is the rest of the text from its offset on. -/
def Place.Of (place : Place) (t : Text) : Prop :=
  ∃ s, t = s ++ place.rest ∧ place.offset = s.size

namespace Place

variable {place : Place}

/-- The start of a text is a place of it. -/
theorem of_start (t : Text) : (start t).Of t := ⟨[], rfl, rfl⟩

/-- A place of a text is at a boundary. -/
theorem Of.boundary (h : place.Of t) : t.isBoundary place.offset = true := by
  obtain ⟨s, ht, hoffset⟩ := h
  exact Text.isBoundary_iff.2 ⟨s, place.rest, ht, hoffset.symm⟩

/-- The place behind a place of a text is one of the text. -/
theorem Of.next (h : place.Of t) : place.next.Of t := by
  obtain ⟨s, ht, hoffset⟩ := h
  unfold Place.next
  split
  · exact ⟨s, ht, hoffset⟩
  · next c rest hrest =>
      refine ⟨s ++ [c], ?_, ?_⟩
      · rw [ht, hrest, List.append_assoc, List.singleton_append]
      · simp [hoffset]

/-- The place behind a place does not come before it. -/
theorem offset_le_next (place : Place) : place.offset ≤ place.next.offset := by
  unfold Place.next
  split
  · exact Nat.le_refl _
  · exact Nat.le_add_right _ _

/-- Any number of steps from a place of a text lead to one of the text. -/
theorem Of.skipTo (h : place.Of t) (n : Nat) (steps : Text) : (skipTo n steps place).Of t := by
  induction steps generalizing place with
  | nil => exact h
  | cons c steps ih =>
      unfold Place.skipTo
      split
      · exact h
      · exact ih h.next

/-- For every offset a place of the text is found. -/
theorem of_ofOffset (t : Text) (n : Nat) : (ofOffset t n).Of t := (of_start t).skipTo n t

end Place

/-- The span between two places. -/
theorem Span.cuts_of_places {first last : Place} (hfirst : first.Of t) (hlast : last.Of t)
    (hle : first.offset ≤ last.offset) : Span.Cuts ⟨first.offset, last.offset⟩ t :=
  ⟨hle, hfirst.boundary, hlast.boundary⟩

/-- All groups matched so far are between boundaries. -/
def Groups.Cut (groups : Groups) (t : Text) : Prop := ∀ group ∈ groups, group.2.Cuts t

/-- A continuation comes to an outcome from a place of the text at or after byte `n`, with groups
that are between boundaries. -/
def Continues {α : Type} (t : Text) (n : Nat) (k : Continuation α) (a : α) : Prop :=
  ∃ place groups, k place groups = some a ∧ place.Of t ∧ Groups.Cut groups t ∧ n ≤ place.offset

/-- What goes on from an offset on does so from any earlier one. -/
theorem Continues.mono {α : Type} {k : Continuation α} {a : α} {m n : Nat}
    (h : Continues t n k a) (hle : m ≤ n) : Continues t m k a := by
  obtain ⟨place, groups, hk, hplace, hgroups, hn⟩ := h
  exact ⟨place, groups, hk, hplace, hgroups, Nat.le_trans hle hn⟩

/-- A choice that gives a result has it from one of its two sides. -/
theorem eq_some_of_orElse {α : Type} {x : Option α} {f : Unit → Option α} {a : α}
    (h : x.orElse f = some a) : x = some a ∨ f () = some a := by
  rw [Option.orElse_eq_or, Option.or_eq_some_iff] at h
  exact h.imp_right And.right

/-- Further rounds go on from where the last one ended. -/
theorem continues_of_repeatRounds {α : Type}
    {round : Place → Groups → Continuation α → Option α}
    (hround : ∀ {place groups k a}, place.Of t → Groups.Cut groups t →
      round place groups k = some a → Continues t place.offset k a)
    {greedy : Bool} {k : Continuation α} {budget : Text} {place : Place} {groups : Groups} {a : α}
    (hplace : place.Of t) (hgroups : Groups.Cut groups t)
    (h : repeatRounds round greedy k budget place groups = some a) :
    Continues t place.offset k a := by
  induction budget generalizing place groups with
  | nil => exact ⟨place, groups, h, hplace, hgroups, Nat.le_refl _⟩
  | cons c budget ih =>
      have hstop : k place groups = some a → Continues t place.offset k a := fun hk =>
        ⟨place, groups, hk, hplace, hgroups, Nat.le_refl _⟩
      have hagain : round place groups (fun place' groups' =>
            if place.offset < place'.offset then
              repeatRounds round greedy k budget place' groups'
            else none) = some a → Continues t place.offset k a := by
        intro hk
        obtain ⟨place', groups', hk', hplace', hgroups', hle⟩ := hround hplace hgroups hk
        simp only at hk'
        split at hk'
        · exact (ih hplace' hgroups' hk').mono hle
        · cases hk'
      unfold repeatRounds at h
      split at h
      · rcases eq_some_of_orElse h with h | h
        · exact hagain h
        · exact hstop h
      · rcases eq_some_of_orElse h with h | h
        · exact hstop h
        · exact hagain h

namespace Pattern

/-- A run that comes to an outcome has handed on a place at or after its own. -/
theorem continues_of_run {α : Type} (p : Pattern) {place : Place} {groups : Groups}
    {k : Continuation α} {a : α} (hplace : place.Of t) (hgroups : Groups.Cut groups t)
    (h : p.run place groups k = some a) : Continues t place.offset k a := by
  induction p generalizing place groups k a with
  | empty => exact ⟨place, groups, h, hplace, hgroups, Nat.le_refl _⟩
  | oneOf set =>
      unfold run at h
      split at h
      · cases h
      · split at h
        · exact ⟨place.next, groups, h, hplace.next, hgroups, place.offset_le_next⟩
        · cases h
  | position anchor =>
      unfold run at h
      split at h
      · exact ⟨place, groups, h, hplace, hgroups, Nat.le_refl _⟩
      · cases h
  | seq p q ihp ihq =>
      obtain ⟨place', groups', hk, hplace', hgroups', hle⟩ := ihp hplace hgroups h
      exact (ihq hplace' hgroups' hk).mono hle
  | alt p q ihp ihq =>
      rcases eq_some_of_orElse h with h | h
      · exact ihp hplace hgroups h
      · exact ihq hplace hgroups h
  | group index p ih =>
      obtain ⟨place', groups', hk, hplace', hgroups', hle⟩ := ih hplace hgroups h
      refine ⟨place', _, hk, hplace', ?_, hle⟩
      intro group hmem
      rcases List.mem_cons.1 hmem with rfl | hmem
      · exact Span.cuts_of_places hplace hplace' hle
      · exact hgroups' group hmem
  | repeated p greedy ih =>
      obtain ⟨place', groups', hk, hplace', hgroups', hle⟩ := ih hplace hgroups h
      simp only at hk
      split at hk
      · exact (continues_of_repeatRounds ih hplace' hgroups' hk).mono hle
      · exact ⟨place', groups', hk, hplace', hgroups', hle⟩

end Pattern

/-- All spans of a match begin and end at boundaries of a text. -/
structure Match.Cuts (m : Match) (t : Text) : Prop where
  whole : m.whole.Cuts t
  groups : Groups.Cut m.groups t

namespace Pattern

variable {p : Pattern} {place : Place} {m : Match}

/-- A match at a place of a text is a piece of it, and so are its groups. -/
theorem cuts_of_matchAt (hplace : place.Of t) (h : p.matchAt place = some m) : m.Cuts t := by
  obtain ⟨place', groups, hm, hplace', hgroups, hle⟩ :=
    continues_of_run p hplace (fun _ hmem => absurd hmem (List.not_mem_nil)) h
  obtain rfl := Option.some.inj hm
  exact ⟨Span.cuts_of_places hplace hplace' hle, hgroups⟩

/-- What a search finds from a place of a text is a piece of it. -/
theorem cuts_of_search (hplace : place.Of t) (h : p.search place = some m) : m.Cuts t := by
  obtain ⟨previous, rest, offset⟩ := place
  unfold search at h
  induction rest generalizing previous offset with
  | nil => exact cuts_of_matchAt hplace h
  | cons c rest ih =>
      rcases eq_some_of_orElse h with h | h
      · exact cuts_of_matchAt hplace h
      · exact ih (some c) (offset + c.utf8Size) hplace.next h

/-- What a search finds from an offset of a text is a piece of it. -/
theorem cuts_of_searchAt {n : Nat} (h : p.searchAt t n = some m) : m.Cuts t :=
  cuts_of_search (Place.of_ofOffset t n) h

/-- The next of several matches in a text is a piece of it. -/
theorem cuts_of_nextMatch {resumed : Bool} (hplace : place.Of t)
    (h : p.nextMatch place resumed = some m) : m.Cuts t := by
  unfold nextMatch at h
  split at h
  · cases h
  · next found hfound =>
      split at h
      · split at h
        · cases h
        · exact cuts_of_search hplace.next h
      · obtain rfl := Option.some.inj h
        exact cuts_of_search hplace hfound

/-- All matches that come after one another in a text are pieces of it. -/
theorem cuts_of_mem_findFrom {budget : Text} {resumed : Bool} (hplace : place.Of t)
    (h : m ∈ p.findFrom budget place resumed) : m.Cuts t := by
  induction budget generalizing place resumed with
  | nil => exact absurd h (List.not_mem_nil)
  | cons c budget ih =>
      unfold findFrom at h
      split at h
      · exact absurd h (List.not_mem_nil)
      · next found hfound =>
          rcases List.mem_cons.1 h with rfl | h
          · exact cuts_of_nextMatch hplace hfound
          · exact ih (hplace.skipTo _ _) h

/-- All matches in a text are pieces of it. -/
theorem cuts_of_mem_findAll (h : m ∈ p.findAll t) : m.Cuts t :=
  cuts_of_mem_findFrom (Place.of_start t) h

end Pattern

/-! ## What a rule emits -/

/-- A group that took part is a piece of the text. -/
theorem Match.Cuts.group {m : Match} (h : m.Cuts t) {index : Nat} {span : Span}
    (hgroup : m.group? index = some span) : span.Cuts t := by
  obtain ⟨_, _, hsplit, -⟩ := List.lookup_eq_some_iff.1 hgroup
  exact h.groups (index, span) (by simp [hsplit])

/-- The first group that took part is a piece of the text. -/
theorem Match.Cuts.firstGroup {m : Match} (h : m.Cuts t) {count : Nat} {span : Span}
    (hgroup : m.firstGroup? count = some span) : span.Cuts t := by
  obtain ⟨index, -, hindex⟩ := List.exists_of_findSome?_eq_some hgroup
  exact h.group hindex

/-- What a rule emits for a match is a piece of the text. -/
theorem Match.Cuts.emitted {m : Match} (h : m.Cuts t) {rule : Rule} {span : Span}
    (hspan : rule.emitted? m = some span) : span.Cuts t := by
  simp only [Rule.emitted?] at hspan
  split at hspan
  · cases hspan
  · obtain rfl := Option.some.inj hspan
    cases hgroup : m.firstGroup? rule.pattern.groupCount with
    | none => exact h.whole
    | some group => exact h.firstGroup hgroup

/-- The spans that a rule emits in a line begin and end at its boundaries. -/
theorem Rule.cuts_of_mem_spans {rule : Rule} {span : Span} (h : span ∈ rule.spans t) :
    span.Cuts t := by
  obtain ⟨m, hm, hspan⟩ := List.mem_filterMap.1 h
  exact (Pattern.cuts_of_mem_findAll hm).emitted hspan

end TextEditor
