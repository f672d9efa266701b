import TextEditor.Proofs.Pattern.Pieces
import TextEditor.Proofs.Pattern.Ways

/-!
# Leftmost matches

A search tries the places of a text one after the other and passes over those where no match begins,
so that a search that begins further on finds the same match as long as this does not begin before
it. A match passes only characters that its pattern reads, and what a rule emits for it lies in it.

Main statements: `exists_of_matchAt` and `contains_of_emitted`, `search_of_misses` and
`searchAt_of_start_le`.
-/

namespace TextEditor

variable {p : Pattern} {m : Match} {front back passed rest : Text}

/-! ## One match -/

/-- A match from a place on passes characters that the pattern reads, and its groups lie in it. -/
theorem Pattern.exists_of_matchAt (h : p.matchAt (.between front back) = some m) :
    ∃ passed rest, back = passed ++ rest ∧ m.whole = ⟨front.size, (front ++ passed).size⟩ ∧
      (∀ c ∈ passed, p.reads c = true) ∧
      ∀ group ∈ m.groups, m.whole.contains group.2 = true := by
  rw [matchAt_eq_head?] at h
  obtain ⟨way, hway, rfl⟩ := Option.map_eq_some_iff.1 h
  obtain ⟨passed, rest, hback, hplace, hpassed, hgroups⟩ :=
    passes_of_mem_ways (List.mem_of_head? hway)
  refine ⟨passed, rest, hback, by rw [hplace]; rfl, hpassed, fun group hgroup => ?_⟩
  rw [Span.contains_iff, hplace]
  exact (hgroups group hgroup).resolve_left List.not_mem_nil

/-- A match begins at the place that it is found at. -/
theorem Pattern.start_of_matchAt {place : Place} (h : p.matchAt place = some m) :
    m.whole.start = place.offset := by
  rw [matchAt_eq_head?] at h
  obtain ⟨way, -, rfl⟩ := Option.map_eq_some_iff.1 h
  rfl

/-- What a rule emits for a match lies in it, if the groups of the match do. -/
theorem Rule.contains_of_emitted {rule : Rule} {span : Span}
    (hgroups : ∀ group ∈ m.groups, m.whole.contains group.2 = true)
    (h : rule.emitted? m = some span) : m.whole.contains span = true := by
  simp only [emitted?] at h
  split at h
  · cases h
  · obtain rfl := Option.some.inj h
    cases hfirst : m.firstGroup? rule.pattern.groupCount with
    | none => exact Span.contains_iff.2 ⟨Nat.le_refl _, Nat.le_refl _⟩
    | some group =>
        obtain ⟨index, -, hindex⟩ := List.exists_of_findSome?_eq_some hfirst
        obtain ⟨_, _, hsplit, -⟩ := List.lookup_eq_some_iff.1 hindex
        exact hgroups (index, group) (by simp [hsplit])

/-! ## Places -/

namespace Place

/-- Stepping over a text leads to the place behind it. -/
theorem skipTo_between (front passed rest : Text) :
    skipTo (front ++ passed).size (passed ++ rest) (between front (passed ++ rest)) =
      between (front ++ passed) rest := by
  induction passed generalizing front with
  | nil =>
      simp only [List.append_nil, List.nil_append]
      cases rest with
      | nil => rfl
      | cons c rest => exact if_pos (Nat.le_refl _)
  | cons c passed ih =>
      have hpos := Char.utf8Size_pos c
      have hahead : ¬ (front ++ c :: passed).size ≤ front.size := by
        simp only [Text.size_append, Text.size_cons]
        omega
      rw [List.cons_append, skipTo, between_offset, if_neg hahead, next_between]
      have hnext := ih (front ++ [c])
      rwa [List.append_assoc, List.singleton_append] at hnext

/-- The place at the offset where a text is cut is between its two parts. -/
theorem ofOffset_append_size (front back : Text) :
    ofOffset (front ++ back) front.size = between front back :=
  skipTo_between [] front back

end Place

/-! ## Searches -/

namespace Pattern

/-- At the end of a text a search can only match there. -/
theorem search_between_nil (p : Pattern) (front : Text) :
    p.search (.between front []) = p.matchAt (.between front []) := rfl

/-- A search matches at its place or goes on from the next one. -/
theorem search_between_cons (p : Pattern) (front : Text) (c : Char) (back : Text) :
    p.search (.between front (c :: back)) =
      (p.matchAt (.between front (c :: back))).or (p.search (.between (front ++ [c]) back)) := by
  rw [search, Place.between, searchFrom, Option.orElse_eq_or]
  simp [search, Place.between]

/-- No match begins before any of the characters of `passed`. -/
def Misses (p : Pattern) (front passed rest : Text) : Prop :=
  ∀ u c v, passed = u ++ c :: v → p.matchAt (.between (front ++ u) (c :: v ++ rest)) = none

/-- To miss in a text is to miss at its start and in what comes behind its first character. -/
theorem misses_cons {c : Char} : p.Misses front (c :: passed) rest ↔
    p.matchAt (.between front (c :: passed ++ rest)) = none ∧
      p.Misses (front ++ [c]) passed rest := by
  constructor
  · intro h
    refine ⟨by simpa using h [] c passed rfl, fun u d v heq => ?_⟩
    simpa using h (c :: u) d v (by rw [heq, List.cons_append])
  · rintro ⟨hfirst, hrest⟩ u d v heq
    cases u with
    | nil =>
        obtain ⟨rfl, rfl⟩ := List.cons.inj heq
        simpa using hfirst
    | cons e u =>
        obtain ⟨rfl, htail⟩ := List.cons.inj heq
        simpa using hrest u d v htail

/-- A search passes over what no match begins in. -/
theorem search_of_misses (h : p.Misses front passed rest) :
    p.search (.between front (passed ++ rest)) = p.search (.between (front ++ passed) rest) := by
  induction passed generalizing front with
  | nil => simp
  | cons c passed ih =>
      obtain ⟨hfirst, hrest⟩ := misses_cons.1 h
      rw [List.cons_append, search_between_cons, ← List.cons_append, hfirst, Option.none_or,
        ih hrest, List.append_assoc, List.singleton_append]

/-- A search finds what matches at its place. -/
theorem search_of_matchAt (h : p.matchAt (.between front back) = some m) :
    p.search (.between front back) = some m := by
  cases back with
  | nil => exact h
  | cons c back => rw [search_between_cons, h, Option.some_or]

/-- A search finds the first place where a match begins. -/
theorem exists_of_search (h : p.search (.between front back) = some m) :
    ∃ passed rest, back = passed ++ rest ∧ p.Misses front passed rest ∧
      p.matchAt (.between (front ++ passed) rest) = some m := by
  induction back generalizing front with
  | nil => exact ⟨[], [], rfl, fun u c v heq => by simp at heq, by rwa [List.append_nil]⟩
  | cons c back ih =>
      rw [search_between_cons] at h
      cases hfirst : p.matchAt (.between front (c :: back)) with
      | some found =>
          rw [hfirst, Option.some_or] at h
          exact ⟨[], c :: back, rfl, fun u c v heq => by simp at heq, by
            rw [List.append_nil, hfirst, h]⟩
      | none =>
          rw [hfirst, Option.none_or] at h
          obtain ⟨passed, rest, rfl, hmisses, hmatch⟩ := ih h
          exact ⟨c :: passed, rest, rfl, misses_cons.2 ⟨hfirst, hmisses⟩, by simpa using hmatch⟩

/-- A search finds nothing that begins before its place. -/
theorem start_le_of_search (h : p.search (.between front back) = some m) :
    front.size ≤ m.whole.start := by
  obtain ⟨passed, rest, -, -, hmatch⟩ := exists_of_search h
  rw [start_of_matchAt hmatch, Place.between_offset, Text.size_append]
  exact Nat.le_add_right _ _

/-- A search from further on finds the same if what was found does not begin before. -/
theorem search_of_start_le
    (h : ∀ m, p.search (.between front (passed ++ rest)) = some m →
      (front ++ passed).size ≤ m.whole.start) :
    p.search (.between (front ++ passed) rest) = p.search (.between front (passed ++ rest)) := by
  induction passed generalizing front with
  | nil => simp
  | cons c passed ih =>
      have hpos := Char.utf8Size_pos c
      have hsplit := search_between_cons p front c (passed ++ rest)
      cases hfirst : p.matchAt (.between front (c :: (passed ++ rest))) with
      | some found =>
          rw [hfirst, Option.some_or] at hsplit
          have hle := h found hsplit
          rw [start_of_matchAt hfirst] at hle
          simp only [Text.size_append, Text.size_cons, Place.between_offset] at hle
          omega
      | none =>
          rw [hfirst, Option.none_or] at hsplit
          rw [List.cons_append, hsplit, ← ih, List.append_assoc, List.singleton_append]
          intro m hm
          have hle := h m (by rw [List.cons_append, hsplit, hm])
          rwa [List.append_assoc, List.singleton_append]

/-- A search from a later boundary of a text finds the same if what was found does not begin before
it. -/
theorem searchAt_of_start_le {t : Text} {i j : Nat} (hi : t.isBoundary i = true)
    (hj : t.isBoundary j = true) (hle : i ≤ j)
    (h : ∀ m, p.searchAt t i = some m → j ≤ m.whole.start) :
    p.searchAt t j = p.searchAt t i := by
  obtain ⟨front, passed, rest, rfl, rfl, rfl⟩ := Text.exists_pieces hle hi hj
  have hlater := Place.ofOffset_append_size (front ++ passed) rest
  rw [List.append_assoc] at hlater
  rw [← Text.size_append] at h ⊢
  rw [searchAt, searchAt, hlater, Place.ofOffset_append_size]
  rw [searchAt, Place.ofOffset_append_size] at h
  exact search_of_start_le h

end Pattern

end TextEditor
