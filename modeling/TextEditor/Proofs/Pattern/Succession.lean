import TextEditor.Proofs.Pattern.Leftmost

/-!
# Matches one after the other

The matches of a text are found one after the other, each behind the one before. A match that begins
somewhere is found if every match that begins before it has ended there by then; this is so if the
character in front of it is not one that the pattern reads.

Main statements: `pairwise_findAll` and `mem_findAll`, with `stop_le_of_not_reads`, and for what a
rule emits `pairwise_spans`, `exists_of_mem_spans` and `mem_spans`.
-/

namespace TextEditor

namespace Pattern

variable {p : Pattern} {m found : Match} {front back : Text} {resumed : Bool}

/-! ## The next match -/

/-- The next match is one of the places ahead, and leads on if the last one ended here. -/
theorem exists_of_nextMatch (h : p.nextMatch (.between front back) resumed = some m) :
    ∃ passed inside rest, back = passed ++ (inside ++ rest) ∧
      p.matchAt (.between (front ++ passed) (inside ++ rest)) = some m ∧
      m.whole = ⟨(front ++ passed).size, (front ++ passed ++ inside).size⟩ ∧
      (resumed = true → passed ++ inside ≠ []) := by
  simp only [nextMatch] at h
  split at h
  · cases h
  · next found hfound =>
      obtain ⟨passed, rest, rfl, -, hmatch⟩ := exists_of_search hfound
      obtain ⟨inside, rest, rfl, hwhole, -⟩ := exists_of_matchAt hmatch
      split at h
      · cases hback : passed ++ (inside ++ rest) with
        | nil =>
            rw [hback] at h
            simp at h
        | cons c back =>
            rw [hback] at h
            simp only [Place.between_rest, List.isEmpty_cons, Bool.false_eq_true, if_false,
              Place.next_between] at h
            obtain ⟨passed, rest, rfl, -, hmatch⟩ := exists_of_search h
            obtain ⟨inside, rest, rfl, hwhole, -⟩ := exists_of_matchAt hmatch
            refine ⟨c :: passed, inside, rest, rfl, ?_, ?_, fun _ => List.cons_ne_nil _ _⟩
            · rwa [List.append_assoc, List.singleton_append] at hmatch
            · rw [hwhole]
              simp
      · next hahead =>
          obtain rfl := Option.some.inj h
          refine ⟨passed, inside, rest, rfl, hmatch, hwhole, fun hresumed hnil => hahead ?_⟩
          obtain ⟨rfl, rfl⟩ := List.append_eq_nil_iff.1 hnil
          simp [hresumed, hwhole]

/-- After the next match the search goes on behind it. -/
theorem exists_findFrom_cons (c : Char) (budget : Text)
    (h : p.nextMatch (.between front back) resumed = some m) :
    ∃ passed inside rest, back = passed ++ (inside ++ rest) ∧
      m.whole = ⟨(front ++ passed).size, (front ++ passed ++ inside).size⟩ ∧
      (resumed = true → passed ++ inside ≠ []) ∧
      p.findFrom (c :: budget) (.between front back) resumed =
        m :: p.findFrom budget (.between (front ++ passed ++ inside) rest) true := by
  obtain ⟨passed, inside, rest, rfl, -, hwhole, hahead⟩ := exists_of_nextMatch h
  refine ⟨passed, inside, rest, rfl, hwhole, hahead, ?_⟩
  have hskip := Place.skipTo_between front (passed ++ inside) rest
  simp only [List.append_assoc] at hskip hwhole ⊢
  rw [findFrom, h]
  simp only [hwhole, Place.between_rest]
  rw [hskip]

/-! ## Order -/

/-- Matches that come after one another do not overlap, and none begins before the place looked
from. -/
theorem pairwise_findFrom (p : Pattern) (budget front back : Text) (resumed : Bool) :
    (∀ m ∈ p.findFrom budget (.between front back) resumed, front.size ≤ m.whole.start) ∧
      (p.findFrom budget (.between front back) resumed).Pairwise
        fun a b => a.whole.Precedes b.whole := by
  induction budget generalizing front back resumed with
  | nil => exact ⟨fun _ hmem => absurd hmem List.not_mem_nil, .nil⟩
  | cons c budget ih =>
      cases hnext : p.nextMatch (.between front back) resumed with
      | none =>
          rw [findFrom, hnext]
          exact ⟨fun _ hmem => absurd hmem List.not_mem_nil, .nil⟩
      | some m =>
          obtain ⟨passed, inside, rest, rfl, hwhole, -, hfind⟩ :=
            exists_findFrom_cons c budget hnext
          obtain ⟨hbehind, hordered⟩ := ih (front ++ passed ++ inside) rest true
          rw [hfind]
          refine ⟨fun other hmem => ?_, List.pairwise_cons.2 ⟨fun other hmem => ?_, hordered⟩⟩
          · rcases List.mem_cons.1 hmem with rfl | hmem
            · simp [hwhole]
            · have hle := hbehind other hmem
              simp only [Text.size_append] at hle
              omega
          · show m.whole.stop ≤ other.whole.start
            rw [hwhole]
            exact hbehind other hmem

/-- The matches of a text come one after the other. -/
theorem pairwise_findAll (p : Pattern) (t : Text) :
    (p.findAll t).Pairwise fun a b => a.whole.Precedes b.whole :=
  (pairwise_findFrom p (' ' :: t) [] t false).2

/-- Every match of a text is the one that begins at its place. -/
theorem exists_of_mem_findFrom {budget : Text}
    (h : m ∈ p.findFrom budget (.between front back) resumed) :
    ∃ passed inside rest, back = passed ++ (inside ++ rest) ∧
      p.matchAt (.between (front ++ passed) (inside ++ rest)) = some m ∧
      m.whole = ⟨(front ++ passed).size, (front ++ passed ++ inside).size⟩ := by
  induction budget generalizing front back resumed with
  | nil => exact absurd h List.not_mem_nil
  | cons c budget ih =>
      cases hnext : p.nextMatch (.between front back) resumed with
      | none =>
          rw [findFrom, hnext] at h
          exact absurd h List.not_mem_nil
      | some first =>
          obtain ⟨passed, inside, rest, hback, -, -, hfind⟩ :=
            exists_findFrom_cons c budget hnext
          rw [hfind] at h
          rcases List.mem_cons.1 h with rfl | h
          · obtain ⟨passed, inside, rest, hback, hmatch, hwhole, -⟩ := exists_of_nextMatch hnext
            exact ⟨passed, inside, rest, hback, hmatch, hwhole⟩
          · obtain ⟨further, within, rest', rfl, hmatch, hwhole⟩ := ih h
            refine ⟨passed ++ (inside ++ further), within, rest', by simp [hback], ?_, ?_⟩
            · simpa using hmatch
            · simpa using hwhole

/-- What is found in a text matches at a place of it. -/
theorem exists_of_mem_findAll {t : Text} (h : m ∈ p.findAll t) :
    ∃ front inside rest, t = front ++ (inside ++ rest) ∧
      p.matchAt (.between front (inside ++ rest)) = some m ∧
      m.whole = ⟨front.size, (front ++ inside).size⟩ :=
  exists_of_mem_findFrom (show m ∈ p.findFrom (' ' :: t) (.between [] t) false from h)

/-! ## Which matches are found -/

/-- If a match begins ahead, a search finds it or one that begins before. -/
theorem exists_search_of_matchAt {passed rest : Text}
    (h : p.matchAt (.between (front ++ passed) rest) = some m) :
    ∃ found, p.search (.between front (passed ++ rest)) = some found ∧
      (found = m ∨ ∃ u v, passed = u ++ v ∧ v ≠ [] ∧
        p.matchAt (.between (front ++ u) (v ++ rest)) = some found) := by
  induction passed generalizing front with
  | nil =>
      rw [List.append_nil] at h
      exact ⟨m, search_of_matchAt h, .inl rfl⟩
  | cons c passed ih =>
      rw [List.cons_append, search_between_cons]
      cases hfirst : p.matchAt (.between front (c :: (passed ++ rest))) with
      | some found =>
          exact ⟨found, rfl, .inr ⟨[], c :: passed, rfl, List.cons_ne_nil _ _, by simpa⟩⟩
      | none =>
          have hnext : p.matchAt (.between (front ++ [c] ++ passed) rest) = some m := by
            simpa using h
          obtain ⟨found, hsearch, hfound⟩ := ih hnext
          refine ⟨found, by rw [hsearch, Option.none_or], hfound.imp_right ?_⟩
          rintro ⟨u, v, rfl, hv, hmatch⟩
          exact ⟨c :: u, v, rfl, hv, by simpa using hmatch⟩

/-- If a match that is not empty begins ahead, the next match is that one or begins before. -/
theorem exists_nextMatch_of_matchAt {passed rest : Text} (resumed : Bool)
    (h : p.matchAt (.between (front ++ passed) rest) = some m)
    (hlt : m.whole.start < m.whole.stop) :
    ∃ found, p.nextMatch (.between front (passed ++ rest)) resumed = some found ∧
      (found = m ∨ ∃ u v, passed = u ++ v ∧ v ≠ [] ∧
        p.matchAt (.between (front ++ u) (v ++ rest)) = some found) := by
  obtain ⟨found, hsearch, hfound⟩ := exists_search_of_matchAt h
  simp only [nextMatch, hsearch]
  split
  · next hpassed =>
      simp only [Bool.and_eq_true, beq_iff_eq, Place.between_offset] at hpassed
      rcases hfound with rfl | ⟨u, v, rfl, hv, hmatch⟩
      · -- a match that is not empty ends behind the place
        have hstart := start_of_matchAt h
        simp only [Place.between_offset, Text.size_append] at hstart
        omega
      · obtain ⟨inside, _, -, hwhole, -⟩ := exists_of_matchAt hmatch
        have hzero : u.size = 0 := by
          have hstop := hpassed.2
          simp only [hwhole, Text.size_append] at hstop
          omega
        obtain rfl := Text.size_eq_zero_iff.1 hzero
        cases v with
        | nil => exact absurd rfl hv
        | cons c v =>
            simp only [List.nil_append] at h ⊢
            have hlater : p.matchAt (.between (front ++ [c] ++ v) rest) = some m := by simpa using h
            obtain ⟨next, hnext, hother⟩ := exists_search_of_matchAt hlater
            refine ⟨next, by simpa using hnext, hother.imp_right ?_⟩
            rintro ⟨u, w, rfl, hw, hmatch⟩
            exact ⟨c :: u, w, rfl, hw, by simpa using hmatch⟩
  · exact ⟨found, rfl, hfound⟩

/-- A match that is not empty is found if none from before it reaches into it. -/
theorem mem_findFrom {passed rest budget : Text}
    (h : p.matchAt (.between (front ++ passed) rest) = some m)
    (hlt : m.whole.start < m.whole.stop)
    (hbefore : ∀ u v found, passed = u ++ v → v ≠ [] →
      p.matchAt (.between (front ++ u) (v ++ rest)) = some found →
        found.whole.stop ≤ (front ++ passed).size)
    (hbudget : (passed ++ rest).length + (if resumed then 0 else 1) ≤ budget.length) :
    m ∈ p.findFrom budget (.between front (passed ++ rest)) resumed := by
  induction budget generalizing front passed resumed with
  | nil =>
      -- nothing is left to be matched
      have hnil : passed ++ rest = [] := List.length_eq_zero_iff.1 (by
        rw [List.length_nil] at hbudget
        omega)
      obtain ⟨-, rfl⟩ := List.append_eq_nil_iff.1 hnil
      obtain ⟨inside, _, hinside, hwhole, -⟩ := exists_of_matchAt h
      obtain ⟨rfl, -⟩ := List.append_eq_nil_iff.1 hinside.symm
      rw [hwhole, List.append_nil] at hlt
      exact absurd hlt (Nat.lt_irrefl _)
  | cons c budget ih =>
      obtain ⟨found, hnext, hfound⟩ := exists_nextMatch_of_matchAt resumed h hlt
      obtain ⟨skipped, inside, rest', hback, hwhole, hahead, hfind⟩ :=
        exists_findFrom_cons c budget hnext
      rw [hfind]
      rcases hfound with rfl | ⟨u, v, hpassed, hv, hmatch⟩
      · exact List.mem_cons_self ..
      · refine List.mem_cons_of_mem _ ?_
        -- the match before has ended in front of the one that is looked for
        have hstop := hbefore u v found hpassed hv hmatch
        rw [hwhole] at hstop
        obtain ⟨between, hbetween, rfl⟩ := Text.exists_of_append_eq_append
          (s := skipped ++ inside) (t := rest') (u := passed) (v := rest)
          (by rw [hback, List.append_assoc]) (by
            simp only [Text.size_append] at hstop ⊢
            omega)
        have hfront : front ++ passed = front ++ skipped ++ inside ++ between := by
          rw [hbetween]
          simp
        rw [hfront] at h hbefore
        refine ih h (fun u v other hsplit hv hother => ?_) ?_
        · refine hbefore (skipped ++ inside ++ u) v other ?_ hv ?_
          · rw [hbetween, hsplit]
            simp
          · simpa using hother
        · rw [hbetween] at hbudget
          have hpos : resumed = true → 0 < (skipped ++ inside).length := fun hresumed =>
            List.length_pos_iff.2 (hahead hresumed)
          simp only [List.length_append, List.length_cons, if_true] at hbudget hpos ⊢
          split at hbudget
          · next hresumed =>
              have := hpos hresumed
              omega
          · omega

/-- A match that is not empty is among the matches of a text if those that begin before it end by
where it begins. -/
theorem mem_findAll (h : p.matchAt (.between front back) = some m)
    (hlt : m.whole.start < m.whole.stop)
    (hbefore : ∀ u v found, front = u ++ v → v ≠ [] →
      p.matchAt (.between u (v ++ back)) = some found → found.whole.stop ≤ front.size) :
    m ∈ p.findAll (front ++ back) := by
  show m ∈ p.findFrom (' ' :: (front ++ back)) (.between [] (front ++ back)) false
  exact mem_findFrom h hlt hbefore (Nat.le_refl _)

/-- A match that begins before the end of a front part ends there by then, if the pattern does not
read the last character of the front part. -/
theorem stop_le_of_not_reads (hlast : ∀ c ∈ front.getLast?, p.reads c = false) {u v : Text}
    (hfront : front = u ++ v) (hv : v ≠ [])
    (h : p.matchAt (.between u (v ++ back)) = some found) : found.whole.stop ≤ front.size := by
  obtain ⟨passed, rest, hsplit, hwhole, hreads, -⟩ := exists_of_matchAt h
  rw [hwhole]
  by_cases hle : passed.size ≤ v.size
  · simp only [hfront, Text.size_append]
    omega
  · -- the match would have read the last character
    obtain ⟨w, rfl, -⟩ := Text.exists_of_append_eq_append hsplit (by omega)
    have hmem : v.getLast hv ∈ v ++ w := List.mem_append_left _ (List.getLast_mem hv)
    have hread := hreads _ hmem
    rw [hlast (v.getLast hv) (by
      rw [hfront, List.getLast?_append, List.getLast?_eq_some_getLast hv, Option.some_or]
      rfl)] at hread
    cases hread

end Pattern

namespace Rule

variable {rule : Rule} {line : Text} {span : Span}

/-- A rule without groups emits what it matches. -/
theorem emitted?_of_groupCount (h : rule.pattern.groupCount = 0) (m : Match) :
    rule.emitted? m = if m.whole.isEmpty then none else some m.whole := by
  rw [emitted?, h]
  rfl

/-- What a rule without groups emits begins with a character that its pattern reads. -/
theorem exists_of_mem_spans (hgroups : rule.pattern.groupCount = 0) (h : span ∈ rule.spans line) :
    ∃ (front : Text) (c : Char) (passed rest : Text) (m : Match),
      line = front ++ (c :: passed ++ rest) ∧
      span = ⟨front.size, (front ++ c :: passed).size⟩ ∧ rule.pattern.reads c = true ∧
      rule.pattern.matchAt (.between front (c :: passed ++ rest)) = some m := by
  obtain ⟨m, hm, hspan⟩ := List.mem_filterMap.1 h
  obtain ⟨front, inside, rest, rfl, hmatch, -⟩ := Pattern.exists_of_mem_findAll hm
  obtain ⟨passed, rest', hsplit, hwhole, hreads, -⟩ := Pattern.exists_of_matchAt hmatch
  rw [emitted?_of_groupCount hgroups] at hspan
  split at hspan
  · cases hspan
  · next hempty =>
      obtain rfl := Option.some.inj hspan
      cases passed with
      | nil => exact absurd (by simp [hwhole, Span.isEmpty]) hempty
      | cons c passed =>
          rw [hsplit] at hmatch
          exact ⟨front, c, passed, rest', m, by rw [hsplit], hwhole,
            hreads c (List.mem_cons_self ..), hmatch⟩

/-- A rule without groups emits each match that is not empty, if none from before reaches into
it. -/
theorem mem_spans (hgroups : rule.pattern.groupCount = 0) {front back : Text} {m : Match}
    (h : rule.pattern.matchAt (.between front back) = some m)
    (hlt : m.whole.start < m.whole.stop)
    (hbefore : ∀ u v found, front = u ++ v → v ≠ [] →
      rule.pattern.matchAt (.between u (v ++ back)) = some found →
        found.whole.stop ≤ front.size) : m.whole ∈ rule.spans (front ++ back) := by
  refine List.mem_filterMap.2 ⟨m, Pattern.mem_findAll h hlt hbefore, ?_⟩
  rw [emitted?_of_groupCount hgroups, Span.isEmpty_eq_false_iff.2 hlt]
  rfl

end Rule

/-- What lies inside the matches of a text comes one after the other, as the matches do. -/
theorem Pattern.pairwise_filterMap {p : Pattern} {t : Text} {pick : Match → Option Span}
    (hinside : ∀ m ∈ p.findAll t, ∀ span, pick m = some span → m.whole.contains span = true) :
    ((p.findAll t).filterMap pick).Pairwise Span.Precedes := by
  have hmatches : (p.findAll t).Pairwise fun a b =>
      ∀ s, pick a = some s → ∀ u, pick b = some u → s.Precedes u := by
    refine (p.pairwise_findAll t).imp_of_mem ?_
    intro a b ha hb hab s hs u hu
    have hleft := Span.contains_iff.1 (hinside a ha s hs)
    have hright := Span.contains_iff.1 (hinside b hb u hu)
    have hbetween : a.whole.stop ≤ b.whole.start := hab
    show s.stop ≤ u.start
    omega
  exact hmatches.filterMap _ fun _ _ h => h

/-- The groups of a match lie inside it. -/
theorem Pattern.contains_of_mem_findAll {p : Pattern} {t : Text} {m : Match}
    (h : m ∈ p.findAll t) : ∀ group ∈ m.groups, m.whole.contains group.2 = true := by
  obtain ⟨_, _, _, -, hmatch, -⟩ := Pattern.exists_of_mem_findAll h
  obtain ⟨_, _, -, -, -, hgroups⟩ := Pattern.exists_of_matchAt hmatch
  exact hgroups

/-- The spans that a rule emits in a line come one after the other. -/
theorem Rule.pairwise_spans (rule : Rule) (line : Text) :
    (rule.spans line).Pairwise Span.Precedes :=
  Pattern.pairwise_filterMap fun _ hm _ hspan =>
    Rule.contains_of_emitted (Pattern.contains_of_mem_findAll hm) hspan

end TextEditor
