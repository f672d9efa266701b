import Mathlib.Data.List.MinMax
import TextEditor.Proofs.Grammar.Candidates
import TextEditor.Proofs.Pattern.Leftmost

/-!
# The literal scan

The literal scan keeps the next match of each rule as long as this does not begin before the
position that the scan has come to. The plain scan searches for every rule again at every position.
Both list the same, since a search from further on finds the same match unless this begins before.
As every position is a boundary behind the one before, the scan comes to an end in every line.

Main statements: `map_refresh`, the matches that are kept are those that a new search finds;
`plainLiterals_ordered`, what is listed comes one after the other; and `literalScan_eq_plain`.
-/

namespace TextEditor

variable {line : Text} {rules : List Rule} {rule : Rule} {m : LiteralMatch} {i n : Nat}

/-! ## Searching for one rule -/

namespace Rule

/-- A search from further on finds the same match of a rule if this does not begin before. -/
theorem literalAt?_of_start_le (hi : line.isBoundary i = true) (hn : line.isBoundary n = true)
    (hle : i ≤ n) (h : ∀ m, rule.literalAt? line i = some m → n ≤ m.whole.start) :
    rule.literalAt? line n = rule.literalAt? line i := by
  have hsearch : rule.pattern.searchAt line n = rule.pattern.searchAt line i := by
    refine Pattern.searchAt_of_start_le hi hn hle fun m hm => ?_
    exact h _ (by rw [literalAt?, hm]; rfl)
  rw [literalAt?, hsearch, literalAt?]

/-- A match of a literal rule begins where it is looked for or behind, and what the rule emits lies
in it. -/
theorem within_of_literalAt? (hn : line.isBoundary n = true)
    (h : rule.literalAt? line n = some m) :
    n ≤ m.whole.start ∧ m.whole.contains m.candidate.span = true := by
  obtain ⟨front, back, rfl, rfl⟩ := Text.isBoundary_iff.1 hn
  obtain ⟨found, hfound, rfl⟩ := Option.map_eq_some_iff.1 h
  rw [Pattern.searchAt, Place.ofOffset_append_size] at hfound
  obtain ⟨passed, rest, -, -, hmatch⟩ := Pattern.exists_of_search hfound
  obtain ⟨inside, _, -, hwhole, -, hgroups⟩ := Pattern.exists_of_matchAt hmatch
  refine ⟨Pattern.start_le_of_search hfound, ?_⟩
  cases hspan : rule.emitted? found with
  | some span => exact Rule.contains_of_emitted hgroups hspan
  | none =>
      rw [Span.contains_iff]
      simp [hwhole]

end Rule

/-! ## Resuming -/

/-- The scan always goes on behind where it looked last, even after an empty match. -/
theorem lt_resumeAfter (line : Text) (n : Nat) (m : LiteralMatch) : n < resumeAfter line n m := by
  unfold resumeAfter
  split
  · next h => exact h
  · cases (line.after n).head? with
    | none => exact Nat.lt_succ_self n
    | some c => exact Nat.lt_add_of_pos_right (Char.utf8Size_pos c)

/-- The scan goes on behind the match as a whole. -/
theorem stop_le_resumeAfter (line : Text) (n : Nat) (m : LiteralMatch) :
    m.whole.stop ≤ resumeAfter line n m := by
  have hlt := lt_resumeAfter line n m
  unfold resumeAfter at hlt ⊢
  split
  · exact Nat.le_refl _
  · next h =>
      rw [if_neg h] at hlt
      omega

/-- Fewer characters follow a boundary further on. -/
theorem Text.length_after_lt {t : Text} (hi : t.isBoundary i = true) (hn : t.isBoundary n = true)
    (hlt : i < n) : (t.after n).length < (t.after i).length := by
  obtain ⟨s, u, v, rfl, rfl, rfl⟩ := exists_pieces (Nat.le_of_lt hlt) hi hn
  have hlater := after_append_size (s ++ u) v
  rw [size_append, List.append_assoc] at hlater
  rw [hlater, after_append_size, List.length_append]
  cases u with
  | nil => simp at hlt
  | cons c u =>
      rw [List.length_cons]
      omega

/-! ## The plain scan -/

/-- The match that begins to emit first among the next matches of all rules, of the earliest rule if
several do. -/
def plainNext? (line : Text) (rules : List Rule) (n : Nat) : Option LiteralMatch :=
  (rules.filterMap (·.literalAt? line n)).argmin (·.candidate.span.start)

/-- The literal candidates from byte `n` on, with a new search for every rule at every position. -/
def plainLiterals (line : Text) (rules : List Rule) (n : Nat) : List Candidate :=
  if n < line.size then
    match plainNext? line rules n with
    | none => []
    | some m => m.candidate :: plainLiterals line rules (resumeAfter line n m)
  else []
termination_by line.size - n
decreasing_by
  have := lt_resumeAfter line n m
  omega

/-- What the plain scan takes next has been found by one of the rules. -/
theorem exists_of_plainNext? (h : plainNext? line rules n = some m) :
    ∃ rule ∈ rules, rule.literalAt? line n = some m :=
  List.mem_filterMap.1 (List.argmin_mem h)

/-- The next match in the plain scan cuts no character and begins at the position or behind. -/
theorem within_of_plainNext? (hn : line.isBoundary n = true)
    (h : plainNext? line rules n = some m) :
    m.Cuts line ∧ n ≤ m.whole.start ∧ m.whole.contains m.candidate.span = true := by
  obtain ⟨rule, -, hrule⟩ := exists_of_plainNext? h
  exact ⟨Rule.cuts_of_literalAt? hrule, Rule.within_of_literalAt? hn hrule⟩

/-- The candidates of the plain scan come one after the other, from the position on. -/
theorem plainLiterals_ordered (hn : line.isBoundary n = true) :
    (∀ candidate ∈ plainLiterals line rules n, n ≤ candidate.span.start) ∧
      (plainLiterals line rules n).Pairwise fun a b => a.span.Precedes b.span := by
  fun_induction plainLiterals line rules n with
  | case1 n hlt hnone => exact ⟨fun _ h => absurd h List.not_mem_nil, .nil⟩
  | case3 n hend => exact ⟨fun _ h => absurd h List.not_mem_nil, .nil⟩
  | case2 n hlt m hm ih =>
      obtain ⟨hcuts, hstart, hinside⟩ := within_of_plainNext? hn hm
      obtain ⟨hbehind, hordered⟩ := ih (isBoundary_resumeAfter hn hlt hcuts.whole)
      rw [Span.contains_iff] at hinside
      have hstop := stop_le_resumeAfter line n m
      have hahead := lt_resumeAfter line n m
      refine ⟨fun other hmem => ?_, List.pairwise_cons.2 ⟨fun other hmem => ?_, hordered⟩⟩
      · rcases List.mem_cons.1 hmem with rfl | hmem
        · omega
        · have := hbehind other hmem
          omega
      · have := hbehind other hmem
        show m.candidate.span.stop ≤ other.span.start
        omega

/-! ## The matches that are kept -/

/-- The rules with their next matches from byte `n` on. -/
def searched (line : Text) (rules : List Rule) (n : Nat) : List Upcoming :=
  rules.map fun rule => (rule, rule.literalAt? line n)

/-- Refreshing the matches found from byte `i` on gives those that are found from byte `n` on. -/
theorem map_refresh (hi : line.isBoundary i = true) (hn : line.isBoundary n = true) (hle : i ≤ n) :
    (searched line rules i).map (Upcoming.refresh line n) = searched line rules n := by
  rw [searched, List.map_map, searched]
  refine List.map_congr_left fun rule _ => ?_
  show Upcoming.refresh line n (rule, rule.literalAt? line i) = _
  cases hfound : rule.literalAt? line i with
  | none =>
      rw [Rule.literalAt?_of_start_le hi hn hle (by simp [hfound]), hfound]
      rfl
  | some m =>
      by_cases hpassed : m.whole.start < n
      · simp [Upcoming.refresh, hpassed]
      · rw [Rule.literalAt?_of_start_le hi hn hle, hfound]
        · simp [Upcoming.refresh, hpassed]
        · intro other hother
          obtain rfl := Option.some.inj (hfound.symm.trans hother)
          exact Nat.le_of_not_lt hpassed

/-- The leftmost of what all rules find from an offset on is what the plain scan takes next. -/
theorem leftmost?_searched (line : Text) (rules : List Rule) (n : Nat) :
    Upcoming.leftmost? (searched line rules n) = plainNext? line rules n := by
  rw [Upcoming.leftmost?, searched, List.foldl_map, plainNext?, List.argmin, List.foldl_filterMap]
  congr
  funext best rule
  cases best with
  | none =>
      cases rule.literalAt? line n with
      | none => rfl
      | some m => rfl
  | some best =>
      cases rule.literalAt? line n with
      | none => rfl
      | some m => rfl

/-- With a budget of all characters that follow, the scan lists what the plain scan lists. -/
theorem literalsFrom_searched {budget : Text} (hi : line.isBoundary i = true)
    (hn : line.isBoundary n = true) (hle : i ≤ n)
    (hbudget : (line.after n).length ≤ budget.length) :
    literalsFrom line budget n (searched line rules i) = plainLiterals line rules n := by
  induction budget generalizing i n with
  | nil =>
      have hnone : line.after n = [] := List.length_eq_zero_iff.1 (Nat.le_zero.1 hbudget)
      have hend : ¬ n < line.size := by
        have hsplit := Text.floor_add_size_after line n
        rw [hnone, Text.size_nil, Text.floor_eq_of_isBoundary hn] at hsplit
        omega
      rw [plainLiterals, if_neg hend]
      rfl
  | cons c budget ih =>
      rw [literalsFrom, plainLiterals]
      by_cases hlt : n < line.size
      · rw [if_pos hlt, if_pos hlt, map_refresh hi hn hle]
        simp only [leftmost?_searched]
        cases hm : plainNext? line rules n with
        | none => rfl
        | some m =>
            have hahead := lt_resumeAfter line n m
            have hresume :=
              isBoundary_resumeAfter hn hlt (within_of_plainNext? hn hm).1.whole
            have hfewer := Text.length_after_lt hn hresume hahead
            simp only
            rw [ih hn hresume (Nat.le_of_lt hahead) (by rw [List.length_cons] at hbudget; omega)]
      · rw [if_neg hlt, if_neg hlt]

/-- The scan that keeps what the rules found finds the same as one that looks again each time. -/
theorem Grammar.literalCandidates_eq_plain (grammar : Grammar) (line : Text) :
    grammar.literalCandidates line = plainLiterals line grammar.literals 0 :=
  literalsFrom_searched (Text.isBoundary_zero line) (Text.isBoundary_zero line) (Nat.le_refl 0)
    (by rw [Text.after_zero])

/-! ## The scan without a budget -/

/-- `Scans line n upcoming positions candidates` says that the scan, at byte `n` with the matches
`upcoming` kept, stands at these positions and lists these candidates before it ends. -/
inductive Scans (line : Text) : Nat → List Upcoming → List Nat → List Candidate → Prop where
  | ended (n upcoming) : line.size ≤ n → Scans line n upcoming [n] []
  | unmatched (n upcoming) :
      n < line.size →
      Upcoming.leftmost? (upcoming.map (Upcoming.refresh line n)) = none →
      Scans line n upcoming [n] []
  | matched (n upcoming m positions candidates) :
      n < line.size →
      Upcoming.leftmost? (upcoming.map (Upcoming.refresh line n)) = some m →
      Scans line (resumeAfter line n m) (upcoming.map (Upcoming.refresh line n)) positions
        candidates →
      Scans line n upcoming (n :: positions) (m.candidate :: candidates)

/-- The scan ends, at boundaries that lie one behind the other, with what the plain scan lists. -/
theorem exists_scans (rules : List Rule) (hi : line.isBoundary i = true)
    (hn : line.isBoundary n = true) (hle : i ≤ n) :
    ∃ positions, Scans line n (searched line rules i) positions (plainLiterals line rules n) ∧
      positions.Pairwise (· < ·) ∧
      ∀ position ∈ positions, n ≤ position ∧ line.isBoundary position = true := by
  fun_induction plainLiterals line rules n generalizing i with
  | case1 n hlt hnone =>
      refine ⟨[n], .unmatched n _ hlt ?_, List.pairwise_singleton _ _, ?_⟩
      · rw [map_refresh hi hn hle, leftmost?_searched, hnone]
      · intro position hmem
        obtain rfl := List.mem_singleton.1 hmem
        exact ⟨Nat.le_refl _, hn⟩
  | case3 n hend =>
      refine ⟨[n], .ended n _ (Nat.le_of_not_lt hend), List.pairwise_singleton _ _, ?_⟩
      intro position hmem
      obtain rfl := List.mem_singleton.1 hmem
      exact ⟨Nat.le_refl _, hn⟩
  | case2 n hlt m hm ih =>
      have hahead := lt_resumeAfter line n m
      have hresume := isBoundary_resumeAfter hn hlt (within_of_plainNext? hn hm).1.whole
      obtain ⟨positions, hscans, hordered, hbounds⟩ := ih hn hresume (Nat.le_of_lt hahead)
      rw [← map_refresh hi hn hle] at hscans
      refine ⟨n :: positions, .matched n _ m _ _ hlt ?_ hscans, ?_, ?_⟩
      · rw [map_refresh hi hn hle, leftmost?_searched, hm]
      · exact List.pairwise_cons.2
          ⟨fun position hmem => Nat.lt_of_lt_of_le hahead (hbounds position hmem).1, hordered⟩
      · intro position hmem
        rcases List.mem_cons.1 hmem with rfl | hmem
        · exact ⟨Nat.le_refl _, hn⟩
        · obtain ⟨hposition, hboundary⟩ := hbounds position hmem
          exact ⟨Nat.le_trans (Nat.le_of_lt hahead) hposition, hboundary⟩

/-- The literal scan of a line ends, and what it lists is what the plain scan lists, whatever the
rules are: whether they match nothing but the empty text or emit a part of what they match. It goes
on from boundary to boundary, each behind the one before. -/
theorem literalScan_eq_plain (grammar : Grammar) (line : Text) :
    grammar.literalCandidates line = plainLiterals line grammar.literals 0 ∧
      ∃ positions,
        Scans line 0 (searched line grammar.literals 0) positions
          (grammar.literalCandidates line) ∧
        positions.Pairwise (· < ·) ∧ ∀ position ∈ positions, line.isBoundary position = true := by
  have hzero := Text.isBoundary_zero line
  obtain ⟨positions, hscans, hordered, hbounds⟩ :=
    exists_scans grammar.literals hzero hzero (Nat.le_refl 0)
  have hplain := grammar.literalCandidates_eq_plain line
  refine ⟨hplain, positions, hplain ▸ hscans, hordered, fun position hmem => ?_⟩
  exact (hbounds position hmem).2

end TextEditor
