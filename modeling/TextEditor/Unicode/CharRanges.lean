/-!
# Sets of characters as ranges

A property of characters is stored as its ranges of code points in ascending order. `mem` walks the
ranges and stops at the first one past the code point. `mem_iff` says that on an ascending list this
is membership in one of the ranges.
-/

namespace TextEditor

/-- Inclusive ranges of code points, in ascending order. -/
abbrev CharRanges := List (Nat × Nat)

namespace CharRanges

/-- Whether a code point lies in one of the ranges; the walk stops at the first range past it. -/
def mem : CharRanges → Nat → Bool
  | [], _ => false
  | (first, last) :: rest, n =>
      if n < first then false else if n ≤ last then true else mem rest n

/-- Whether a character lies in one of the ranges. -/
def has (ranges : CharRanges) (c : Char) : Bool := mem ranges c.toNat

/-- Ranges are ascending when each is non-empty and ends before the next begins. -/
def Ascending : CharRanges → Prop
  | [] => True
  | [(first, last)] => first ≤ last
  | (first, last) :: (first', last') :: rest =>
      first ≤ last ∧ last < first' ∧ Ascending ((first', last') :: rest)

/-- In an ascending list no later range begins before the end of the first. -/
theorem Ascending.first_le {first last : Nat} {rest : CharRanges}
    (h : Ascending ((first, last) :: rest)) : ∀ r ∈ rest, last < r.1 := by
  induction rest generalizing first last with
  | nil => simp
  | cons r rest ih =>
      obtain ⟨first', last'⟩ := r
      obtain ⟨_, hlt, hrest⟩ := h
      intro r hr
      rcases List.mem_cons.1 hr with rfl | hr
      · exact hlt
      · have hle : first' ≤ last' := by
          cases rest with
          | nil => exact hrest
          | cons _ _ => exact hrest.1
        have := ih hrest r hr
        omega

/-- Walking an ascending list of ranges decides membership in one of them. -/
theorem mem_iff {ranges : CharRanges} (h : Ascending ranges) (n : Nat) :
    mem ranges n = true ↔ ∃ r ∈ ranges, r.1 ≤ n ∧ n ≤ r.2 := by
  induction ranges with
  | nil => simp [mem]
  | cons r rest ih =>
      obtain ⟨first, last⟩ := r
      have hrest : Ascending rest := by
        cases rest with
        | nil => trivial
        | cons r' rest' => exact h.2.2
      have hlater := h.first_le
      by_cases hlt : n < first
      · simp only [mem, hlt, if_true, List.mem_cons, exists_eq_or_imp, Bool.false_eq_true,
          false_iff]
        rintro (⟨h1, _⟩ | ⟨r, hr, h1, _⟩)
        · omega
        · have hle : first ≤ last := by
            cases rest with
            | nil => exact h
            | cons _ _ => exact h.1
          have := hlater r hr
          omega
      · by_cases hle : n ≤ last
        · simp only [mem, hlt, if_false, hle, if_true, true_iff]
          exact ⟨(first, last), by simp, by omega, hle⟩
        · simp only [mem, hlt, if_false, hle, ih hrest, List.mem_cons]
          constructor
          · rintro ⟨r, hr, h⟩
            exact ⟨r, Or.inr hr, h⟩
          · rintro ⟨r, rfl | hr, h⟩
            · exact absurd h.2 hle
            · exact ⟨r, hr, h⟩

end CharRanges

end TextEditor
