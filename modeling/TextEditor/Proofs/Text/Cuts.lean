import TextEditor.Text

/-!
# Cutting a text

How `before`, `after`, `floor`, `between` and `slice?` act on a text that is put together from
pieces. A byte offset is a boundary exactly if it is the size of some front part of the text, so
that most facts about boundaries come from writing the text as two pieces.

Main statements: `isBoundary_iff`, `before_append_size_add` with `after_append_size_add`, and
`slice?_append_append`, which cuts the middle one of three pieces out again.
-/

namespace TextEditor.Text

/-- Every character takes a byte. -/
@[simp] theorem utf8Size_ne_zero (c : Char) : c.utf8Size ≠ 0 :=
  Nat.ne_of_gt (Char.utf8Size_pos c)

/-- Nothing of a text is before its start. -/
@[simp] theorem before_zero (t : Text) : before t 0 = [] := by
  cases t with
  | nil => rfl
  | cons c t => simp [before]

/-- All of a text is behind its start. -/
@[simp] theorem after_zero (t : Text) : after t 0 = t := by
  cases t with
  | nil => rfl
  | cons c t => simp [after]

/-- The start is its own floor. -/
@[simp] theorem floor_zero (t : Text) : floor t 0 = 0 := by simp [floor]

/-- Nothing of an empty text is before any offset. -/
@[simp] theorem before_nil (n : Nat) : before [] n = [] := rfl

/-- Nothing of an empty text is behind any offset. -/
@[simp] theorem after_nil (n : Nat) : after [] n = [] := rfl

/-- Only the empty text has size zero. -/
theorem size_eq_zero_iff {t : Text} : size t = 0 ↔ t = [] := by
  cases t with
  | nil => simp
  | cons c t =>
      have := Char.utf8Size_pos c
      simp only [size_cons, reduceCtorEq, iff_false]
      omega

/-- The order of characters does not matter for the size. -/
@[simp] theorem size_reverse (t : Text) : size t.reverse = size t := by
  induction t with
  | nil => rfl
  | cons c t ih =>
      rw [List.reverse_cons, size_append, ih, size_cons, size_cons, size_nil]
      omega

/-- What a cut leaves behind begins after as many bytes as stand before. -/
theorem floor_add_size_after (t : Text) (n : Nat) : floor t n + size (after t n) = size t := by
  have h := congrArg size (before_append_after t n)
  rwa [size_append] at h

/-- A cut behind the first piece leaves that piece whole. -/
theorem before_append_size_add (s t : Text) (n : Nat) :
    before (s ++ t) (size s + n) = s ++ before t n := by
  induction s with
  | nil => simp
  | cons c s ih =>
      have h : c.utf8Size ≤ size (c :: s) + n := by
        simp only [size_cons]
        omega
      have hrest : size (c :: s) + n - c.utf8Size = size s + n := by
        simp only [size_cons]
        omega
      rw [List.cons_append, before, if_pos h, hrest, ih, List.cons_append]

/-- What follows a cut behind the first piece is what follows it in the second. -/
theorem after_append_size_add (s t : Text) (n : Nat) :
    after (s ++ t) (size s + n) = after t n := by
  induction s with
  | nil => simp
  | cons c s ih =>
      have h : c.utf8Size ≤ size (c :: s) + n := by
        simp only [size_cons]
        omega
      have hrest : size (c :: s) + n - c.utf8Size = size s + n := by
        simp only [size_cons]
        omega
      rw [List.cons_append, after, if_pos h, hrest, ih]

/-- Up to where the first of two texts ends is the first. -/
@[simp] theorem before_append_size (s t : Text) : before (s ++ t) (size s) = s := by
  simpa using before_append_size_add s t 0

/-- From where the first of two texts ends on is the second. -/
@[simp] theorem after_append_size (s t : Text) : after (s ++ t) (size s) = t := by
  simpa using after_append_size_add s t 0

/-- All of a text is before an offset past its end. -/
theorem before_of_size_le {t : Text} {n : Nat} (h : size t ≤ n) : before t n = t := by
  have := before_append_size_add t [] (n - size t)
  rwa [List.append_nil, before_nil, List.append_nil, Nat.add_sub_of_le h] at this

/-- Nothing of a text is behind an offset past its end. -/
theorem after_of_size_le {t : Text} {n : Nat} (h : size t ≤ n) : after t n = [] := by
  have := after_append_size_add t [] (n - size t)
  rwa [List.append_nil, after_nil, Nat.add_sub_of_le h] at this

/-- All of a text is before its end. -/
@[simp] theorem before_size (t : Text) : before t (size t) = t := before_of_size_le (Nat.le_refl _)

/-- Nothing of a text is behind its end. -/
@[simp] theorem after_size (t : Text) : after t (size t) = [] := after_of_size_le (Nat.le_refl _)

/-- An offset past the end is moved back to the end. -/
theorem floor_of_size_le {t : Text} {n : Nat} (h : size t ≤ n) : floor t n = size t := by
  rw [floor, before_of_size_le h]

/-- In the second of two texts a floor is found as in that text alone. -/
theorem floor_append_size_add (s t : Text) (n : Nat) :
    floor (s ++ t) (size s + n) = size s + floor t n := by
  rw [floor, before_append_size_add, size_append, floor]

/-- Cutting at the floor of an offset is cutting at the offset. -/
theorem after_floor (t : Text) (n : Nat) : after t (floor t n) = after t n := by
  have h := after_append_size (before t n) (after t n)
  rwa [before_append_after] at h

/-- A boundary is the size of a front part of the text. -/
theorem isBoundary_iff {t : Text} {n : Nat} :
    t.isBoundary n = true ↔ ∃ s u, t = s ++ u ∧ size s = n := by
  constructor
  · intro h
    exact ⟨before t n, after t n, (before_append_after t n).symm, beq_iff_eq.1 h⟩
  · rintro ⟨s, u, rfl, rfl⟩
    simp [isBoundary, floor]

/-- A boundary is its own floor. -/
theorem floor_eq_of_isBoundary {t : Text} {n : Nat} (h : t.isBoundary n = true) :
    floor t n = n := beq_iff_eq.1 h

/-- The start is a boundary. -/
@[simp] theorem isBoundary_zero (t : Text) : t.isBoundary 0 = true := by simp [isBoundary]

/-- The end is a boundary. -/
@[simp] theorem isBoundary_size (t : Text) : t.isBoundary (size t) = true := by
  simp [isBoundary, floor]

/-- A floor is a boundary. -/
@[simp] theorem isBoundary_floor (t : Text) (n : Nat) : t.isBoundary (floor t n) = true := by
  simp [isBoundary]

/-- No boundary is past the end. -/
theorem le_size_of_isBoundary {t : Text} {n : Nat} (h : t.isBoundary n = true) : n ≤ size t := by
  rw [← floor_eq_of_isBoundary h]
  exact floor_le_size t n

/-- Between two texts is a boundary. -/
theorem isBoundary_append_size (s t : Text) : (s ++ t).isBoundary (size s) = true :=
  isBoundary_iff.2 ⟨s, t, rfl, rfl⟩

/-- Boundaries of the second piece are boundaries of the whole. -/
theorem isBoundary_append_size_add {s t : Text} {n : Nat} (h : t.isBoundary n = true) :
    (s ++ t).isBoundary (size s + n) = true := by
  rw [isBoundary, floor_append_size_add, floor_eq_of_isBoundary h, beq_self_eq_true]

/-- Flooring keeps the order of offsets. -/
theorem floor_le_floor {t : Text} {m n : Nat} (h : m ≤ n) : floor t m ≤ floor t n := by
  induction t generalizing m n with
  | nil => simp [floor]
  | cons c t ih =>
      by_cases hm : c.utf8Size ≤ m
      · have hn : c.utf8Size ≤ n := Nat.le_trans hm h
        have hrest : floor t (m - c.utf8Size) ≤ floor t (n - c.utf8Size) := ih (by omega)
        simp only [floor, before, hm, hn, if_true, size_cons] at hrest ⊢
        omega
      · simp [floor, before, hm]

/-- The middle one of three pieces is what stands between its ends. -/
theorem between_append_append (s t u : Text) :
    between (s ++ (t ++ u)) (size s) (size s + size t) = t := by
  have hfloor : floor (s ++ (t ++ u)) (size s) = size s :=
    floor_eq_of_isBoundary (isBoundary_append_size _ _)
  rw [between, after_append_size, hfloor, Nat.add_sub_cancel_left, before_append_size]

/-- The middle one of three pieces can be cut out. -/
theorem slice?_append_append (s t u : Text) :
    slice? (s ++ (t ++ u)) (size s) (size s + size t) = some t := by
  have hstart : (s ++ (t ++ u)).isBoundary (size s) = true := isBoundary_append_size _ _
  have hstop : (s ++ (t ++ u)).isBoundary (size s + size t) = true :=
    isBoundary_append_size_add (isBoundary_append_size t u)
  rw [slice?, hstart, hstop, between_append_append]
  simp

/-- Of two front parts of a text the shorter one begins the other. -/
theorem exists_of_append_eq_append {s t u v : Text} (h : s ++ t = u ++ v)
    (hle : s.size ≤ u.size) : ∃ w, u = s ++ w ∧ t = w ++ v := by
  rcases List.append_eq_append_iff.1 h with ⟨w, rfl, rfl⟩ | ⟨w, rfl, rfl⟩
  · exact ⟨w, rfl, rfl⟩
  · rw [size_append] at hle
    obtain rfl := size_eq_zero_iff.1 (show size w = 0 by omega)
    exact ⟨[], by simp, rfl⟩

/-- A character of two texts one after the other stands in the first or in the second. -/
theorem append_eq_append_cons {s t front rest : Text} {c : Char}
    (h : s ++ t = front ++ c :: rest) :
    (∃ v, s = front ++ c :: v ∧ rest = v ++ t) ∨ ∃ w, front = s ++ w ∧ t = w ++ c :: rest := by
  rcases List.append_eq_append_iff.1 h with ⟨w, rfl, ht⟩ | ⟨w, rfl, hc⟩
  · exact .inr ⟨w, rfl, ht⟩
  · cases w with
    | nil => exact .inr ⟨[], by simp, hc.symm⟩
    | cons d w =>
        obtain ⟨rfl, hrest⟩ := List.cons.inj hc
        exact .inl ⟨w, rfl, hrest⟩

/-- A text is cut by two boundaries in order into three pieces. -/
theorem exists_pieces {t : Text} {m n : Nat} (hle : m ≤ n) (hm : t.isBoundary m = true)
    (hn : t.isBoundary n = true) :
    ∃ s u v, t = s ++ (u ++ v) ∧ size s = m ∧ size s + size u = n := by
  obtain ⟨s, rest, rfl, hs⟩ := isBoundary_iff.1 hm
  have hrest : rest.isBoundary (n - m) = true := by
    have hfloor := floor_eq_of_isBoundary hn
    rw [← Nat.add_sub_of_le hle, ← hs, floor_append_size_add] at hfloor
    rw [isBoundary, beq_iff_eq, ← hs]
    omega
  obtain ⟨u, v, rfl, hu⟩ := isBoundary_iff.1 hrest
  exact ⟨s, u, v, rfl, hs, by omega⟩

/-- What stands behind a boundary is what stands before a later one, and what stands behind that. -/
theorem after_eq_between_append {t : Text} {m n : Nat} (hle : m ≤ n) (hm : t.isBoundary m = true)
    (hn : t.isBoundary n = true) : after t m = between t m n ++ after t n := by
  obtain ⟨s, u, v, rfl, rfl, rfl⟩ := exists_pieces hle hm hn
  rw [between_append_append, after_append_size, after_append_size_add, after_append_size]

end TextEditor.Text
