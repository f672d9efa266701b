import TextEditor.Text.Words

/-!
# Words and the white space between them

The words of a text are its longest pieces without white space. Written out, a text is its words in
order with white space between them, and perhaps before the first and behind the last; this is so of
one list of words only, the one that is found by reading the text once. Trimming a text takes away
what white space it has at its ends.

Main statements: `spaced_splitWordsFrom` and `splitWords_eq_iff`, and `trim_append_append` with
`exists_append_trim`.
-/

namespace TextEditor.Text

open Unicode

/-- `Spaced words t` says that a text is made of its words: none of them is empty or has white space
in it, and there is white space between them and perhaps around them. -/
inductive Spaced : List Text → Text → Prop
  | blank {gap : Text} : (∀ c ∈ gap, isBlank c = true) → Spaced [] gap
  | word {gap word rest : Text} {words : List Text} :
      (∀ c ∈ gap, isBlank c = true) → word ≠ [] → (∀ c ∈ word, isBlank c = false) →
      (∀ c ∈ rest.head?, isBlank c = true) → Spaced words rest →
      Spaced (word :: words) (gap ++ word ++ rest)

variable {t gap word begun rest : Text} {words : List Text}

/-! ## Reading a text once -/

/-- Between words any white space is passed over. -/
theorem splitWordsFrom_gap (hgap : ∀ c ∈ gap, isBlank c = true) (t : Text) :
    splitWordsFrom [] (gap ++ t) = splitWordsFrom [] t := by
  induction gap with
  | nil => rfl
  | cons c gap ih =>
      obtain ⟨hc, hgap⟩ := List.forall_mem_cons.1 hgap
      rw [List.cons_append, splitWordsFrom, if_pos hc, if_pos List.isEmpty_nil, ih hgap]

/-- A word goes on as long as there is none. -/
theorem splitWordsFrom_word (hword : ∀ c ∈ word, isBlank c = false) (begun t : Text) :
    splitWordsFrom begun (word ++ t) = splitWordsFrom (begun ++ word) t := by
  induction word generalizing begun with
  | nil => rw [List.nil_append, List.append_nil]
  | cons c word ih =>
      obtain ⟨hc, hword⟩ := List.forall_mem_cons.1 hword
      rw [List.cons_append, splitWordsFrom, hc, if_neg Bool.false_ne_true, ih hword,
        List.append_assoc, List.singleton_append]

/-- A word that has begun ends where white space follows, or nothing at all. -/
theorem splitWordsFrom_rest (hbegun : begun ≠ []) (hrest : ∀ c ∈ rest.head?, isBlank c = true) :
    splitWordsFrom begun rest = begun :: splitWordsFrom [] rest := by
  have hempty : begun.isEmpty = false := List.isEmpty_eq_false_iff.2 hbegun
  cases rest with
  | nil => simp [splitWordsFrom, hempty]
  | cons c rest =>
      have hc : isBlank c = true := hrest c rfl
      simp [splitWordsFrom, hc, hempty]

/-! ## Texts made of words -/

/-- White space before words makes no difference. -/
theorem Spaced.cons_blank {c : Char} (hc : isBlank c = true) (h : Spaced words t) :
    Spaced words (c :: t) := by
  cases h with
  | blank hgap => exact .blank (List.forall_mem_cons.2 ⟨hc, hgap⟩)
  | word hgap hword hsolid hnext hrest =>
      exact .word (List.forall_mem_cons.2 ⟨hc, hgap⟩) hword hsolid hnext hrest

/-- A text may begin with its first word. -/
theorem Spaced.start (hword : word ≠ []) (hsolid : ∀ c ∈ word, isBlank c = false)
    (hnext : ∀ c ∈ rest.head?, isBlank c = true) (hrest : Spaced words rest) :
    Spaced (word :: words) (word ++ rest) := by
  have hgap : ∀ c ∈ ([] : Text), isBlank c = true := nofun
  exact .word hgap hword hsolid hnext hrest

/-- The words that are found make up the text, the first of them with what has begun. -/
theorem spaced_splitWordsFrom (hbegun : ∀ c ∈ begun, isBlank c = false) :
    Spaced (splitWordsFrom begun t) (begun ++ t) := by
  fun_induction splitWordsFrom begun t with
  | case1 begun hempty =>
      rw [List.isEmpty_iff.1 hempty]
      exact .blank fun _ hmem => absurd hmem List.not_mem_nil
  | case2 begun hempty =>
      exact .start (fun hnil => hempty (List.isEmpty_iff.2 hnil)) hbegun nofun (.blank nofun)
  | case3 begun c t hc hempty ih =>
      rw [List.isEmpty_iff.1 hempty]
      exact (ih nofun).cons_blank hc
  | case4 begun c t hc hempty ih =>
      refine .start (fun hnil => hempty (List.isEmpty_iff.2 hnil)) hbegun ?_
        ((ih nofun).cons_blank hc)
      rintro d ⟨⟩
      exact hc
  | case5 begun c t hc ih =>
      have hsolid : ∀ d ∈ begun ++ [c], isBlank d = false := by
        intro d hd
        rcases List.mem_append.1 hd with hd | hd
        · exact hbegun d hd
        · rw [List.mem_singleton.1 hd]
          exact Bool.eq_false_iff.2 hc
      have h := ih hsolid
      rwa [List.append_assoc, List.singleton_append] at h

/-- The words of a text are the one list of words that it is made of. -/
theorem splitWords_eq_iff : splitWords t = words ↔ Spaced words t := by
  constructor
  · rintro rfl
    have hbegun : ∀ c ∈ ([] : Text), isBlank c = false := nofun
    exact spaced_splitWordsFrom hbegun
  · intro h
    induction h with
    | @blank gap hgap =>
        have hsame := splitWordsFrom_gap hgap []
        rwa [List.append_nil] at hsame
    | word hgap hword hsolid hnext _ ih =>
        rw [splitWords, List.append_assoc, splitWordsFrom_gap hgap, splitWordsFrom_word hsolid,
          List.nil_append, splitWordsFrom_rest hword hnext]
        exact congrArg (_ :: ·) ih

/-! ## Trimming -/

/-- A text is what trimming leaves of it, with white space around that. -/
theorem exists_append_trim (t : Text) :
    ∃ front back, t = front ++ t.trim ++ back ∧ (∀ c ∈ front, isBlank c = true) ∧
      ∀ c ∈ back, isBlank c = true := by
  have hblank (s : Text) : ∀ c ∈ s.takeWhile isBlank, isBlank c = true :=
    fun c hc => List.all_eq_true.1 List.all_takeWhile c hc
  refine ⟨t.takeWhile isBlank, (t.trimLeft.reverse.takeWhile isBlank).reverse, ?_, hblank t, ?_⟩
  · rw [trim, trimRight, List.append_assoc, ← List.reverse_append, List.takeWhile_append_dropWhile,
      List.reverse_reverse, trimLeft, List.takeWhile_append_dropWhile]
  · intro c hc
    exact hblank _ c (List.mem_reverse.1 hc)

/-- What is dropped of a run and what follows it is the run, provided that it ends there. -/
theorem dropWhile_append_stop {α : Type} {kind : α → Bool} {run rest : List α}
    (hrun : ∀ a ∈ run, kind a = true) (hrest : ∀ a ∈ rest.head?, kind a = false) :
    (run ++ rest).dropWhile kind = rest := by
  rw [List.dropWhile_append_of_pos hrun]
  cases rest with
  | nil => rfl
  | cons a rest => rw [List.dropWhile_cons_of_neg (by simp [hrest a rfl])]

/-- Trimming leaves what has white space around it and none at its own ends. -/
theorem trim_append_append {front back : Text} (hfront : ∀ c ∈ front, isBlank c = true)
    (hback : ∀ c ∈ back, isBlank c = true) (hword : word ≠ [])
    (hhead : ∀ c ∈ word.head?, isBlank c = false)
    (hlast : ∀ c ∈ word.getLast?, isBlank c = false) : trim (front ++ word ++ back) = word := by
  have hleft : trimLeft (front ++ word ++ back) = word ++ back := by
    rw [trimLeft, List.append_assoc]
    refine dropWhile_append_stop hfront fun c hc => hhead c ?_
    cases word with
    | nil => exact absurd rfl hword
    | cons d word => exact hc
  have hright : (back.reverse ++ word.reverse).dropWhile isBlank = word.reverse := by
    refine dropWhile_append_stop (fun c hc => hback c (List.mem_reverse.1 hc)) fun c hc => ?_
    rw [List.head?_reverse] at hc
    exact hlast c hc
  rw [trim, hleft, trimRight, List.reverse_append, hright, List.reverse_reverse]

end TextEditor.Text
