import TextEditor.Buffer.Basic
import TextEditor.Proofs.Buffer.InStep

/-!
# Finding a text in lines

Looking for a text in a line gives the byte offset where it occurs first, if it occurs at all, and
looking for it in a buffer the numbers of the lines where it occurs, in order.

Main statements: `firstAt_of_find?`, `isSome_find?_iff`, `pairwise_find`, `mem_find_iff` and
`find_eq_find_iff_of_append`.
-/

namespace TextEditor

namespace Text

variable {needle t : Text} {offset : Nat}

/-- The first occurrence of a text in another one is at a byte offset. -/
structure FirstAt (needle t : Text) (offset : Nat) : Prop where
  occurs : ∃ front back, t = front ++ needle ++ back ∧ front.size = offset
  first : ∀ front back, t = front ++ needle ++ back → offset ≤ size front

/-- A text is found at a character boundary only. -/
theorem FirstAt.isBoundary (h : FirstAt needle t offset) : t.isBoundary offset = true := by
  obtain ⟨front, back, rfl, rfl⟩ := h.occurs
  rw [List.append_assoc]
  exact isBoundary_append_size front _

/-- Looking for a text in another one gives its first occurrence. -/
theorem firstAt_of_find? (h : find? needle t = some offset) : FirstAt needle t offset := by
  induction t generalizing offset with
  | nil =>
      simp only [find?] at h
      split at h
      · next hempty =>
          obtain rfl := List.isEmpty_iff.1 hempty
          obtain rfl := Option.some.inj h
          exact ⟨⟨[], [], rfl, rfl⟩, fun _ _ _ => Nat.zero_le _⟩
      · cases h
  | cons c t ih =>
      simp only [find?] at h
      split at h
      · next hprefix =>
          obtain ⟨back, hback⟩ := List.isPrefixOf_iff_prefix.1 hprefix
          obtain rfl := Option.some.inj h
          exact ⟨⟨[], back, hback.symm, rfl⟩, fun _ _ _ => Nat.zero_le _⟩
      · next hprefix =>
          obtain ⟨rest, hrest, rfl⟩ := Option.map_eq_some_iff.1 h
          obtain ⟨⟨front, back, hoccurs, hsize⟩, hfirst⟩ := ih hrest
          refine ⟨⟨c :: front, back, congrArg (c :: ·) hoccurs, ?_⟩, fun other others heq => ?_⟩
          · rw [size_cons, hsize]
          · cases other with
            | nil => exact absurd (List.isPrefixOf_iff_prefix.2 ⟨others, heq.symm⟩) hprefix
            | cons d other =>
                obtain ⟨rfl, hrest⟩ := List.cons.inj heq
                exact Nat.add_le_add_left (hfirst other others hrest) _

/-- A text is found just where it occurs. -/
theorem isSome_find?_iff : (find? needle t).isSome = true ↔ needle <:+: t := by
  induction t with
  | nil =>
      simp only [find?, List.infix_nil]
      split
      · next hempty => exact ⟨fun _ => List.isEmpty_iff.1 hempty, fun _ => rfl⟩
      · next hempty => exact ⟨nofun, fun hnil => absurd (List.isEmpty_iff.2 hnil) hempty⟩
  | cons c t ih =>
      simp only [find?]
      rw [List.infix_cons_iff, ← List.isPrefixOf_iff_prefix, ← ih]
      split
      · next hprefix => exact ⟨fun _ => .inl hprefix, fun _ => rfl⟩
      · next hprefix =>
          rw [Option.isSome_map]
          exact ⟨.inr, fun h => h.resolve_left hprefix⟩

end Text

namespace LineBuffer

variable {buffer : LineBuffer} {needle : Text} {index : Nat}

/-- Lines are found in order. -/
theorem pairwise_find (buffer : LineBuffer) (needle : Text) :
    (buffer.find needle).Pairwise (· < ·) := by
  unfold find
  split
  · exact .nil
  · have hnumbers : (buffer.lines.zipIdx.map Prod.snd).Pairwise (· < ·) := by
      rw [List.zipIdx_map_snd]
      exact List.pairwise_lt_range'
    refine (List.pairwise_map.1 hnumbers).filterMap _ ?_
    rintro ⟨line, i⟩ ⟨other, j⟩ hlt k hk l hl
    simp only [Option.ite_none_right_eq_some, Option.some.injEq] at hk hl
    rwa [← hk.2, ← hl.2]

/-- The lines found are those that hold the text, and none for the empty text. -/
theorem mem_find_iff : index ∈ buffer.find needle ↔
    index < buffer.length ∧ needle ≠ [] ∧ needle <:+: buffer.line index := by
  unfold find
  split
  · next hempty => exact ⟨nofun, fun h => absurd (List.isEmpty_iff.1 hempty) h.2.1⟩
  · next hempty =>
      have hneedle : needle ≠ [] := fun hnil => hempty (List.isEmpty_iff.2 hnil)
      simp only [List.mem_filterMap, Option.ite_none_right_eq_some, Option.some.injEq,
        Text.isSome_find?_iff]
      constructor
      · rintro ⟨⟨line, i⟩, hmem, hholds, rfl⟩
        have hget : buffer.lines[i]? = some line := List.mk_mem_zipIdx_iff_getElem?.1 hmem
        have hline : buffer.line i = line := by rw [LineBuffer.line, line?, hget, Option.getD_some]
        exact ⟨(List.getElem?_eq_some_iff.1 hget).1, hneedle, hline.symm ▸ hholds⟩
      · rintro ⟨hlt, -, hholds⟩
        refine ⟨(buffer.line index, index), List.mk_mem_zipIdx_iff_getElem?.2 ?_, hholds, rfl⟩
        rw [line_of_lt hlt]
        exact List.getElem?_eq_getElem hlt

/-- Further lines change nothing in what is found just if none of them holds the text. -/
theorem find_eq_find_iff_of_append {further : LineBuffer} {more : List Text}
    (h : further.lines = buffer.lines ++ more) :
    buffer.find needle = further.find needle ↔
      (needle ≠ [] → ∀ text ∈ more, ¬ needle <:+: text) := by
  constructor
  · intro hsame hneedle text htext hholds
    obtain ⟨i, hi⟩ := List.getElem?_of_mem htext
    have hget : further.lines[buffer.lines.length + i]? = some text := by
      rw [h, List.getElem?_append_right (Nat.le_add_right _ _), Nat.add_sub_cancel_left, hi]
    have hline : further.line (buffer.lines.length + i) = text := by
      rw [line, line?, hget, Option.getD_some]
    have hfound : buffer.lines.length + i ∈ buffer.find needle := by
      rw [hsame]
      exact mem_find_iff.2 ⟨(List.getElem?_eq_some_iff.1 hget).1, hneedle, hline.symm ▸ hholds⟩
    exact absurd (mem_find_iff.1 hfound).1 (Nat.not_lt.2 (Nat.le_add_right _ _))
  · intro hnone
    unfold find
    split
    · rfl
    · next hempty =>
        have hneedle : needle ≠ [] := fun hnil => hempty (List.isEmpty_iff.2 hnil)
        rw [h, List.zipIdx_append, List.filterMap_append]
        refine (List.append_nil _).symm.trans (congrArg _ (List.filterMap_eq_nil_iff.2 ?_).symm)
        rintro ⟨text, i⟩ hmem
        exact if_neg fun hholds => hnone hneedle text (List.fst_mem_of_mem_zipIdx hmem)
          (Text.isSome_find?_iff.1 hholds)

end LineBuffer

end TextEditor
