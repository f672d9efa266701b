import TextEditor.Proofs.Buffer.Agreeing
import TextEditor.Proofs.Buffer.Splices

/-!
# Edits that change the lines

An edit changes the lines of a buffer if it puts in or takes out any character at all: the number of
times that a character stands in the whole text goes up by what is put in and down by what is taken
out. Splitting and joining lines change their number.

Main statements: `count_insert` and `count_removeRange`, and from them `lines_insert_ne`,
`lines_removeRange_ne` and `lines_insert_removeRange_ne`.
-/

namespace TextEditor

variable {c : Char} {t : Text}

/-- Normal form concerns terminators only. -/
theorem Text.mem_normalize (h : c ∈ t) (hc : isTerminator c = false) : c ∈ t.normalize := by
  induction t with
  | nil => cases h
  | cons d t ih =>
      rw [Text.isTerminator_eq_false_iff] at hc
      rw [Text.normalize_cons]
      rcases List.mem_cons.1 h with rfl | h
      · rw [if_neg fun hpair => hc.2 hpair.1, if_neg hc.2]
        exact List.mem_cons_self
      · split
        · exact ih h
        · exact List.mem_cons_of_mem _ (ih h)

/-- A text with characters keeps some in normal form. -/
theorem Text.normalize_ne_nil (h : t ≠ []) : t.normalize ≠ [] := by
  induction t with
  | nil => exact absurd rfl h
  | cons d t ih =>
      rw [Text.normalize_cons]
      split
      · next hpair =>
          apply ih
          rintro rfl
          cases hpair.2
      · exact List.cons_ne_nil _ _

namespace LineBuffer

variable {buffer : LineBuffer} {line column start stop : Nat} {text : Text}

/-! ## Counting characters -/

/-- An insertion adds the characters of the text that is put in, and takes none away. -/
theorem count_insert (h : buffer.InStep) (line column : Nat) (text : Text) (c : Char) :
    (buffer.insert line column text).2.serialize.count c =
      buffer.serialize.count c + text.normalize.count c := by
  rw [serialize_insert h, serialize_eq_cut h line column]
  simp only [List.count_append]
  omega

/-- A removal takes away the characters that it returns, and no others. -/
theorem count_removeRange (h : buffer.InStep) (line start stop : Nat) (c : Char) :
    (buffer.removeRange line start stop).2.serialize.count c +
      (buffer.removeRange line start stop).1.count c = buffer.serialize.count c := by
  obtain ⟨ahead, behind, -, hold, hnew⟩ := exists_serialize_removeRange h line start stop
  rw [hold, hnew]
  simp only [List.count_append]
  omega

/-- Buffers whose whole texts do not have a character equally often have different lines. -/
theorem lines_ne_of_count_ne {a b : LineBuffer}
    (h : a.serialize.count c ≠ b.serialize.count c) : a.lines ≠ b.lines := by
  intro hlines
  rw [serialize, serialize, hlines] at h
  exact h rfl

/-- An insertion of some text changes the lines, since it adds a character to the whole text. -/
theorem lines_insert_ne (h : buffer.InStep) (line column : Nat) (htext : text ≠ []) :
    (buffer.insert line column text).2.lines ≠ buffer.lines := by
  obtain ⟨c, hc⟩ := List.exists_mem_of_ne_nil _ (Text.normalize_ne_nil htext)
  have hpos := List.count_pos_iff.2 hc
  have hcount := count_insert h line column text c
  exact lines_ne_of_count_ne (c := c) (by omega)

/-- A removal of some text changes the lines, since a character is gone from the whole text. -/
theorem lines_removeRange_ne (h : buffer.InStep)
    (hremoved : (buffer.removeRange line start stop).1 ≠ []) :
    (buffer.removeRange line start stop).2.lines ≠ buffer.lines := by
  obtain ⟨c, hc⟩ := List.exists_mem_of_ne_nil _ hremoved
  have hpos := List.count_pos_iff.2 hc
  have hcount := count_removeRange h line start stop c
  exact lines_ne_of_count_ne (c := c) (by omega)

/-- Putting in a character that has not been taken out does not bring the old lines back. -/
theorem lines_insert_removeRange_ne (h : buffer.InStep) (column : Nat) (hc : c ∈ text)
    (hterminator : isTerminator c = false) (hkept : c ∉ (buffer.removeRange line start stop).1) :
    ((buffer.removeRange line start stop).2.insert line column text).2.lines ≠ buffer.lines := by
  have hpos := List.count_pos_iff.2 (Text.mem_normalize hc hterminator)
  have hnone := List.count_eq_zero.2 hkept
  have hremove := count_removeRange h line start stop c
  have hinsert := count_insert (inStep_removeRange h line start stop) line column text c
  exact lines_ne_of_count_ne (c := c) (by omega)

/-! ## What is removed -/

/-- A stretch with a boundary in it or at its end takes something out. -/
theorem removeRange_ne_nil (h : buffer.InStep)
    (hlt : (buffer.line (buffer.clampLine line)).floor start <
      (buffer.line (buffer.clampLine line)).floor stop) :
    (buffer.removeRange line start stop).1 ≠ [] := by
  obtain ⟨s, u, v, -, hs, hu, htext, -⟩ := exists_pieces_removeRange h line start stop
  rw [htext]
  rintro rfl
  rw [Text.size_nil] at hs hu
  omega

/-- What is taken out stands before the end of the stretch. -/
theorem mem_before_of_mem_removeRange (h : buffer.InStep)
    (hc : c ∈ (buffer.removeRange line start stop).1) :
    c ∈ (buffer.line (buffer.clampLine line)).before stop := by
  obtain ⟨s, u, v, hpieces, -, hu, htext, -⟩ := exists_pieces_removeRange h line start stop
  rw [htext] at hc
  have hbefore : (buffer.line (buffer.clampLine line)).before stop = s ++ u := by
    rw [← Text.before_floor, ← hu, hpieces, ← List.append_assoc, ← Text.size_append,
      Text.before_append_size]
  rw [hbefore]
  exact List.mem_append_right _ hc

/-! ## The number of lines -/

/-- Buffers of different lengths have different lines. -/
theorem lines_ne_of_length_ne {a b : LineBuffer} (h : a.length ≠ b.length) : a.lines ≠ b.lines :=
  fun hlines => h (congrArg List.length hlines)

/-- Putting in lines makes a buffer longer, even if the lines are all empty. -/
theorem length_lt_insertLinesAfter (buffer : LineBuffer) (line : Nat) {texts : List Text}
    (htexts : texts ≠ []) : buffer.length < (buffer.insertLinesAfter line texts).length := by
  have hlines := Text.length_le_length_flattenLines texts
  have hpos := List.length_pos_iff.2 htexts
  rw [length_insertLinesAfter]
  omega

/-- A split changes the lines wherever it is made, as there is one more of them. -/
theorem lines_splitLine_ne (buffer : LineBuffer) (line column : Nat) (lead : Text) :
    (buffer.splitLine line column lead).2.lines ≠ buffer.lines := by
  apply lines_ne_of_length_ne
  unfold splitLine
  have hlt := length_lt_insertLinesAfter (buffer.setLine (buffer.clampLine line)
    ((buffer.line (buffer.clampLine line)).before column)) (buffer.clampLine line)
    (List.cons_ne_nil (lead ++ (buffer.line (buffer.clampLine line)).after column) [])
  rw [length_setLine] at hlt
  exact Nat.ne_of_gt hlt

/-- A join changes the lines, as there is one less of them. -/
theorem lines_joinWithNext_ne {size : Nat} {joined : LineBuffer}
    (h : buffer.joinWithNext line = some (size, joined)) : joined.lines ≠ buffer.lines := by
  by_cases hlt : line + 1 < buffer.length
  · rw [joinWithNext_of_lt hlt] at h
    obtain ⟨-, rfl⟩ := Prod.mk.inj (Option.some.inj h)
    apply lines_ne_of_length_ne
    rw [length_setLine, length_eraseLine hlt]
    omega
  · rw [joinWithNext_of_not_lt hlt] at h
    cases h

end LineBuffer

end TextEditor
