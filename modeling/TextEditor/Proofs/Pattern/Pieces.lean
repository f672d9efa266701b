import TextEditor.Proofs.Pattern.Spans

/-!
# Pieces of a line

A span is a piece of a line when it holds at least one byte of it and cuts no character. Two pieces
are apart when they share no byte; of pieces that are apart, one ends before the other begins, so
that ordering them by their starts orders them altogether.

Main statements: `overlaps_eq_false_iff`, `pairwise_precedes_mergeSort`, and `piece_shift` for the
pieces of a text that stands inside a line.
-/

namespace TextEditor

variable {s t : Span} {line : Text}

namespace Span

/-- A span holds a byte of a line, lies inside it and cuts no character. -/
structure Piece (span : Span) (line : Text) : Prop extends span.Cuts line where
  start_lt_stop : span.start < span.stop
  stop_le_size : span.stop ≤ line.size

/-- Two spans share no byte. -/
def Apart (s t : Span) : Prop := s.stop ≤ t.start ∨ t.stop ≤ s.start

/-- A span ends before another begins, or right there. -/
def Precedes (s t : Span) : Prop := s.stop ≤ t.start

/-- Which of two spans that are apart is named first does not matter. -/
theorem Apart.symm (h : s.Apart t) : t.Apart s := Or.symm h

/-- A span that ends before another begins is apart from it. -/
theorem Precedes.apart (h : s.Precedes t) : s.Apart t := .inl h

/-- Spans are apart exactly if they do not overlap. -/
theorem overlaps_eq_false_iff : s.overlaps t = false ↔ s.Apart t := by
  simp only [overlaps, Apart, Bool.and_eq_false_iff, decide_eq_false_iff_not, Nat.not_lt]
  exact or_comm

/-- A span is not empty just when it ends behind its start. -/
theorem isEmpty_eq_false_iff : s.isEmpty = false ↔ s.start < s.stop := by
  simp [isEmpty]

/-- A span contains another that neither begins before it nor ends behind it. -/
theorem contains_iff : s.contains t = true ↔ s.start ≤ t.start ∧ t.stop ≤ s.stop := by
  simp [contains]

/-- Of two pieces that are apart, the one that starts first comes before the other. -/
theorem Apart.precedes (h : s.Apart t) (ht : t.start < t.stop) (hle : s.start ≤ t.start) :
    s.Precedes t := by
  rcases h with h | h
  · exact h
  · omega

/-- A span apart from another is apart from all that lies inside that one. -/
theorem Apart.of_contains {u : Span} (h : s.Apart t) (ht : t.contains u = true) : s.Apart u := by
  rw [contains_iff] at ht
  rcases h with h | h
  · exact .inl (Nat.le_trans h ht.1)
  · exact .inr (Nat.le_trans ht.2 h)

/-- Spans stay apart when both are shifted. -/
theorem Apart.shift (h : s.Apart t) (offset : Nat) : (s.shift offset).Apart (t.shift offset) := by
  show s.stop + offset ≤ t.start + offset ∨ t.stop + offset ≤ s.start + offset
  rcases h with h | h
  · exact .inl (Nat.add_le_add_right h offset)
  · exact .inr (Nat.add_le_add_right h offset)

/-- A span between boundaries that is not empty is a piece. -/
theorem Cuts.piece (h : s.Cuts line) (hlt : s.start < s.stop) : s.Piece line :=
  { h with
    start_lt_stop := hlt
    stop_le_size := Text.le_size_of_isBoundary h.stop_boundary }

/-- What a span between boundaries cuts out is the text between its ends. -/
theorem Cuts.text?_eq (h : s.Cuts line) : s.text? line = some (line.between s.start s.stop) := by
  rw [text?, Text.slice?, h.start_boundary, h.stop_boundary]
  simp [h.start_le_stop]

/-- A text that a span cuts out stands in the line with something before and after it. -/
theorem exists_of_text? {text : Text} (h : s.text? line = some text) :
    ∃ before after, line = before ++ (text ++ after) ∧
      s = ⟨before.size, before.size + text.size⟩ := by
  unfold text? Text.slice? at h
  split at h
  · next hguard =>
      simp only [Bool.and_eq_true, decide_eq_true_eq] at hguard
      obtain ⟨⟨hle, hstart⟩, hstop⟩ := hguard
      obtain ⟨before, text', after, rfl, hbefore, htext⟩ := Text.exists_pieces hle hstart hstop
      obtain ⟨start, stop⟩ := s
      obtain rfl : before.size = start := hbefore
      obtain rfl : before.size + text'.size = stop := htext
      rw [Text.between_append_append] at h
      obtain rfl := Option.some.inj h
      exact ⟨before, after, rfl, rfl⟩
  · cases h

/-- A boundary of a text that stands inside a line is a boundary of the line. -/
theorem isBoundary_shift {before text after : Text} {n : Nat} (h : text.isBoundary n = true) :
    (before ++ (text ++ after)).isBoundary (n + before.size) = true := by
  obtain ⟨u, v, rfl, rfl⟩ := Text.isBoundary_iff.1 h
  refine Text.isBoundary_iff.2 ⟨before ++ u, v ++ after, by simp, ?_⟩
  rw [Text.size_append, Nat.add_comm]

/-- The pieces of a text that a span cuts out, moved to where it stands, are pieces of the line
inside that span. -/
theorem piece_shift {inner : Span} {text : Text} (htext : s.text? line = some text)
    (h : inner.Piece text) :
    (inner.shift s.start).Piece line ∧ s.contains (inner.shift s.start) = true := by
  obtain ⟨before, after, rfl, rfl⟩ := exists_of_text? htext
  have hlt := h.start_lt_stop
  have hle := h.stop_le_size
  refine ⟨Cuts.piece ⟨?_, isBoundary_shift h.start_boundary, isBoundary_shift h.stop_boundary⟩ ?_,
    ?_⟩
  · exact Nat.add_le_add_right h.start_le_stop _
  · exact Nat.add_lt_add_right hlt _
  · rw [contains_iff]
    show before.size ≤ inner.start + before.size ∧
      inner.stop + before.size ≤ before.size + text.size
    omega

end Span

/-- Things with spans that are not empty and pairwise apart come one after the other when they are
sorted by start. -/
theorem pairwise_precedes_mergeSort {α : Type} (span : α → Span) {items : List α}
    (hpieces : ∀ item ∈ items, (span item).start < (span item).stop)
    (hapart : items.Pairwise fun a b => (span a).Apart (span b)) :
    (items.mergeSort fun a b => (span a).start ≤ (span b).start).Pairwise
      fun a b => (span a).Precedes (span b) := by
  have hperm := List.mergeSort_perm items fun a b => (span a).start ≤ (span b).start
  have hsorted : (items.mergeSort fun a b => (span a).start ≤ (span b).start).Pairwise
      fun a b => decide ((span a).start ≤ (span b).start) = true := by
    apply List.pairwise_mergeSort
    · intro a b c hab hbc
      simp only [decide_eq_true_eq] at hab hbc ⊢
      omega
    · intro a b
      simp only [Bool.or_eq_true, decide_eq_true_eq]
      omega
  have hapart := (hperm.pairwise_iff Span.Apart.symm).2 hapart
  refine (hapart.and hsorted).imp_of_mem ?_
  intro a b _ hb hab
  exact hab.1.precedes (hpieces b (hperm.mem_iff.1 hb)) (of_decide_eq_true hab.2)

end TextEditor
