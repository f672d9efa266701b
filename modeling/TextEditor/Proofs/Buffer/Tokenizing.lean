import TextEditor.Proofs.Buffer.RoundTrip
import TextEditor.Proofs.Highlighter.Embedding
import TextEditor.Proofs.Text.Contents

/-!
# Tokenizing a text and filling a buffer with it

A grammar tokenizes a text line by line, and a buffer that is given the text keeps the tokens of its
lines. The two cut the text by different rules: the one at line feeds, taking one carriage return
before each along, with no line behind the last; the other at every terminator, with a line behind
the last. Where carriage returns stand before line feeds only, they find the same lines but for the
one behind the last line feed.

Main statements: `ReturnsPaired.splitLines_eq`, the lines found by the two rules, and
`tokenizeText_eq`.
-/

namespace TextEditor

namespace Text

variable {s t : Text}

/-- Each carriage return of a text is directly followed by a line feed. -/
def ReturnsPaired (t : Text) : Prop :=
  ∀ i < t.length, t[i]? = some '\r' → t[i + 1]? = some '\n'

instance (t : Text) : Decidable t.ReturnsPaired :=
  inferInstanceAs (Decidable (∀ i < t.length, t[i]? = some '\r' → t[i + 1]? = some '\n'))

/-- The last line of a text is empty: there is nothing in it, or nothing behind its last line
feed. -/
def OpensLine (t : Text) : Prop := t = [] ∨ t.getLast? = some '\n'

instance (t : Text) : Decidable t.OpensLine :=
  inferInstanceAs (Decidable (t = [] ∨ t.getLast? = some '\n'))

namespace ReturnsPaired

/-- What stands behind a carriage return begins with a line feed. -/
theorem head? (h : (s ++ '\r' :: t).ReturnsPaired) : t.head? = some '\n' := by
  have hfeed := h s.length (by simp) (by simp)
  rwa [List.getElem?_append_right (Nat.le_add_right _ 1), Nat.add_sub_cancel_left,
    List.getElem?_cons_succ, ← List.head?_eq_getElem?] at hfeed

/-- The carriage returns of what comes last are paired as before. -/
theorem of_append (h : (s ++ t).ReturnsPaired) : t.ReturnsPaired := by
  intro i hi hreturn
  have hat (j : Nat) : (s ++ t)[s.length + j]? = t[j]? := by
    rw [List.getElem?_append_right (Nat.le_add_right _ _), Nat.add_sub_cancel_left]
  have hfeed := h (s.length + i) (by rw [List.length_append]; omega) ((hat i).trans hreturn)
  rwa [Nat.add_assoc, hat] at hfeed

/-- Before the first line feed there is no carriage return but directly before it. -/
theorem eq_nil_of_feedless {front back : Text} (h : (front ++ '\r' :: back ++ t).ReturnsPaired)
    (hfeed : '\n' ∉ front ++ '\r' :: back) : back = [] := by
  rw [List.append_assoc, List.cons_append] at h
  cases back with
  | nil => rfl
  | cons c back =>
      have hc : c = '\n' := Option.some.inj h.head?
      exact absurd (by simp [hc]) hfeed

/-- A text without line feeds has no carriage returns either. -/
theorem return_not_mem (h : t.ReturnsPaired) (hfeed : '\n' ∉ t) : '\r' ∉ t := by
  intro hreturn
  obtain ⟨front, back, rfl⟩ := List.append_of_mem hreturn
  have hhead := h.head?
  exact hfeed (List.mem_append_right _ (List.mem_cons_of_mem _ (List.mem_of_mem_head? hhead)))

/-- What is left of a line without the carriage return that ends it holds no other. -/
theorem return_not_mem_dropFinalReturn (h : (s ++ '\n' :: t).ReturnsPaired) (hs : '\n' ∉ s) :
    '\r' ∉ dropFinalReturn s := by
  intro hreturn
  by_cases hlast : s.getLast? = some '\r'
  · obtain ⟨kept, rfl⟩ := List.getLast?_eq_some_iff.1 hlast
    rw [dropFinalReturn_concat] at hreturn
    obtain ⟨front, back, rfl⟩ := List.append_of_mem hreturn
    have hsame : front ++ '\r' :: back ++ ['\r'] = front ++ '\r' :: (back ++ ['\r']) :=
      List.append_assoc ..
    rw [hsame] at h hs
    exact absurd (h.eq_nil_of_feedless hs) (List.append_ne_nil_of_right_ne_nil _ (by simp))
  · rw [dropFinalReturn_of_ne hlast] at hreturn
    obtain ⟨front, back, rfl⟩ := List.append_of_mem hreturn
    rw [h.eq_nil_of_feedless hs, List.getLast?_concat] at hlast
    exact hlast rfl

/-- The lines of a text with paired carriage returns: those between line feeds, and an empty one
behind the last. -/
theorem splitLines_eq (h : t.ReturnsPaired) :
    splitLines t = contentLines t ++ if t.OpensLine then [[]] else [] := by
  induction t using feedInduction with
  | whole t hfeed =>
      by_cases hnil : t = []
      · rw [hnil]
        rfl
      · have hopen : ¬ t.OpensLine := by
          rintro (hempty | hlast)
          · exact hnil hempty
          · exact hfeed (List.mem_of_getLast? hlast)
        have hterm := hasTerminator_eq_false_iff.2 ⟨hfeed, h.return_not_mem hfeed⟩
        rw [if_neg hopen, contentLines_of_not_mem hfeed hnil, splitLines_of_not_hasTerminator hterm]
        rfl
  | cut s rest hs ih =>
      have hkept : '\n' ∉ dropFinalReturn s := by
        unfold dropFinalReturn
        split
        · exact fun hmem => hs (List.dropLast_subset _ hmem)
        · exact hs
      have hterm := hasTerminator_eq_false_iff.2 ⟨hkept, h.return_not_mem_dropFinalReturn hs⟩
      have hopen : (s ++ '\n' :: rest).OpensLine ↔ rest.OpensLine := by
        by_cases hrest : rest = []
        · simp [OpensLine, hrest]
        · simp [OpensLine, hrest, List.getLast?_append, List.getLast?_cons,
            List.getLast?_eq_some_getLast hrest]
      have hbehind : rest.ReturnsPaired := by
        rw [← List.singleton_append, ← List.append_assoc] at h
        exact h.of_append
      rw [splitLines_append_feed, splitLines_of_not_hasTerminator hterm,
        contentLines_append_feed hs, ih hbehind]
      simp only [hopen]
      rfl

end ReturnsPaired

end Text

namespace LineBuffer

variable {text : Text}

/-- A buffer whose highlighter embeds nothing keeps the tokens that the grammar finds in the lines
of its text. -/
theorem tokenLists_ofText_alone (grammar : Grammar) (text : Text) :
    (ofText text (.alone grammar)).tokenLists = (Text.splitLines text).map grammar.tokenize := by
  have hstep : (ofText text (.alone grammar)).InStep := (Reachable.ofText text _).inStep
  rw [hstep.tokenLists_eq, lines_ofText]
  exact List.map_congr_left fun line _ => Highlighter.highlight_alone grammar line

/-- Tokenizing a text whose carriage returns are paired gives the tokens that a buffer of the text
in the same language keeps for its lines, except for the last line where that is empty because there
is no text or nothing behind its last line feed. -/
theorem tokenizeText_eq (language : Language) (h : text.ReturnsPaired) :
    let buffer := ofText text (.basic language)
    (text.OpensLine → buffer.lines.getLast? = some [] ∧
      (Grammar.builtin language).tokenizeText text = buffer.tokenLists.dropLast) ∧
    (¬ text.OpensLine →
      (Grammar.builtin language).tokenizeText text = buffer.tokenLists) := by
  intro buffer
  have htokens : buffer.tokenLists =
      (Text.splitLines text).map (Grammar.builtin language).tokenize :=
    tokenLists_ofText_alone (.builtin language) text
  have hlines : buffer.lines = Text.splitLines text := lines_ofText text _
  have hsplit := h.splitLines_eq
  constructor
  · intro hopen
    rw [if_pos hopen] at hsplit
    constructor
    · rw [hlines, hsplit, List.getLast?_concat]
    · rw [htokens, hsplit, List.map_append, List.map_singleton, List.dropLast_concat]
      rfl
  · intro hclosed
    rw [if_neg hclosed, List.append_nil] at hsplit
    rw [htokens, hsplit]
    rfl

/-- Three lines, of which one is empty and two end with a pair: the buffer has the empty line behind
the last line feed besides. -/
theorem tokenizeText_eq_pairs :
    let text : Text := "[\r\n\r\n1]\n".toList
    let buffer := ofText text (.basic .json)
    text.ReturnsPaired ∧ text.OpensLine ∧
      buffer.lines = ["[".toList, [], "1]".toList, []] ∧
      ((Grammar.builtin .json).tokenizeText text).map List.length = [1, 0, 2] ∧
      (Grammar.builtin .json).tokenizeText text = buffer.tokenLists.dropLast := by
  intro text buffer
  have hpaired : text.ReturnsPaired := by decide
  have hopen : text.OpensLine := by decide
  exact ⟨hpaired, hopen, by decide +kernel, by decide +kernel,
    ((tokenizeText_eq .json hpaired).1 hopen).2⟩

end LineBuffer

end TextEditor
