import TextEditor.Proofs.Text.Contents
import TextEditor.Stream.Source

/-!
# The lines of a byte reader

A reader that does not fail gives the lines of its content, whatever blocks the content comes in and
however many lines it is asked for at a time.

Main statements: `readLine_eq`, for one line, `lines_of_firstLine`, the same split of the content
after decoding, and `readLines_eq`, for a batch.
-/

namespace TextEditor.ByteReader

variable {reader : ByteReader}

/-- The bytes that a reader has still to give. -/
def content (reader : ByteReader) : List UInt8 := reader.buffered ++ reader.blocks.flatten

/-- The lines that a reader has still to give. -/
def lines (reader : ByteReader) : List Text := (Text.ofBytes reader.content).contentLines

/-- A reader whose blocks all hold bytes and that comes to its end without failing. -/
structure Unfailing (reader : ByteReader) : Prop where
  failure : reader.failure = none
  blocks : ∀ block ∈ reader.blocks, block ≠ []

/-- The first line of some bytes: up to the first line feed, or all of them if there is none. -/
inductive FirstLine : List UInt8 → List UInt8 → List UInt8 → Prop where
  | ended {line rest : List UInt8} (h : 10 ∉ line) :
      FirstLine (line ++ 10 :: rest) (line ++ [10]) rest
  | last {line : List UInt8} (h : 10 ∉ line) : FirstLine line line []

/-! ## One line -/

/-- Bytes are cut after the first line feed, if there is one. -/
theorem cutAfterFeed?_cases (bytes : List UInt8) :
    (cutAfterFeed? bytes = none ∧ 10 ∉ bytes) ∨
      ∃ line rest, bytes = line ++ 10 :: rest ∧ 10 ∉ line ∧
        cutAfterFeed? bytes = some (line ++ [10], rest) := by
  induction bytes with
  | nil => exact .inl ⟨rfl, List.not_mem_nil⟩
  | cons b bytes ih =>
      by_cases hb : b = 10
      · subst hb
        exact .inr ⟨[], bytes, rfl, List.not_mem_nil, rfl⟩
      · rw [cutAfterFeed?, if_neg hb]
        rcases ih with ⟨hcut, hmem⟩ | ⟨line, rest, rfl, hmem, hcut⟩
        · refine .inl ⟨by rw [hcut]; rfl, ?_⟩
          rw [List.mem_cons, not_or]
          exact ⟨Ne.symm hb, hmem⟩
        · refine .inr ⟨b :: line, rest, rfl, ?_, by rw [hcut]; rfl⟩
          rw [List.mem_cons, not_or]
          exact ⟨Ne.symm hb, hmem⟩

/-- The bytes of a line are collected across blocks until a line feed or the end. -/
theorem lineFrom_eq {begun buffered : List UInt8} {blocks : List (List UInt8)}
    (hblocks : ∀ block ∈ blocks, block ≠ []) (hbegun : 10 ∉ begun) :
    ∃ line rest, lineFrom none begun buffered blocks = .ok (line, rest) ∧ rest.Unfailing ∧
      FirstLine (begun ++ (buffered ++ blocks.flatten)) line rest.content := by
  induction blocks generalizing begun buffered with
  | nil =>
      rcases cutAfterFeed?_cases buffered with ⟨hcut, hmem⟩ | ⟨line, rest, rfl, hmem, hcut⟩
      · refine ⟨begun ++ buffered, ⟨[], [], none⟩, by simp only [lineFrom, hcut], ⟨rfl, hblocks⟩,
          ?_⟩
        rw [List.flatten_nil, List.append_nil]
        exact .last (by rw [List.mem_append, not_or]; exact ⟨hbegun, hmem⟩)
      · refine ⟨begun ++ (line ++ [10]), ⟨rest, [], none⟩, by simp only [lineFrom, hcut],
          ⟨rfl, hblocks⟩, ?_⟩
        have hfirst : FirstLine ((begun ++ line) ++ 10 :: rest) ((begun ++ line) ++ [10]) rest :=
          .ended (by rw [List.mem_append, not_or]; exact ⟨hbegun, hmem⟩)
        simpa [content] using hfirst
  | cons block blocks ih =>
      rcases cutAfterFeed?_cases buffered with ⟨hcut, hmem⟩ | ⟨line, rest, rfl, hmem, hcut⟩
      · obtain ⟨hblock, htail⟩ := List.forall_mem_cons.1 hblocks
        have hnonempty : block.isEmpty = false := List.isEmpty_eq_false_iff.2 hblock
        have hjoined : 10 ∉ begun ++ buffered := by
          rw [List.mem_append, not_or]
          exact ⟨hbegun, hmem⟩
        obtain ⟨line, rest, heq, hrest, hfirst⟩ := @ih (begun ++ buffered) block htail hjoined
        refine ⟨line, rest, ?_, hrest, ?_⟩
        · rw [lineFrom, hcut]
          simp only [hnonempty, Bool.false_eq_true, if_false]
          exact heq
        · rw [List.flatten_cons, ← List.append_assoc begun]
          exact hfirst
      · refine ⟨begun ++ (line ++ [10]), ⟨rest, block :: blocks, none⟩,
          by simp only [lineFrom, hcut], ⟨rfl, hblocks⟩, ?_⟩
        have hfirst : FirstLine ((begun ++ line) ++ 10 :: (rest ++ (block :: blocks).flatten))
            ((begun ++ line) ++ [10]) (rest ++ (block :: blocks).flatten) :=
          .ended (by rw [List.mem_append, not_or]; exact ⟨hbegun, hmem⟩)
        simpa [content] using hfirst

/-- A reader that does not fail gives the first line of its content and keeps the rest. -/
theorem readLine_eq (h : reader.Unfailing) :
    ∃ line rest, reader.readLine = .ok (line, rest) ∧ rest.Unfailing ∧
      FirstLine reader.content line rest.content := by
  unfold readLine
  rw [h.failure]
  exact lineFrom_eq h.blocks List.not_mem_nil

/-! ## Decoded lines -/

/-- A line feed is a mark that bytes show. -/
theorem isAsciiMark_feed : isAsciiMark '\n' := by
  unfold isAsciiMark
  decide

/-- A carriage return is a mark that bytes show. -/
theorem isAsciiMark_return : isAsciiMark '\r' := by
  unfold isAsciiMark
  decide

/-- Taking the terminator off the bytes of a line takes it off the decoded line. -/
theorem ofBytes_dropTerminator (line : List UInt8) :
    Text.ofBytes (dropTerminator (line ++ [10])) = (Text.ofBytes line).dropFinalReturn := by
  unfold dropTerminator
  rw [List.getLast?_concat, if_pos rfl, List.dropLast_concat]
  by_cases hreturn : line.getLast? = some 13
  · obtain ⟨front, rfl⟩ := List.getLast?_eq_some_iff.1 hreturn
    simp only [hreturn, if_true, List.dropLast_concat]
    rw [Text.ofBytes_append_cons front [] (by decide)]
    exact (Text.dropFinalReturn_concat _).symm
  · simp only [hreturn, if_false]
    exact (Text.dropFinalReturn_of_ne fun hlast =>
      hreturn (Text.getLast?_of_getLast?_ofBytes isAsciiMark_return rfl hlast)).symm

/-- The lines of some bytes are their first line, decoded, and the lines of the rest. -/
theorem lines_of_firstLine {bytes line rest : List UInt8} (h : FirstLine bytes line rest)
    (hne : line ≠ []) :
    (Text.ofBytes bytes).contentLines =
      Text.ofBytes (dropTerminator line) :: (Text.ofBytes rest).contentLines := by
  cases h with
  | ended hmem =>
      rw [Text.ofBytes_append_cons _ _ (by decide), ofBytes_dropTerminator]
      exact Text.contentLines_append_feed (Text.not_mem_ofBytes isAsciiMark_feed rfl hmem) _
  | last hmem =>
      have hlast : bytes.getLast? ≠ some 10 := fun hlast => hmem (List.mem_of_getLast? hlast)
      rw [dropTerminator, if_neg hlast]
      exact Text.contentLines_of_not_mem (Text.not_mem_ofBytes isAsciiMark_feed rfl hmem)
        (mt Text.ofBytes_eq_nil_iff.1 hne)

/-- No bytes have an empty first line but none. -/
theorem FirstLine.eq_nil {bytes line rest : List UInt8} (h : FirstLine bytes line rest)
    (hline : line = []) : bytes = [] ∧ rest = [] := by
  cases h with
  | ended _ => simp at hline
  | last _ => exact ⟨hline, rfl⟩

/-! ## A batch -/

/-- Filling the buffer of a reader that does not fail leaves its content, and nothing is buffered
only at the end. -/
theorem fill_eq (h : reader.Unfailing) :
    ∃ filled, reader.fill = .ok filled ∧ filled.Unfailing ∧ filled.content = reader.content ∧
      filled.buffered.isEmpty = reader.content.isEmpty := by
  obtain ⟨buffered, blocks, failure⟩ := reader
  obtain ⟨rfl, hblocks⟩ : failure = none ∧ _ := ⟨h.failure, h.blocks⟩
  cases buffered with
  | cons b bytes => exact ⟨_, rfl, h, rfl, rfl⟩
  | nil =>
      cases blocks with
      | nil => exact ⟨_, rfl, h, rfl, rfl⟩
      | cons block blocks =>
          obtain ⟨hblock, htail⟩ := List.forall_mem_cons.1 hblocks
          refine ⟨⟨block, blocks, none⟩, rfl, ⟨rfl, htail⟩, rfl, ?_⟩
          cases block with
          | nil => exact absurd rfl hblock
          | cons b block => rfl

/-- A reader has no lines left exactly when it has no bytes left. -/
theorem lines_eq_nil_iff : reader.lines = [] ↔ reader.content = [] := by
  constructor
  · intro h
    refine Classical.byContradiction fun hne => ?_
    have hflat := Text.flattenLines_contentLines (mt Text.ofBytes_eq_nil_iff.1 hne)
    rw [show (Text.ofBytes reader.content).contentLines = [] from h] at hflat
    exact Text.splitLines_ne_nil _ hflat.symm
  · intro h
    rw [lines, h]
    rfl

/-- A reader that does not fail gives its next lines, as many as it is asked for, and says with them
whether they are the last. -/
theorem readLines_eq (h : reader.Unfailing) (n : Nat) :
    ∃ rest, reader.readLines n =
        .ok (⟨reader.lines.take n, decide (reader.lines.length ≤ n)⟩, rest) ∧
      rest.Unfailing ∧ rest.lines = reader.lines.drop n := by
  induction n generalizing reader with
  | zero =>
      obtain ⟨filled, hfill, hfilled, hcontent, hempty⟩ := fill_eq h
      refine ⟨filled, ?_, hfilled, by rw [lines, hcontent]; rfl⟩
      have hatEnd : reader.content.isEmpty = decide (reader.lines.length ≤ 0) := by
        rw [Bool.eq_iff_iff, List.isEmpty_iff, decide_eq_true_eq, Nat.le_zero,
          List.length_eq_zero_iff, lines_eq_nil_iff]
      simp only [readLines, hfill, bind, Except.bind, hempty, hatEnd, List.take_zero]
      rfl
  | succ n ih =>
      obtain ⟨line, next, hline, hnext, hfirst⟩ := readLine_eq h
      by_cases hnil : line = []
      · obtain ⟨hcontent, hrest⟩ := hfirst.eq_nil hnil
        have hlines : reader.lines = [] := lines_eq_nil_iff.2 hcontent
        refine ⟨next, ?_, hnext, ?_⟩
        · simp only [readLines, hline, bind, Except.bind, hlines, hnil]
          rfl
        · rw [hlines, lines, hrest]
          rfl
      · obtain ⟨rest, hread, hrest, hdrop⟩ := ih hnext
        have hlines : reader.lines = Text.ofBytes (dropTerminator line) :: next.lines :=
          lines_of_firstLine hfirst hnil
        have hatEnd : decide (next.lines.length ≤ n) = decide (reader.lines.length ≤ n + 1) := by
          rw [hlines, List.length_cons, decide_eq_decide]
          omega
        refine ⟨rest, ?_, hrest, by rw [hdrop, hlines, List.drop_succ_cons]⟩
        rw [← hatEnd, hlines, List.take_succ_cons]
        simp only [readLines, hline, bind, Except.bind, List.isEmpty_eq_false_iff.2 hnil, hread]
        rfl

end TextEditor.ByteReader
