import TextEditor.Proofs.Stream.Answers
import TextEditor.Proofs.Stream.Reader

/-!
# What a loader has still to bring

A loader of a byte reader that does not fail reads on as the reader does: each time it is asked for
some lines it takes them from the lines still unread, and it lets go of the reader together with the
last of them. A finished loader has nothing unread and may be asked all the same.

Main statements: `Unfailing.advances_appendMore` and `Unfailing.appendMore_eq` for further lines,
and `Unfailing.loadInitial_eq` for the first.
-/

namespace TextEditor

/-! ## Lines at the end of a buffer -/

namespace LineBuffer

/-- To put no lines at the end changes nothing. -/
theorem appendLines_nil (buffer : LineBuffer) : buffer.appendLines [] = (0, buffer) := by
  obtain ⟨lines, tokenLists, regionLists, highlighter⟩ := buffer
  simp [appendLines, insertLinesAfter, insertItems, Text.flattenLines, length]

/-- Lines put at the end stand there, cut at their terminators. -/
theorem lines_appendLines (buffer : LineBuffer) (texts : List Text) :
    (buffer.appendLines texts).2.lines = buffer.lines ++ Text.flattenLines texts := by
  have hend : buffer.lines.length ≤ buffer.clampLine (buffer.length - 1) + 1 := by
    unfold clampLine length
    omega
  show insertItems buffer.lines (buffer.clampLine (buffer.length - 1) + 1) _ = _
  rw [insertItems, List.take_of_length_le hend, List.drop_eq_nil_of_le hend, List.append_nil,
    Text.flattenLines_eq_self fun _ => Text.noTerminator_of_mem_flattenLines]

end LineBuffer

/-- A byte reader that does not fail stays one. -/
theorem LineSource.unfailing_after {reader : ByteReader} (h : reader.Unfailing)
    (requests : List Nat) :
    ∃ rest : ByteReader, (LineSource.reader reader).after requests = .reader rest ∧
      rest.Unfailing := by
  induction requests generalizing reader with
  | nil => exact ⟨reader, rfl, h⟩
  | cons n requests ih =>
      obtain ⟨rest, hread, hrest, -⟩ := ByteReader.readLines_eq h n
      have hafter : ((LineSource.reader reader).read n).2 = .reader rest := by
        rw [LineSource.read, hread]
      rw [LineSource.after, hafter]
      exact ih hrest

namespace Loader

variable {loader next : Loader} {buffer : LineBuffer} {n : Nat}

/-- A loader that is finished, or reads from a byte reader that does not fail. -/
def Unfailing (loader : Loader) : Prop :=
  ∀ source, loader.source = some source → ∃ reader, source = .reader reader ∧ reader.Unfailing

/-- The lines that a loader has still to bring, if it reads from a byte reader. -/
def unread (loader : Loader) : List Text :=
  match loader.source with
  | some (.reader reader) => reader.lines
  | _ => []

/-- A loader of a reader that does not fail does not fail either. -/
theorem unfailing_new {reader : ByteReader} (h : reader.Unfailing) :
    (new (.reader reader)).Unfailing := by
  intro source hsource
  exact ⟨reader, (Option.some.inj hsource).symm, h⟩

/-- A finished loader has nothing unread. -/
theorem unread_of_isFinished (h : loader.isFinished = true) : loader.unread = [] := by
  rw [unread, Option.isNone_iff_eq_none.1 h]

/-- What a loader becomes by bringing `n` lines. -/
structure Advances (loader next : Loader) (n : Nat) : Prop where
  unfailing : next.Unfailing
  unread : next.unread = loader.unread.drop n
  finished : next.isFinished = decide (loader.unread.length ≤ n)

/-- A finished loader is left as it is. -/
theorem Unfailing.advances_of_isFinished (h : loader.Unfailing)
    (hfinished : loader.isFinished = true) (n : Nat) : loader.Advances loader n where
  unfailing := h
  unread := by rw [unread_of_isFinished hfinished, List.drop_nil]
  finished := by
    rw [hfinished, unread_of_isFinished hfinished]
    exact (decide_eq_true (Nat.zero_le n)).symm

/-- A loader that goes on answers with its next lines. -/
theorem Unfailing.read_eq (h : loader.Unfailing) (hgoing : loader.isFinished = false) (n : Nat) :
    ∃ next records, loader.read n =
        (.ok (some ⟨loader.unread.take n, decide (loader.unread.length ≤ n)⟩), next, records) ∧
      loader.Advances next n := by
  obtain ⟨source, hsource⟩ := Option.isSome_iff_exists.1 (Option.isNone_eq_false_iff.1 hgoing)
  obtain ⟨reader, rfl, hreader⟩ := h source hsource
  have hunread : loader.unread = reader.lines := by rw [unread, hsource]
  obtain ⟨rest, hread, hrest, hdrop⟩ := ByteReader.readLines_eq hreader n
  rw [hunread]
  refine ⟨_, _, by simp only [read, hsource, LineSource.read, hread]; rfl, ?_, ?_, ?_⟩
  · intro source hkept
    simp only at hkept
    split at hkept
    · cases hkept
    · exact ⟨rest, (Option.some.inj hkept).symm, hrest⟩
  · rw [hunread, unread]
    by_cases hend : reader.lines.length ≤ n
    · simp [hend, List.drop_eq_nil_of_le hend]
    · simp [hend, hdrop]
  · rw [hunread, isFinished]
    by_cases hend : reader.lines.length ≤ n
    · simp [hend]
    · simp [hend]

/-! ## Into a buffer -/

/-- Reading lines into a buffer takes them from those that are unread. -/
theorem Unfailing.advances_appendMore (h : loader.Unfailing) (buffer : LineBuffer) (n : Nat) :
    loader.Advances (loader.appendMore buffer n).loader n := by
  cases hfinished : loader.isFinished with
  | true =>
      have hsame : (loader.appendMore buffer n).loader = loader := by
        rw [appendMore, read, Option.isNone_iff_eq_none.1 hfinished]
      rw [hsame]
      exact h.advances_of_isFinished hfinished n
  | false =>
      obtain ⟨next, records, hread, hnext⟩ := h.read_eq hfinished n
      rw [appendMore, hread]
      exact hnext

/-- The lines that a loader brings go to the end of the buffer, none if it is finished. -/
theorem Unfailing.appendMore_eq (h : loader.Unfailing) (buffer : LineBuffer) (n : Nat) :
    (loader.appendMore buffer n).result = .ok (buffer.appendLines (loader.unread.take n)).1 ∧
      (loader.appendMore buffer n).buffer = (buffer.appendLines (loader.unread.take n)).2 := by
  cases hfinished : loader.isFinished with
  | true =>
      rw [unread_of_isFinished hfinished, List.take_nil, LineBuffer.appendLines_nil, appendMore,
        read, Option.isNone_iff_eq_none.1 hfinished]
      exact ⟨rfl, rfl⟩
  | false =>
      obtain ⟨next, records, hread, -⟩ := h.read_eq hfinished n
      rw [appendMore, hread]
      exact ⟨rfl, rfl⟩

/-- A loader that has been asked for lines and brought none has none to bring. -/
theorem Unfailing.unread_eq_nil (h : loader.Unfailing) (hn : 1 ≤ n)
    (hresult : (loader.appendMore buffer n).result = .ok 0) : loader.unread = [] := by
  rw [(h.appendMore_eq buffer n).1] at hresult
  have htake := (appendLines_eq_zero_iff _ _).1 (Except.ok.inj hresult)
  rcases List.take_eq_nil_iff.1 htake with hzero | hnil
  · omega
  · exact hnil

/-- The first lines that a loader brings take the place of what the buffer held. -/
theorem Unfailing.loadInitial_eq (h : loader.Unfailing) (hgoing : loader.isFinished = false)
    (buffer : LineBuffer) (n : Nat) :
    (loader.loadInitial buffer n).result = .ok (loader.unread.take n).length ∧
      (loader.loadInitial buffer n).buffer = buffer.replaceLines (loader.unread.take n) ∧
      loader.Advances (loader.loadInitial buffer n).loader n := by
  obtain ⟨next, records, hread, hnext⟩ := h.read_eq hgoing n
  rw [loadInitial, hread]
  exact ⟨rfl, rfl, hnext⟩

end Loader

end TextEditor
