import TextEditor.Proofs.Buffer.Agreeing
import TextEditor.Proofs.Stream.Filling

/-!
# Counting lines

Three counts are kept while a buffer is filled. The first request tells how many lines have been
read and each further one how many the buffer has gained, the loader keeps the number of all that
have been read, and the buffer has as many lines as it holds. A line that has been read makes
several lines of the buffer if there is a carriage return in it; so the counts agree just as long as
no such line comes.

Main statements: `linesLoaded_appendAll`, `counted_appendAll` and `length_flattenLines_eq_iff`, and
from them `counts_agree_iff`.
-/

namespace TextEditor

/-! ## How many lines texts make -/

namespace Text

variable {t line : Text} {texts : List Text}

/-- Texts make as many lines as there are of them just if none of them has to be cut. -/
theorem length_flattenLines_eq_iff :
    (flattenLines texts).length = texts.length ↔ ∀ text ∈ texts, hasTerminator text = false := by
  induction texts with
  | nil => exact ⟨fun _ _ hmem => absurd hmem List.not_mem_nil, fun _ => rfl⟩
  | cons text texts ih =>
      have hrest := length_le_length_flattenLines texts
      have hsum : (flattenLines (text :: texts)).length =
          (splitLines text).length + (flattenLines texts).length := List.length_append
      rw [hsum, List.length_cons, List.forall_mem_cons, ← ih]
      cases hcut : hasTerminator text with
      | true =>
          have hmore := two_le_length_splitLines hcut
          constructor
          · intro hlength
            omega
          · exact fun hnone => absurd hnone.1 nofun
      | false =>
          rw [splitLines_of_not_hasTerminator hcut, List.length_singleton]
          constructor
          · exact fun hlength => ⟨rfl, by omega⟩
          · rintro ⟨-, hlength⟩
            omega

/-- A line that a content is read in holds no line feed. -/
theorem not_mem_of_mem_contentLines (h : line ∈ contentLines t) : '\n' ∉ line := by
  have hpiece {piece : Text} (hpiece : piece ∈ splitAtFeeds t) : '\n' ∉ piece := fun hfeed =>
    (mem_of_mem_splitAtFeeds hpiece hfeed).1 rfl
  have hcut (hline : line ∈ (splitAtFeeds t).dropLast.map dropFinalReturn) : '\n' ∉ line := by
    obtain ⟨piece, hmem, rfl⟩ := List.mem_map.1 hline
    refine fun hfeed => hpiece (List.dropLast_subset _ hmem) ?_
    unfold dropFinalReturn at hfeed
    split at hfeed
    · exact List.dropLast_subset _ hfeed
    · exact hfeed
  unfold contentLines at h
  split at h
  · exact hcut h
  · exact hcut h
  · next last hlast =>
      rcases List.mem_append.1 h with hline | hline
      · exact hcut hline
      · rw [List.mem_singleton.1 hline]
        exact hpiece (List.mem_of_getLast? hlast)

/-- Such a line has to be cut just if a carriage return is left in it. -/
theorem hasTerminator_contentLine_iff (h : line ∈ contentLines t) :
    hasTerminator line = false ↔ '\r' ∉ line := by
  rw [hasTerminator_eq_false_iff]
  exact and_iff_right (not_mem_of_mem_contentLines h)

end Text

/-- Some of the lines of a reader make as many lines of a buffer just if there is no carriage return
in any of them. -/
theorem ByteReader.length_flattenLines_eq_iff {reader : ByteReader} {texts : List Text}
    (h : ∀ text ∈ texts, text ∈ reader.lines) :
    (Text.flattenLines texts).length = texts.length ↔ ∀ line ∈ texts, '\r' ∉ line := by
  rw [Text.length_flattenLines_eq_iff]
  exact forall₂_congr fun line hline => Text.hasTerminator_contentLine_iff (h line hline)

/-- The number of lines that the requests have told of. -/
def Filling.counted (filling : Filling) : Nat :=
  (filling.results.map fun
    | .ok count => count
    | .error _ => 0).sum

namespace Loader

variable {loader next : Loader} {buffer : LineBuffer} {n : Nat}

/-! ## The three counts -/

/-- The loader counts the lines that it reads. -/
theorem linesLoaded_of_read {batch : Batch} {records : List LogRecord}
    (h : loader.read n = (.ok (some batch), next, records)) :
    next.linesLoaded = loader.linesLoaded + batch.lines.length := by
  unfold read at h
  split at h
  · cases h
  · split at h
    · cases h
      simp only [linesLoaded, List.map_append, List.map_singleton, List.foldl_append,
        List.foldl_cons, List.foldl_nil]
    · cases h

/-- A loader counts the lines that it is given. -/
theorem Unfailing.linesLoaded_read (h : loader.Unfailing) (n : Nat) :
    (loader.read n).2.1.linesLoaded = loader.linesLoaded + (loader.unread.take n).length := by
  cases hfinished : loader.isFinished with
  | true =>
      rw [read, Option.isNone_iff_eq_none.1 hfinished, unread_of_isFinished hfinished,
        List.take_nil]
      rfl
  | false =>
      obtain ⟨next, records, hread, -⟩ := h.read_eq hfinished n
      rw [hread]
      exact linesLoaded_of_read hread

/-- Further requests read the next lines, however many each of them is for. -/
theorem linesLoaded_appendAll (h : loader.Unfailing) (buffer : LineBuffer) (requests : List Nat) :
    (loader.appendAll buffer requests).loader.linesLoaded =
      loader.linesLoaded + (loader.unread.take requests.sum).length := by
  induction requests generalizing loader buffer with
  | nil => rw [List.sum_nil, List.take_zero]; rfl
  | cons n requests ih =>
      have hnext := h.advances_appendMore buffer n
      show ((loader.appendMore buffer n).loader.appendAll _ requests).loader.linesLoaded = _
      rw [ih hnext.unfailing, hnext.unread, loader_appendMore, h.linesLoaded_read, List.sum_cons,
        List.take_add, List.length_append, Nat.add_assoc]

/-- And they tell how many lines of the buffer these make. -/
theorem counted_appendAll (h : loader.Unfailing) (buffer : LineBuffer) (requests : List Nat) :
    (loader.appendAll buffer requests).counted =
      (Text.flattenLines (loader.unread.take requests.sum)).length := by
  induction requests generalizing loader buffer with
  | nil => rw [List.sum_nil, List.take_zero]; rfl
  | cons n requests ih =>
      have hnext := h.advances_appendMore buffer n
      obtain ⟨hresult, -⟩ := h.appendMore_eq buffer n
      have hgained : (buffer.appendLines (loader.unread.take n)).1 =
          (Text.flattenLines (loader.unread.take n)).length := by
        show (buffer.appendLines _).2.lines.length - buffer.lines.length = _
        rw [LineBuffer.lines_appendLines, List.length_append, Nat.add_sub_cancel_left]
      have hcons : (loader.appendAll buffer (n :: requests)).counted =
          (buffer.appendLines (loader.unread.take n)).1 +
            ((loader.appendMore buffer n).loader.appendAll
              (loader.appendMore buffer n).buffer requests).counted := by
        rw [appendAll, Filling.counted, hresult]
        rfl
      rw [hcons, ih hnext.unfailing, hnext.unread, hgained, List.sum_cons, List.take_add,
        Text.flattenLines_append, List.length_append]

/-! ## When they agree -/

/-- The three counts agree as far as the lines that are read make one line each. After any requests
of which the first is not for no lines, the loader's count is the sum of what the requests have told
just if the lines behind those of the first request hold no carriage return; and the buffer has that
many lines, or one if none has come, just if those of the first request hold none. -/
theorem counts_agree_iff {reader : ByteReader} (hreader : reader.Unfailing)
    (highlighter : Highlighter) {first : Nat} (hfirst : 1 ≤ first) (more : List Nat) :
    let filling := (new (.reader reader)).fill highlighter first more
    (filling.loader.linesLoaded = filling.counted ↔
        ∀ line ∈ (reader.lines.drop first).take more.sum, '\r' ∉ line) ∧
      (filling.buffer.length = max filling.counted 1 ↔
        ∀ line ∈ reader.lines.take first, '\r' ∉ line) := by
  intro filling
  have hnew := unfailing_new hreader
  obtain ⟨hresult, -, hnext⟩ := hnew.loadInitial_eq rfl (.empty highlighter) first
  have hunread : (new (.reader reader)).unread = reader.lines := rfl
  rw [hunread] at hresult
  have hrest : (loadInitial (new (.reader reader)) (.empty highlighter) first).loader.unread =
      reader.lines.drop first := hnext.unread
  have hloaded : filling.loader.linesLoaded = (reader.lines.take first).length +
      ((reader.lines.drop first).take more.sum).length := by
    show ((loadInitial _ _ _).loader.appendAll _ more).loader.linesLoaded = _
    rw [linesLoaded_appendAll hnext.unfailing, hrest, loader_loadInitial,
      hnew.linesLoaded_read, hunread]
    exact congrArg (· + _) (Nat.zero_add _)
  have hcounted : filling.counted = (reader.lines.take first).length +
      (Text.flattenLines ((reader.lines.drop first).take more.sum)).length := by
    have hcons : filling.counted = (reader.lines.take first).length +
        ((loadInitial (new (.reader reader)) (.empty highlighter) first).loader.appendAll
          (loadInitial (new (.reader reader)) (.empty highlighter) first).buffer more).counted := by
      show Filling.counted ⟨_ :: _, _, _⟩ = _
      rw [Filling.counted, hresult]
      rfl
    rw [hcons, counted_appendAll hnext.unfailing, hrest]
  have hbuffer : filling.buffer.lines = filledWith (reader.lines.take (first + more.sum)) :=
    (fills_fill hnew rfl highlighter hfirst more).buffer
  constructor
  · have hlater : ∀ line ∈ (reader.lines.drop first).take more.sum, line ∈ reader.lines :=
      fun _ hmem => List.mem_of_mem_drop (List.mem_of_mem_take hmem)
    rw [hloaded, hcounted, Nat.add_left_cancel_iff, ← ByteReader.length_flattenLines_eq_iff hlater]
    exact eq_comm
  · have hearlier : ∀ line ∈ reader.lines.take first, line ∈ reader.lines :=
      fun _ hmem => List.mem_of_mem_take hmem
    rw [← ByteReader.length_flattenLines_eq_iff hearlier, LineBuffer.length, hbuffer, hcounted]
    by_cases hnone : reader.lines = []
    · simp [hnone, filledWith, Text.flattenLines]
    · have hpos : 1 ≤ (reader.lines.take first).length := by
        have := List.length_pos_iff.2 hnone
        rw [List.length_take]
        omega
      have hne : reader.lines.take first ++ (reader.lines.drop first).take more.sum ≠ [] :=
        List.append_ne_nil_of_left_ne_nil (List.length_pos_iff.1 hpos) _
      rw [List.take_add, filledWith_of_ne_nil hne, Text.flattenLines_append, List.length_append,
        Nat.max_eq_left (Nat.le_trans hpos (Nat.le_add_right _ _)), Nat.add_right_cancel_iff]

/-- Three lines with different terminators, read one at a time: the counts agree. -/
theorem counts_agree_terminators :
    let reader : ByteReader := ⟨[], [[97, 13, 10, 98], [10, 99]], none⟩
    let filling := (new (.reader reader)).fill .plain 1 [1, 1]
    reader.Unfailing ∧ 1 ≤ 1 ∧ reader.lines = [['a'], ['b'], ['c']] ∧ filling.counted = 3 ∧
      filling.loader.linesLoaded = filling.counted ∧
      filling.buffer.length = max filling.counted 1 := by
  intro reader filling
  have hreader : reader.Unfailing := ⟨rfl, by decide⟩
  obtain ⟨hloaded, hlength⟩ := counts_agree_iff hreader .plain (Nat.le_refl 1) [1, 1]
  exact ⟨hreader, Nat.le_refl 1, by decide, by decide, hloaded.2 (by decide), hlength.2 (by decide)⟩

/-- With a carriage return in each of two lines, read one at a time, the first request tells of one
line and leaves two in the buffer, and the second tells of two lines where one has been read. So not
all counts agree after every request. -/
theorem counts_differ :
    (let reader : ByteReader := ⟨[], [[97, 13, 98, 10, 99, 13, 100, 10]], none⟩
      let first := (new (.reader reader)).fill .plain 1 []
      let second := (new (.reader reader)).fill .plain 1 [1]
      reader.Unfailing ∧
        (first.counted, first.loader.linesLoaded, first.buffer.length) = (1, 1, 2) ∧
        (second.counted, second.loader.linesLoaded, second.buffer.length) = (3, 2, 4)) ∧
      ¬ ∀ (reader : ByteReader) (first : Nat) (more : List Nat), reader.Unfailing → 1 ≤ first →
        (∀ n ∈ more, 1 ≤ n) →
        let filling := (new (.reader reader)).fill .plain first more
        filling.loader.linesLoaded = filling.counted ∧
          filling.buffer.length = max filling.counted 1 := by
  have hreader : ByteReader.Unfailing ⟨[], [[97, 13, 98, 10, 99, 13, 100, 10]], none⟩ :=
    ⟨rfl, by decide⟩
  refine ⟨⟨hreader, by decide, by decide⟩, fun h => ?_⟩
  obtain ⟨hloaded, -⟩ := h _ 1 [1] hreader (Nat.le_refl 1) (by decide)
  exact absurd hloaded (by decide)

end Loader

end TextEditor
