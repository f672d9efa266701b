import Mathlib.Algebra.GroupWithZero.Nat
import TextEditor.Proofs.Stream.Unread

/-!
# Filling a buffer

A fresh buffer is filled by one request for its first lines and further requests for more. What it
holds in the end are the lines of the content, however the content came in blocks and however many
lines each request was for; and the loader is finished as soon as it has brought the last of them.

Main statements: `fills_fill`, what buffer and loader hold at any point, and `fill_reader`.
-/

namespace TextEditor

/-- What filling a buffer comes to: the results of the requests, the loader and the buffer. -/
structure Filling where
  results : List (Except EditorError Nat)
  loader : Loader
  buffer : LineBuffer

namespace Loader

variable {loader : Loader} {buffer : LineBuffer}

/-- Asks a loader for more lines, once for each of some requests. -/
def appendAll (loader : Loader) (buffer : LineBuffer) : List Nat → Filling
  | [] => ⟨[], loader, buffer⟩
  | n :: requests =>
      let loading := loader.appendMore buffer n
      let filling := loading.loader.appendAll loading.buffer requests
      { filling with results := loading.result :: filling.results }

/-- Fills a fresh buffer by a first request and more of them. -/
def fill (loader : Loader) (highlighter : Highlighter) (first : Nat) (more : List Nat) : Filling :=
  let loading := loader.loadInitial (.empty highlighter) first
  let filling := loading.loader.appendAll loading.buffer more
  { filling with results := loading.result :: filling.results }

/-- The lines of a buffer that has been filled with texts; no text stands for one empty line. -/
def filledWith (texts : List Text) : List Text :=
  if texts.isEmpty then [[]] else Text.flattenLines texts

/-- Texts fill a buffer with their lines. -/
theorem filledWith_of_ne_nil {texts : List Text} (h : texts ≠ []) :
    filledWith texts = Text.flattenLines texts := by
  rw [filledWith, List.isEmpty_eq_false_iff.2 h]
  rfl

/-- A buffer is filled with a line at least. -/
theorem filledWith_ne_nil (texts : List Text) : filledWith texts ≠ [] := by
  cases texts with
  | nil => exact List.cons_ne_nil _ _
  | cons text texts =>
      rw [filledWith_of_ne_nil (List.cons_ne_nil _ _)]
      exact mt eq_nil_of_flattenLines_eq_nil (List.cons_ne_nil _ _)

/-- A buffer is filled in two steps, the second of which brings nothing if the first does not. -/
theorem filledWith_append {texts more : List Text} (h : texts = [] → more = []) :
    filledWith texts ++ Text.flattenLines more = filledWith (texts ++ more) := by
  cases texts with
  | nil =>
      obtain rfl := h rfl
      rfl
  | cons text texts =>
      show _ = filledWith (text :: (texts ++ more))
      rw [filledWith_of_ne_nil (List.cons_ne_nil text texts),
        filledWith_of_ne_nil (List.cons_ne_nil text (texts ++ more)), ← List.cons_append,
        Text.flattenLines_append]

/-- A buffer that lacks some of the texts has other lines. -/
theorem filledWith_ne_append {texts more : List Text} (htexts : texts ≠ []) (hmore : more ≠ []) :
    filledWith texts ≠ filledWith (texts ++ more) := by
  intro heq
  rw [← filledWith_append fun hnil => absurd hnil htexts] at heq
  exact hmore (eq_nil_of_flattenLines_eq_nil (List.self_eq_append_right.1 heq))

/-- To replace all lines of a buffer is to fill it. -/
theorem lines_replaceLines (buffer : LineBuffer) (texts : List Text) :
    (buffer.replaceLines texts).lines = filledWith texts := by
  show (if (Text.flattenLines texts).isEmpty then [[]] else Text.flattenLines texts) = _
  cases texts with
  | nil => rfl
  | cons text texts =>
      rw [filledWith_of_ne_nil (List.cons_ne_nil _ _), List.isEmpty_eq_false_iff.2
        (mt eq_nil_of_flattenLines_eq_nil (List.cons_ne_nil _ _))]
      rfl

/-- How far filling a buffer with some lines has come after requests for `n` of them: the buffer
holds those, the loader has the others still to bring, and it is finished if there are none. -/
structure Fills (lines : List Text) (n : Nat) (filling : Filling) : Prop where
  succeeded : ∀ result ∈ filling.results, ∃ added, result = .ok added
  unfailing : filling.loader.Unfailing
  unread : filling.loader.unread = lines.drop n
  finished : filling.loader.isFinished = decide (lines.length ≤ n)
  buffer : filling.buffer.lines = filledWith (lines.take n)

/-- Further requests bring the next lines. -/
theorem fills_appendAll {lines : List Text} {n : Nat} (hn : 1 ≤ n)
    (h : Fills lines n ⟨[], loader, buffer⟩) (requests : List Nat) :
    Fills lines (n + requests.sum) (loader.appendAll buffer requests) := by
  induction requests generalizing loader buffer n with
  | nil => exact h
  | cons m requests ih =>
      obtain ⟨hresult, hbuffer⟩ := h.unfailing.appendMore_eq buffer m
      have hnext := h.unfailing.advances_appendMore buffer m
      have hunread : loader.unread = lines.drop n := h.unread
      -- the lines behind the first `n` are the first `m` of those still unread
      have hstep : Fills lines (n + m)
          ⟨[], (loader.appendMore buffer m).loader, (loader.appendMore buffer m).buffer⟩ := by
        refine ⟨fun _ hmem => absurd hmem List.not_mem_nil, hnext.unfailing, ?_, ?_, ?_⟩
        · show (loader.appendMore buffer m).loader.unread = lines.drop (n + m)
          rw [hnext.unread, hunread, List.drop_drop]
        · show (loader.appendMore buffer m).loader.isFinished = decide (lines.length ≤ n + m)
          rw [hnext.finished, hunread, List.length_drop, decide_eq_decide]
          omega
        · show (loader.appendMore buffer m).buffer.lines = filledWith (lines.take (n + m))
          rw [hbuffer, LineBuffer.lines_appendLines, hunread, List.take_add]
          have hlines : buffer.lines = filledWith (lines.take n) := h.buffer
          rw [hlines]
          apply filledWith_append
          intro hnil
          rcases List.take_eq_nil_iff.1 hnil with hzero | hnone
          · omega
          · rw [hnone, List.drop_nil, List.take_nil]
      have hrest := ih (Nat.le_trans hn (Nat.le_add_right n m)) hstep
      rw [List.sum_cons, ← Nat.add_assoc]
      refine ⟨fun result hmem => ?_, hrest.unfailing, hrest.unread, hrest.finished, hrest.buffer⟩
      rcases List.mem_cons.1 hmem with rfl | hmem
      · exact ⟨_, hresult⟩
      · exact hrest.succeeded result hmem

/-- What buffer and loader hold after any requests, of which the first is not for no lines. -/
theorem fills_fill (h : loader.Unfailing) (hgoing : loader.isFinished = false)
    (highlighter : Highlighter) {first : Nat} (hfirst : 1 ≤ first) (more : List Nat) :
    Fills loader.unread (first + more.sum) (loader.fill highlighter first more) := by
  obtain ⟨hresult, hbuffer, hnext⟩ := h.loadInitial_eq hgoing (.empty highlighter) first
  have hstart : Fills loader.unread first
      ⟨[], (loader.loadInitial (.empty highlighter) first).loader,
        (loader.loadInitial (.empty highlighter) first).buffer⟩ := by
    refine ⟨fun _ hmem => absurd hmem List.not_mem_nil, hnext.unfailing, hnext.unread,
      hnext.finished, ?_⟩
    show (loader.loadInitial (.empty highlighter) first).buffer.lines = _
    rw [hbuffer, lines_replaceLines]
  have hrest := fills_appendAll hfirst hstart more
  refine ⟨fun result hmem => ?_, hrest.unfailing, hrest.unread, hrest.finished, hrest.buffer⟩
  rcases List.mem_cons.1 hmem with rfl | hmem
  · exact ⟨_, hresult⟩
  · exact hrest.succeeded result hmem

/-- A buffer filled with all lines of a content has the lines of the content without its last line
feed. -/
theorem filledWith_contentLines (t : Text) :
    filledWith t.contentLines = Text.splitLines t.dropFinalFeed := by
  by_cases ht : t = []
  · rw [ht]
    rfl
  · have hlines := Text.flattenLines_contentLines ht
    rw [filledWith_of_ne_nil, hlines]
    intro hnil
    rw [hnil] at hlines
    exact Text.splitLines_ne_nil _ hlines.symm

/-- Filling a buffer from a byte reader never fails. The loader is finished with the request that
reaches the last line of the content, and finished it is exactly when the buffer holds the lines of
the decoded content without its last line feed. -/
theorem fill_reader {reader : ByteReader} (hreader : reader.Unfailing) (highlighter : Highlighter)
    {first : Nat} (hfirst : 1 ≤ first) (more : List Nat) :
    let filling := (new (.reader reader)).fill highlighter first more
    (∀ result ∈ filling.results, ∃ added, result = .ok added) ∧
      (filling.loader.isFinished = true ↔ reader.lines.length ≤ first + more.sum) ∧
      (filling.loader.isFinished = true ↔
        filling.buffer.lines = Text.splitLines (Text.ofBytes reader.content).dropFinalFeed) := by
  intro filling
  have hfills : Fills reader.lines (first + more.sum) filling :=
    fills_fill (unfailing_new hreader) rfl highlighter hfirst more
  have hfinished : filling.loader.isFinished = true ↔ reader.lines.length ≤ first + more.sum := by
    rw [hfills.finished, decide_eq_true_eq]
  refine ⟨hfills.succeeded, hfinished, ?_⟩
  rw [hfinished, hfills.buffer, ← filledWith_contentLines]
  show _ ↔ filledWith (reader.lines.take (first + more.sum)) = filledWith reader.lines
  constructor
  · intro hle
    rw [List.take_of_length_le hle]
  · intro heq
    refine Nat.le_of_not_lt fun hlt => ?_
    -- otherwise lines are left, and with them the buffer would be longer
    have hmore : reader.lines.drop (first + more.sum) ≠ [] := by
      intro hnil
      rw [List.drop_eq_nil_iff] at hnil
      omega
    have htexts : reader.lines.take (first + more.sum) ≠ [] := by
      intro hnil
      rcases List.take_eq_nil_iff.1 hnil with hzero | hnone
      · omega
      · rw [hnone] at hlt
        exact Nat.not_lt_zero _ hlt
    apply filledWith_ne_append htexts hmore
    rw [List.take_append_drop]
    exact heq

/-- Blocks that cut a character and a carriage return from its line feed, asked for one line at a
time: the second request is the last, and brings the two lines around the lone carriage return. -/
theorem fill_reader_cut_apart :
    let reader : ByteReader := ⟨[0xC3], [[0xA9, 13], [10, 98, 13, 99, 13, 10]], none⟩
    let filling := (new (.reader reader)).fill .plain 1 [1]
    reader.Unfailing ∧ 1 ≤ 1 ∧ filling.loader.isFinished = true ∧
      filling.buffer.lines = [['é'], ['b'], ['c']] := by
  intro reader filling
  have hreader : reader.Unfailing := ⟨rfl, by decide⟩
  obtain ⟨-, hfinished, hlines⟩ := fill_reader hreader .plain (Nat.le_refl 1) [1]
  have hend : filling.loader.isFinished = true := hfinished.2 (by decide)
  refine ⟨hreader, Nat.le_refl 1, hend, ?_⟩
  rw [hlines.1 hend]
  decide

end Loader

end TextEditor
