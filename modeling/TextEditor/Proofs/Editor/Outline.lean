import TextEditor.Proofs.Buffer.Agreeing
import TextEditor.Proofs.Editor.Reading
import TextEditor.Proofs.Stream.Unread

/-!
# Editors apart from what they have loaded

The document of an editor is made of the lines in its buffer and of those that its stream has still
to bring. How many lines have been loaded depends on the size of the chunks and on how far ahead the
editor reads; the outline of an editor is all of it that does not. Reading lines leaves the outline
as it is, so that two editors of one outline that each read as they need move their cursors to the
same place.

Main statements: `Streams.ensureLoaded` with `found_ensureLoaded`, `finishLoading_eq`, and
`outline_moveCursor` with `fluent_moveCursor`.
-/

namespace TextEditor.Editor

variable {editor a b : Editor} {loader : Loader} {line : Nat}

/-- The lines of the document that are still to be read. -/
def unread (editor : Editor) : List Text :=
  Text.flattenLines ((editor.loader.map Loader.unread).getD [])

/-- The lines of the document, those that are loaded and those that are still to be read. -/
def document (editor : Editor) : List Text := editor.buffer.lines ++ editor.unread

/-- The editor with its whole document, and without a stream, what the stream is read by, and the
records of what has been done. -/
def outline (editor : Editor) : Editor :=
  { editor with
    buffer := ⟨editor.document, [], [], editor.buffer.highlighter⟩
    settings := editor.settings.withChunks 1 1
    loader := none
    journal := [] }

/-- A change that does not concern what is loaded is one of the outline. -/
theorem outline_map (h : a.outline = b.outline) (f : Editor → Editor)
    (hf : ∀ editor, (f editor).outline = f editor.outline) : (f a).outline = (f b).outline := by
  rw [hf, hf, h]

/-- An editor can read its stream, if it has one, and reads ahead of its cursor. -/
structure Streams (editor : Editor) : Prop where
  unfailing : ∀ loader, editor.loader = some loader → loader.Unfailing
  chunk_pos : 1 ≤ editor.settings.chunkLines
  margin_pos : 1 ≤ editor.settings.prefetchMargin
  lines_ne_nil : editor.buffer.lines ≠ []

/-- The cursor is on a loaded line, and the lines after it within the margin are loaded as well,
unless the document ends before. -/
structure Fluent (editor : Editor) : Prop extends Streams editor where
  cursor_lt : editor.cursor.line < editor.buffer.length
  prefetched : editor.hasLoaded editor.cursor.line = true ∨ editor.unread = []

/-- What reading lines goes by. -/
def footing (editor : Editor) : LineBuffer × Cursor × (Nat × Nat) × Option Loader :=
  (editor.buffer, editor.cursor, (editor.settings.chunkLines, editor.settings.prefetchMargin),
    editor.loader)

/-- Whether an editor streams depends on no more than what reading goes by. -/
theorem Streams.congr (h : a.Streams) (hfooting : b.footing = a.footing) : b.Streams := by
  have hbuffer : b.buffer = a.buffer := congrArg (·.1) hfooting
  have hchunk : b.settings.chunkLines = a.settings.chunkLines := congrArg (·.2.2.1.1) hfooting
  have hmargin : b.settings.prefetchMargin = a.settings.prefetchMargin :=
    congrArg (·.2.2.1.2) hfooting
  have hloader : b.loader = a.loader := congrArg (·.2.2.2) hfooting
  refine ⟨?_, ?_, ?_, ?_⟩
  · rw [hloader]
    exact h.unfailing
  · rw [hchunk]
    exact h.chunk_pos
  · rw [hmargin]
    exact h.margin_pos
  · rw [hbuffer]
    exact h.lines_ne_nil

/-- Whether an editor reads ahead of its cursor depends on no more than what reading goes by. -/
theorem Fluent.congr (h : a.Fluent) (hfooting : b.footing = a.footing) : b.Fluent := by
  have hbuffer : b.buffer = a.buffer := congrArg (·.1) hfooting
  have hcursor : b.cursor = a.cursor := congrArg (·.2.1) hfooting
  have hmargin : b.settings.prefetchMargin = a.settings.prefetchMargin :=
    congrArg (·.2.2.1.2) hfooting
  have hloader : b.loader = a.loader := congrArg (·.2.2.2) hfooting
  refine ⟨h.toStreams.congr hfooting, ?_, ?_⟩
  · rw [hbuffer, hcursor]
    exact h.cursor_lt
  · rw [hasLoaded, unread, hbuffer, hcursor, hmargin, hloader]
    exact h.prefetched

/-! ## Reading -/

/-- The lines still to be read are those that the loader has yet to bring, cut at their
terminators. -/
theorem unread_of_loader (hloader : editor.loader = some loader) :
    editor.unread = Text.flattenLines loader.unread := by
  rw [unread, hloader]
  rfl

/-- A stream that is not being read has no lines to come. -/
theorem unread_of_unfinished?_eq_none (h : editor.unfinished? = none) : editor.unread = [] := by
  unfold unfinished? at h
  cases hloader : editor.loader with
  | none =>
      rw [unread, hloader]
      rfl
  | some loader =>
      rw [hloader, Option.filter_some] at h
      have hfinished : loader.isFinished = true := by simpa using h
      rw [unread_of_loader hloader, Loader.unread_of_isFinished hfinished]
      rfl

/-- What reading any number of lines comes to: outline and settings stay, and lines are only
added. -/
structure ReadsOn (editor after : Editor) : Prop where
  streams : after.Streams
  outline : after.outline = editor.outline
  settings : after.settings = editor.settings
  length_le : editor.buffer.length ≤ after.buffer.length

/-- Editors with the same outline have the same document. -/
theorem document_eq (h : a.outline = b.outline) : a.document = b.document :=
  congrArg (·.buffer.lines) h

/-- To read nothing is a way of reading on. -/
theorem Streams.readsOn (h : editor.Streams) : ReadsOn editor editor :=
  ⟨h, rfl, rfl, Nat.le_refl _⟩

/-- To read on twice is to read on. -/
theorem ReadsOn.trans {after last : Editor} (h : ReadsOn editor after)
    (hlast : ReadsOn after last) : ReadsOn editor last :=
  ⟨hlast.streams, hlast.outline.trans h.outline, hlast.settings.trans h.settings,
    Nat.le_trans h.length_le hlast.length_le⟩

/-- A document is as long as what is loaded and what is not. -/
theorem length_document (editor : Editor) :
    editor.document.length = editor.buffer.length + editor.unread.length :=
  List.length_append

/-- Once all is read, nothing more comes. -/
theorem ReadsOn.unread_eq_nil {after : Editor} (h : ReadsOn editor after)
    (hnone : editor.unread = []) : after.unread = [] := by
  have hlength := congrArg List.length (document_eq h.outline)
  rw [length_document, length_document, hnone, List.length_nil] at hlength
  have := h.length_le
  apply List.eq_nil_of_length_eq_zero
  omega

/-- Reading loses nothing of what the cursor needs. -/
theorem ReadsOn.fluent {after : Editor} (h : ReadsOn editor after) (hfluent : editor.Fluent) :
    after.Fluent := by
  have hcursor : after.cursor = editor.cursor := congrArg (·.cursor) h.outline
  refine ⟨h.streams, ?_, ?_⟩
  · rw [hcursor]
    exact Nat.lt_of_lt_of_le hfluent.cursor_lt h.length_le
  · rcases hfluent.prefetched with hloaded | hnone
    · left
      rw [hcursor, hasLoaded, h.settings]
      exact decide_eq_true (Nat.lt_of_lt_of_le (of_decide_eq_true hloaded) h.length_le)
    · exact .inr (h.unread_eq_nil hnone)

/-- One read takes lines from those that are to come and puts them at the end of the buffer. -/
theorem lines_absorb (hunfailing : loader.Unfailing) (editor : Editor) (n : Nat) :
    (editor.absorb (loader.appendMore editor.buffer n)).buffer.lines =
        editor.buffer.lines ++ Text.flattenLines (loader.unread.take n) ∧
      (editor.absorb (loader.appendMore editor.buffer n)).unread =
        Text.flattenLines (loader.unread.drop n) := by
  obtain ⟨-, hbuffer⟩ := hunfailing.appendMore_eq editor.buffer n
  constructor
  · rw [Editor.absorb, hbuffer, LineBuffer.lines_appendLines]
  · rw [unread_of_loader rfl, (hunfailing.advances_appendMore editor.buffer n).unread]

/-- One read leaves the document as it is. -/
theorem document_absorb (hunfailing : loader.Unfailing) (hkept : editor.loader = some loader)
    (n : Nat) :
    (editor.absorb (loader.appendMore editor.buffer n)).document = editor.document := by
  obtain ⟨hlines, hunread⟩ := lines_absorb hunfailing editor n
  rw [document, document, hlines, hunread, unread_of_loader hkept, List.append_assoc,
    ← Text.flattenLines_append, List.take_append_drop]

/-- A read keeps editors that can read their streams as they are, apart from what is loaded. -/
theorem Streams.absorb (h : editor.Streams) (hloader : editor.unfinished? = some loader) (n : Nat) :
    ReadsOn editor (editor.absorb (loader.appendMore editor.buffer n)) ∧
      (editor.absorb (loader.appendMore editor.buffer n)).unread =
        Text.flattenLines (loader.unread.drop n) := by
  obtain ⟨hkept, hgoing⟩ := loader_of_unfinished? hloader
  have hunfailing := h.unfailing loader hkept
  obtain ⟨hresult, hbuffer⟩ := hunfailing.appendMore_eq editor.buffer n
  have hnext := hunfailing.advances_appendMore editor.buffer n
  obtain ⟨hlines, hunread⟩ := lines_absorb hunfailing editor n
  have hdocument := document_absorb hunfailing hkept n
  refine ⟨⟨⟨?_, h.chunk_pos, h.margin_pos, ?_⟩, ?_, rfl, ?_⟩, hunread⟩
  · intro other hother
    obtain rfl := Option.some.inj hother
    exact hnext.unfailing
  · rw [hlines]
    exact fun hnil => h.lines_ne_nil (List.append_eq_nil_iff.1 hnil).1
  · rw [outline, hdocument, Editor.absorb, hresult, hbuffer]
    rfl
  · show editor.buffer.lines.length ≤ (editor.absorb _).buffer.lines.length
    rw [hlines, List.length_append]
    exact Nat.le_add_right _ _

/-! ## Reading towards a line -/

/-- To read towards a line is to read on. -/
theorem Streams.ensureLoaded (h : editor.Streams) (line : Nat) :
    ReadsOn editor (editor.ensureLoaded line) := by
  refine ensureLoaded_induction (P := fun after => ReadsOn editor after) ?_ h.readsOn line
  intro after loader hloader hafter n
  exact hafter.trans (hafter.streams.absorb hloader n).1

/-- The steps that reading towards a line is allowed are enough to reach it, or the end. -/
theorem reached_loadTowards (h : editor.Streams) (line : Nat) {budget : Nat}
    (hbudget : (editor.loader.map Loader.pending).getD 0 ≤ budget) :
    (editor.loadTowards line budget).hasLoaded line = true ∨
      (editor.loadTowards line budget).unread = [] := by
  induction budget generalizing editor with
  | zero =>
      have hnone := unfinished?_of_pending (Nat.le_zero.1 hbudget)
      exact .inr (unread_of_unfinished?_eq_none hnone)
  | succ budget ih =>
      unfold loadTowards
      split
      · next hloaded => exact .inl hloaded
      · cases hloader : editor.unfinished? with
        | none => exact .inr (unread_of_unfinished?_eq_none hloader)
        | some loader =>
            obtain ⟨hread, hunread⟩ := h.absorb hloader editor.settings.chunkLines
            simp only
            split
            · next added hresult =>
                apply ih hread.streams
                -- what is left to come is bounded by the step that has been used
                have hlt := Loader.pending_appendMore_lt hresult
                rw [(loader_of_unfinished? hloader).1] at hbudget
                exact Nat.le_of_lt_succ (Nat.lt_of_lt_of_le hlt hbudget)
            · next hresult =>
                have hzero : (loader.appendMore editor.buffer editor.settings.chunkLines).result =
                    .ok 0 := by
                  have hok := ((h.unfailing loader (loader_of_unfinished? hloader).1).appendMore_eq
                    editor.buffer editor.settings.chunkLines).1
                  rw [hok]
                  cases hadded : (editor.buffer.appendLines
                      (loader.unread.take editor.settings.chunkLines)).1 with
                  | zero => rfl
                  | succ added =>
                      rw [hadded] at hok
                      exact absurd hok (hresult added)
                have hunfailing := h.unfailing loader (loader_of_unfinished? hloader).1
                right
                rw [hunread, hunfailing.unread_eq_nil h.chunk_pos hzero, List.drop_nil]
                rfl

/-- After reading towards a line, it is loaded with the margin after it, or all is. -/
theorem reached_ensureLoaded (h : editor.Streams) (line : Nat) :
    (editor.ensureLoaded line).hasLoaded line = true ∨ (editor.ensureLoaded line).unread = [] := by
  unfold Editor.ensureLoaded
  split
  · next hloaded => exact .inl hloaded
  · exact reached_loadTowards h line (Nat.le_refl _)

/-- A line is loaded if the document has it: it is, or nothing is left to read. -/
def Found (editor : Editor) (line : Nat) : Prop :=
  line < editor.buffer.length ∨ editor.unread = []

/-- A line is found by reading towards it: the document is no longer than offsets go, or the line
has been found before. -/
def Finds (editor : Editor) (line : Nat) : Prop :=
  editor.document.length ≤ maxOffset ∨ editor.Found line

/-- A loaded line with a margin is a loaded line, in documents no longer than offsets go. -/
theorem add_margin_lt (hbound : editor.document.length ≤ maxOffset)
    (hloaded : editor.hasLoaded line = true) :
    line + editor.settings.prefetchMargin < editor.buffer.length := by
  have hlength := length_document editor
  have hmin : addCapped line editor.settings.prefetchMargin < editor.buffer.length :=
    of_decide_eq_true hloaded
  unfold addCapped at hmin
  omega

/-- After reading towards a line it is found. -/
theorem found_ensureLoaded (h : editor.Streams) (hfinds : editor.Finds line) :
    (editor.ensureLoaded line).Found line := by
  have hread := h.ensureLoaded line
  rcases hfinds with hbound | hloaded | hnone
  · rcases reached_ensureLoaded h line with hloaded | hnone
    · left
      rw [← document_eq hread.outline] at hbound
      have := add_margin_lt hbound hloaded
      omega
    · exact .inr hnone
  · exact .inl (Nat.lt_of_lt_of_le hloaded hread.length_le)
  · exact .inr (hread.unread_eq_nil hnone)

/-! ## Reading to the end -/

/-- With a budget for all reads that can come, reading to the end succeeds and leaves no line
unread. -/
theorem loadRest_eq (h : editor.Streams) {budget : Nat}
    (hbudget : (editor.loader.map Loader.pending).getD 0 < budget) :
    ∃ after, editor.loadRest budget = (.ok (), after) ∧ ReadsOn editor after ∧
      after.unread = [] := by
  induction budget generalizing editor with
  | zero => exact absurd hbudget (Nat.not_lt_zero _)
  | succ budget ih =>
      unfold loadRest
      cases hloader : editor.unfinished? with
      | none => exact ⟨editor, rfl, h.readsOn, unread_of_unfinished?_eq_none hloader⟩
      | some loader =>
          obtain ⟨hread, hunread⟩ := h.absorb hloader (max editor.settings.chunkLines 1)
          simp only
          split
          · next added hresult =>
              obtain ⟨after, heq, hafter, hnone⟩ := ih hread.streams (by
                have hlt := Loader.pending_appendMore_lt hresult
                rw [(loader_of_unfinished? hloader).1] at hbudget
                exact Nat.lt_of_lt_of_le hlt (Nat.le_of_lt_succ hbudget))
              exact ⟨after, heq, hread.trans hafter, hnone⟩
          · next hresult =>
              have hunfailing := h.unfailing loader (loader_of_unfinished? hloader).1
              have hnil := hunfailing.unread_eq_nil (Nat.le_max_right _ 1) hresult
              have hdrop : (editor.absorb (loader.appendMore editor.buffer
                  (max editor.settings.chunkLines 1))).unread = [] := by
                rw [hunread, hnil, List.drop_nil]
                rfl
              -- letting go of a source that has no lines leaves nothing to come either
              refine ⟨_, rfl, ⟨⟨?_, h.chunk_pos, h.margin_pos, hread.streams.lines_ne_nil⟩, ?_,
                hread.settings, hread.length_le⟩, rfl⟩
              · intro other hother
                obtain rfl := Option.some.inj hother
                exact fun _ hsource => nomatch hsource
              · rw [← hread.outline, outline, outline, document, document, hdrop]
                rfl
          · next error hresult =>
              have hunfailing := h.unfailing loader (loader_of_unfinished? hloader).1
              rw [(hunfailing.appendMore_eq editor.buffer _).1] at hresult
              cases hresult

/-- A stream that can be read is read to its end. -/
theorem finishLoading_eq (h : editor.Streams) :
    ∃ after, editor.finishLoading = (.ok (), after) ∧ ReadsOn editor after ∧ after.unread = [] :=
  loadRest_eq h (Nat.lt_succ_self _)

/-! ## Loaded lines as lines of the document -/

/-- A line that is loaded is that line of the document. -/
theorem line_document (h : line < editor.buffer.length) :
    editor.outline.buffer.line line = editor.buffer.line line := by
  show ((editor.buffer.lines ++ editor.unread)[line]?).getD [] =
    (editor.buffer.lines[line]?).getD []
  rw [List.getElem?_append_left h]

/-- A line that has been found is loaded if the document has it. -/
theorem lt_length_iff (h : editor.Found line) :
    line < editor.buffer.length ↔ line < editor.document.length := by
  rw [length_document]
  rcases h with hline | hnone
  · omega
  · rw [hnone, List.length_nil, Nat.add_zero]

/-- A line number that has been found stands for a loaded line, the same as in the document. -/
theorem clampLine_document (h : editor.Found line) :
    editor.outline.buffer.clampLine line = editor.buffer.clampLine line := by
  have hlength : editor.outline.buffer.length = editor.buffer.length + editor.unread.length :=
    length_document editor
  rcases h with hline | hnone
  · rw [LineBuffer.clampLine_of_lt hline, LineBuffer.clampLine_of_lt (by omega)]
  · rw [LineBuffer.clampLine, LineBuffer.clampLine, hlength, hnone, List.length_nil, Nat.add_zero]

/-- A place is found in the loaded lines as in the document. -/
theorem Streams.place_document (hstreams : editor.Streams)
    (h : editor.Found line) (column tabWidth : Nat) :
    Cursor.place editor.outline.buffer line column tabWidth =
      Cursor.place editor.buffer line column tabWidth := by
  have hline := line_document (LineBuffer.clampLine_lt hstreams.lines_ne_nil line)
  simp only [Cursor.place, clampLine_document h, hline]

/-! ## Placing the cursor -/

/-- The editor with its cursor at a position of its buffer, without reading. -/
def placed (editor : Editor) (line column : Nat) : Editor :=
  { editor with
    cursor := .place editor.buffer line column editor.settings.tabWidth }.scrollToCursor

/-- Moving the cursor moves it in the outline. -/
theorem outline_moveCursor (h : editor.Streams) (hfinds : editor.Finds line) (column : Nat) :
    (editor.moveCursor line column).outline = editor.outline.placed line column := by
  have hread := h.ensureLoaded line
  have hplace := hread.streams.place_document (found_ensureLoaded h hfinds) column
    (editor.ensureLoaded line).settings.tabWidth
  rw [← hread.outline, placed]
  show _ = { (editor.ensureLoaded line).outline with
    cursor := .place (editor.ensureLoaded line).outline.buffer line column
      (editor.ensureLoaded line).settings.tabWidth }.scrollToCursor
  rw [hplace]
  rfl

/-- A moved cursor is on a loaded line, with the lines after it loaded. -/
theorem fluent_moveCursor (h : editor.Streams) (line column : Nat) :
    (editor.moveCursor line column).Fluent := by
  have hstreams := (h.ensureLoaded line).streams
  refine ⟨⟨hstreams.unfailing, hstreams.chunk_pos, hstreams.margin_pos, hstreams.lines_ne_nil⟩,
    LineBuffer.clampLine_lt hstreams.lines_ne_nil line, ?_⟩
  rcases reached_ensureLoaded h line with hloaded | hnone
  · left
    -- the cursor is at most as far down as the line that has been read towards
    have hlt := of_decide_eq_true hloaded
    have hle : (editor.ensureLoaded line).buffer.clampLine line ≤ line := Nat.min_le_left _ _
    refine decide_eq_true ?_
    show addCapped ((editor.ensureLoaded line).buffer.clampLine line)
      (editor.ensureLoaded line).settings.prefetchMargin < (editor.ensureLoaded line).buffer.length
    unfold addCapped at hlt ⊢
    omega
  · exact .inr hnone

end TextEditor.Editor
