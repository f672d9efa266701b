import TextEditor.Editor.Operation
import TextEditor.Proofs.Stream.Filling

/-!
# Reading that fails

A source may fail at any request, also after it has given lines. The buffer is then as if nothing
had been asked for, and so is the loader's count; but the loader has let go of its source, so that
every further request succeeds and brings nothing. An editor for which a stream cannot be opened
keeps the document that it has, and with it the stream which that comes from.

Main statements: `load_of_error`, what a request that fails leaves behind; `loadAll_of_isFinished`,
what comes after it; and `failed_reading_keeps`.
-/

namespace TextEditor

/-- A request to a loader, for so many lines at most: in place of those of a buffer, or behind
them. -/
inductive LoadRequest where
  | initial (n : Nat)
  | more (n : Nat)

/-- The number of lines that a request is for. -/
def LoadRequest.most : LoadRequest → Nat
  | initial n => n
  | more n => n

namespace Loader

variable {loader : Loader} {buffer : LineBuffer} {request : LoadRequest} {error : EditorError}

/-- What a request to a loader comes to. -/
def load (loader : Loader) (buffer : LineBuffer) : LoadRequest → Loading
  | .initial n => loader.loadInitial buffer n
  | .more n => loader.appendMore buffer n

/-- What requests come to that are put to a loader one after the other. -/
def loadAll (loader : Loader) (buffer : LineBuffer) : List LoadRequest → Filling
  | [] => ⟨[], loader, buffer⟩
  | request :: requests =>
      let loading := loader.load buffer request
      let filling := loading.loader.loadAll loading.buffer requests
      { filling with results := loading.result :: filling.results }

/-! ## A request that fails -/

/-- A source that fails is let go of. -/
theorem read_of_error {source : LineSource} {reason : String} {n : Nat}
    (hsource : loader.source = some source) (hanswer : (source.read n).1 = .error reason) :
    loader.read n = (.error (.io reason), ⟨none, loader.answers ++ [.error reason]⟩,
      [failureRecord (.io reason)]) := by
  rcases hread : source.read n with ⟨answer, rest⟩
  rw [hread] at hanswer
  subst hanswer
  rw [read, hsource]
  simp only [hread]

/-- Reading fails only if the source does. -/
theorem exists_of_read_eq_error {n : Nat} (h : (loader.read n).1 = .error error) :
    ∃ source reason, loader.source = some source ∧ (source.read n).1 = .error reason := by
  unfold read at h
  split at h
  · cases h
  · next source hsource =>
      split at h
      · cases h
      · next reason rest hread => exact ⟨source, reason, hsource, by rw [hread]⟩

/-- If reading fails, the request fails for the same reason and puts nothing in the buffer. -/
theorem load_of_read_eq_error {next : Loader} {records : List LogRecord}
    (h : loader.read request.most = (.error error, next, records)) :
    loader.load buffer request = ⟨.error error, next, buffer, records⟩ := by
  cases request with
  | initial n =>
      have hread : loader.read n = (.error error, next, records) := h
      rw [load, loadInitial, hread]
  | more n =>
      have hread : loader.read n = (.error error, next, records) := h
      rw [load, appendMore, hread]

/-- A request fails only if reading does. -/
theorem read_eq_error_of_load (h : (loader.load buffer request).result = .error error) :
    (loader.read request.most).1 = .error error := by
  cases request with
  | initial n =>
      simp only [load, loadInitial] at h
      split at h
      · cases h
      · cases h
      · next hread =>
          cases h
          rw [LoadRequest.most, hread]
  | more n =>
      simp only [load, appendMore] at h
      split at h
      · cases h
      · cases h
      · next hread =>
          cases h
          rw [LoadRequest.most, hread]

/-- A request that fails leaves the buffer as it was, and the loader without its source. -/
theorem load_of_error (h : (loader.load buffer request).result = .error error) :
    ∃ source reason, loader.source = some source ∧
      (source.read request.most).1 = .error reason ∧ error = .io reason ∧
      loader.load buffer request = ⟨.error error, ⟨none, loader.answers ++ [.error reason]⟩, buffer,
        [failureRecord error]⟩ := by
  obtain ⟨source, reason, hsource, hanswer⟩ := exists_of_read_eq_error (read_eq_error_of_load h)
  have hload : loader.load buffer request = _ :=
    load_of_read_eq_error (read_of_error hsource hanswer)
  rw [hload] at h
  obtain rfl := Except.error.inj h
  exact ⟨source, reason, hsource, hanswer, rfl, hload⟩

/-- A failure brings no lines. -/
theorem linesLoaded_of_failure (loader : Loader) (source : Option LineSource) (reason : String) :
    linesLoaded ⟨source, loader.answers ++ [.error reason]⟩ = loader.linesLoaded := by
  simp only [linesLoaded, List.map_append, List.map_singleton, List.foldl_append, List.foldl_cons,
    List.foldl_nil, Nat.add_zero]

/-! ## After a failure -/

/-- A finished loader answers a request by no lines, without a word. -/
theorem load_of_isFinished (h : loader.isFinished = true) (buffer : LineBuffer)
    (request : LoadRequest) : loader.load buffer request = ⟨.ok 0, loader, buffer, []⟩ := by
  have hread (n : Nat) : loader.read n = (.ok none, loader, []) := by
    rw [read, Option.isNone_iff_eq_none.1 h]
  cases request with
  | initial n => rw [load, loadInitial, hread]
  | more n => rw [load, appendMore, hread]

/-- A finished loader may be asked for lines any number of times, and brings none. -/
theorem loadAll_of_isFinished (h : loader.isFinished = true) (buffer : LineBuffer)
    (requests : List LoadRequest) :
    loader.loadAll buffer requests =
      ⟨List.replicate requests.length (.ok 0), loader, buffer⟩ := by
  induction requests with
  | nil => rfl
  | cons request requests ih =>
      rw [loadAll, load_of_isFinished h]
      simp only [ih, List.length_cons, List.replicate_succ]

end Loader

namespace Editor

/-- A stream cannot be opened only if the source fails at once, and nothing of the editor but its
journal is then another. -/
theorem openStream_of_error {editor : Editor} {source : LineSource} {error : EditorError}
    (h : (editor.openStream source).1 = .error error) :
    (∃ reason, (source.read editor.settings.chunkLines).1 = .error reason ∧ error = .io reason) ∧
      (editor.openStream source).2 =
        { editor with journal := editor.journal ++ [Loader.failureRecord error] } := by
  have hresult : ((Loader.new source).load editor.buffer
      (.initial editor.settings.chunkLines)).result = .error error := by
    unfold openStream at h
    simp only at h
    split at h
    · cases h
    · next error' hfailed =>
        cases h
        exact hfailed
  obtain ⟨read, reason, hsource, hanswer, herror, hload⟩ := Loader.load_of_error hresult
  cases hsource
  have hinitial : (Loader.new source).loadInitial editor.buffer editor.settings.chunkLines = _ :=
    hload
  refine ⟨⟨reason, hanswer, herror⟩, ?_⟩
  unfold openStream
  rw [hinitial]

/-- A failed read changes nothing that it should not. If a loader fails to bring lines into a
buffer, the buffer and the number of lines read are what they were before, the loader is finished,
and it answers all further requests, into whatever buffer, by no lines and leaves that buffer
alone. If a stream cannot be opened, all of the editor but the journal is what it was before: its
document, cursor, window, mode, mark, message, name and search, and the stream that it has still to
read. -/
theorem failed_reading_keeps :
    (∀ (loader : Loader) (buffer : LineBuffer) (request : LoadRequest) (error : EditorError),
      let loading := loader.load buffer request
      loading.result = .error error →
        loading.buffer = buffer ∧ loading.loader.linesLoaded = loader.linesLoaded ∧
        loading.loader.isFinished = true ∧
        ∀ (later : LineBuffer) (requests : List LoadRequest),
          loading.loader.loadAll later requests =
            ⟨List.replicate requests.length (.ok 0), loading.loader, later⟩) ∧
    ∀ (editor : Editor) (source : LineSource) (error : EditorError),
      (editor.openStream source).1 = .error error → (editor.openStream source).2 =
        { editor with journal := editor.journal ++ [Loader.failureRecord error] } := by
  constructor
  · intro loader buffer request error loading hresult
    obtain ⟨source, reason, -, -, -, hload⟩ := Loader.load_of_error hresult
    have hfinished : loading.loader.isFinished = true := by
      rw [show loading = _ from hload]
      rfl
    refine ⟨?_, ?_, hfinished, Loader.loadAll_of_isFinished hfinished⟩
    · rw [show loading = _ from hload]
    · rw [show loading = _ from hload]
      exact loader.linesLoaded_of_failure none reason
  · intro editor source error h
    exact (openStream_of_error h).2

/-- A source fails after two lines, and the loader answers two further requests by no lines. And a
second stream cannot be opened at the command prompt of an editor that has typed into the first. -/
theorem failed_reading_keeps_first_lines :
    (let source := LineSource.scripted [.ok ⟨[['a'], ['b']], false⟩, .error "gone"]
      let first := (Loader.new source).load (.empty .plain) (.initial 2)
      let failing := first.loader.load first.buffer (.more 2)
      let later := failing.loader.loadAll failing.buffer [.more 1, .initial 3]
      failing.result = .error (.io "gone") ∧ failing.buffer.lines = [['a'], ['b']] ∧
        failing.loader.linesLoaded = 2 ∧ later.results = [.ok 0, .ok 0] ∧
        later.buffer.lines = [['a'], ['b']]) ∧
      (let operations : List Operation := [.openStream (.reader ⟨[], [[97, 10], [98, 10]], none⟩),
        .insertChar 'x', .key ⟨.char 'e', false, false, true⟩]
      let editor := ((new (Settings.usual.withChunks 1 0)).performAll operations).2
      let after := (editor.openStream (.feed [] "gone")).2
      (editor.openStream (.feed [] "gone")).1 = .error (.io "gone") ∧
        after.buffer.lines = [['x', 'a']] ∧ after.isStreaming = true ∧ after.dirty = true ∧
        after.mode = .command) := by
  constructor
  · intro source first failing later
    have hresult : failing.result = .error (.io "gone") := rfl
    obtain ⟨hbuffer, hloaded, -, hlater⟩ := failed_reading_keeps.1 _ _ _ _ hresult
    have hnone := hlater failing.buffer [.more 1, .initial 3]
    refine ⟨hresult, ?_, ?_, congrArg Filling.results hnone, ?_⟩
    · rw [show failing.buffer = first.buffer from hbuffer]
      decide
    · rw [show failing.loader.linesLoaded = first.loader.linesLoaded from hloaded]
      decide
    · rw [show later.buffer = failing.buffer from congrArg Filling.buffer hnone,
        show failing.buffer = first.buffer from hbuffer]
      decide
  · intro operations editor after
    have hopen : (editor.openStream (.feed [] "gone")).1 = .error (.io "gone") := rfl
    have hlines : editor.buffer.lines = [['x', 'a']] := by decide +kernel
    have hstreaming : editor.isStreaming = true := by decide +kernel
    have hdirty : editor.dirty = true := by decide +kernel
    have hmode : editor.mode = .command := by decide +kernel
    -- nothing more is computed from here on
    clear_value operations
    have hafter := failed_reading_keeps.2 _ _ _ hopen
    rw [show after = _ from hafter]
    exact ⟨hopen, hlines, hstreaming, hdirty, hmode⟩

end Editor

end TextEditor
