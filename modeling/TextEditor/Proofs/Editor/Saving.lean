import TextEditor.Proofs.Editor.Sound
import TextEditor.Proofs.Editor.Stance

/-!
# What is saved

Before a document is saved its stream is read to the end, and if that fails there is no request to
save it. But a source that has failed is let go of, and then nothing is left to be read: when the
failure came earlier, the document is saved as far as it has been read.

Main statements: `saves_perform`, every request to save comes from `requestSave`; `saved_cut_off`,
after a failure a document with a name is saved all the same; and `readWhole_saved_iff`, what is
saved is all of the stream just when no read had failed before.
-/

namespace TextEditor

/-- The document that a request asks to write to a file. -/
def Request.saved? : Request → Option SaveRequest
  | .save saved => some saved
  | .saveAndQuit saved => some saved
  | .quit => none
  | .runTests => none

namespace Editor

variable {editor after : Editor} {asked : Request} {saved : SaveRequest} {quitAfter : Bool}

/-! ## Reading before saving -/

/-- Reading to the end that succeeds leaves nothing to be read, and leaves it at whether reading has
failed. -/
theorem LoadsRest.hasFailed_eq {outcome : Except EditorError Unit × Editor}
    (h : LoadsRest editor outcome) (hok : outcome.1 = .ok ()) :
    outcome.2.unfinished? = none ∧
      outcome.2.loader.map Loader.hasFailed = editor.loader.map Loader.hasFailed := by
  induction h with
  | finished hloader => exact ⟨hloader, rfl⟩
  | more hloader hresult hrest ih =>
      obtain ⟨hdone, hsame⟩ := ih hok
      refine ⟨hdone, ?_⟩
      rw [hsame, (loader_of_unfinished? hloader).1]
      exact congrArg some (Loader.hasFailed_appendMore hresult)
  | ended _ hloader hresult =>
      refine ⟨rfl, ?_⟩
      rw [(loader_of_unfinished? hloader).1]
      exact congrArg some (Loader.hasFailed_appendMore hresult)
  | failed hloader hresult => cases hok

/-- A request to save carries the document as it is once its stream has been read to the end. -/
theorem finishLoading_of_requestSave (h : editor.requestSave quitAfter = (some asked, after)) :
    editor.finishLoading = (.ok (), after) ∧ ∃ path, editor.fileName = some path ∧
      asked.saved? = some ⟨path, after.buffer.serialize, after.encoding⟩ := by
  unfold requestSave at h
  cases hname : editor.fileName with
  | none =>
      rw [hname] at h
      cases h
  | some path =>
      rw [hname] at h
      simp only at h
      split at h
      · cases h
      · next loaded hloaded =>
          obtain ⟨hasked, rfl⟩ := Prod.mk.inj h
          refine ⟨hloaded, path, rfl, ?_⟩
          rw [← Option.some.inj hasked]
          cases quitAfter with
          | true => rfl
          | false => rfl

/-! ## Where requests to save come from -/

/-- What is asked of the host, and the editor after it, come from saving an editor with a loader. -/
def Saves (loader : Option Loader) (asked : Option Request × Editor) : Prop :=
  ∃ (saving : Editor) (quitAfter : Bool),
    saving.loader = loader ∧ saving.requestSave quitAfter = asked

/-- To save an editor with a loader is to save with that loader. -/
theorem saves_requestSave {saving : Editor} {loader : Option Loader}
    (h : saving.loader = loader) : Saves loader (saving.requestSave quitAfter) :=
  ⟨saving, quitAfter, h, rfl⟩

/-- Another file name leaves the loader. -/
theorem loader_setFileName (editor : Editor) (path : Text) :
    (editor.setFileName path).loader = editor.loader := by
  unfold setFileName selectGrammar
  split
  · rfl
  · rfl

/-- A command that asks the host to write a document does so by saving. -/
theorem saves_execute {command : Command} (h : (editor.execute command).1 = some asked)
    (hsaved : asked.saved? = some saved) : Saves editor.loader (editor.execute command) := by
  cases command with
  | quit =>
      simp only [execute] at h
      split at h
      · cases h
      · obtain rfl := Option.some.inj h
        cases hsaved
  | save path =>
      cases path with
      | some path => exact saves_requestSave (loader_setFileName editor path)
      | none =>
          apply saves_requestSave
          split
          · rfl
          · rfl
  | goto line column => cases h
  | setEncoding encoding => cases h
  | format => cases h
  | test =>
      obtain rfl := Option.some.inj h
      cases hsaved

/-- A line at the prompt for commands asks for a document to be written only by saving. -/
theorem saves_executeLine {line : Text} (h : (editor.executeLine line).1 = some asked)
    (hsaved : asked.saved? = some saved) : Saves editor.loader (editor.executeLine line) := by
  unfold executeLine at h ⊢
  split
  · next hparse =>
      rw [hparse] at h
      cases h
  · next command hparse =>
      rw [hparse] at h
      exact saves_execute h hsaved
  · next hparse =>
      rw [hparse] at h
      cases h

/-- A key at the prompt for commands asks for a document to be written only by saving. -/
theorem saves_commandKey {event : KeyEvent} (h : (editor.commandKey event).1 = some asked)
    (hsaved : asked.saved? = some saved) : Saves editor.loader (editor.commandKey event) := by
  unfold commandKey at h ⊢
  cases hkey : event.key with
  | enter =>
      rw [hkey] at h
      exact saves_executeLine h hsaved
  | _ =>
      rw [hkey] at h
      cases h

/-- All that a key at the prompt for a file name asks of the host comes from saving. -/
theorem saves_savePromptKey {event : KeyEvent}
    (h : (editor.savePromptKey event).1 = some asked) :
    Saves editor.loader (editor.savePromptKey event) := by
  unfold savePromptKey at h ⊢
  cases hkey : event.key with
  | enter =>
      rw [hkey] at h
      simp only at h ⊢
      split
      · next hname =>
          rw [if_pos hname] at h
          cases h
      · exact saves_requestSave (loader_setFileName _ _)
  | _ =>
      rw [hkey] at h
      cases h

/-- A key that answers the question before quitting asks for a document to be written only by
saving. -/
theorem saves_quitPromptKey {event : KeyEvent}
    (h : (editor.quitPromptKey event).1 = some asked) (hsaved : asked.saved? = some saved) :
    Saves editor.loader (editor.quitPromptKey event) := by
  unfold quitPromptKey at h ⊢
  simp only at h ⊢
  split
  · next hquit =>
      rw [if_pos hquit] at h
      obtain rfl := Option.some.inj h
      cases hsaved
  · next hquit =>
      rw [if_neg hquit] at h
      split
      · exact saves_requestSave rfl
      · next hname =>
          rw [if_neg hname] at h
          cases h

/-- In any mode, a key asks for a document to be written only by saving. -/
theorem saves_handleKey {event : KeyEvent} (h : (editor.handleKey event).1 = some asked)
    (hsaved : asked.saved? = some saved) : Saves editor.loader (editor.handleKey event) := by
  unfold handleKey at h ⊢
  cases hmode : editor.mode with
  | editing =>
      rw [hmode] at h
      cases h
  | find =>
      rw [hmode] at h
      cases h
  | command =>
      rw [hmode] at h
      exact saves_commandKey h hsaved
  | savePrompt =>
      rw [hmode] at h
      exact saves_savePromptKey h
  | quitPrompt =>
      rw [hmode] at h
      exact saves_quitPromptKey h hsaved

/-- An outcome that is a request comes from that request. -/
theorem eq_some_of_ofRequest? {asked? : Option Request}
    (h : Outcome.ofRequest? asked? = .request asked) : asked? = some asked := by
  cases asked? with
  | none => cases h
  | some other => exact congrArg some (Outcome.request.inj h)

/-- Every request to save comes from saving an editor with the same loader. -/
theorem saves_perform {operation : Operation}
    (h : (editor.perform operation).1 = .request asked) (hsaved : asked.saved? = some saved) :
    Saves editor.loader (some asked, (editor.perform operation).2) := by
  cases operation with
  | key event =>
      have hasked := eq_some_of_ofRequest? h
      obtain ⟨saving, quitAfter, hloader, hsave⟩ := saves_handleKey hasked hsaved
      exact ⟨saving, quitAfter, hloader, hsave.trans (Prod.ext hasked rfl)⟩
  | executeLine line =>
      have hasked := eq_some_of_ofRequest? h
      obtain ⟨saving, quitAfter, hloader, hsave⟩ := saves_executeLine hasked hsaved
      exact ⟨saving, quitAfter, hloader, hsave.trans (Prod.ext hasked rfl)⟩
  | _ => exact absurd h (perform_ne_request editor id asked)

/-- What asks something of the host leaves the document with the source that it came from. -/
theorem originAfter_of_request {operation : Operation} {origin : Option LineSource}
    (h : (editor.perform operation).1 = .request asked) :
    editor.originAfter origin operation = origin := by
  cases operation with
  | loadText text => cases h
  | openStream source =>
      simp only [perform] at h
      split at h
      · cases h
      · cases h
  | _ => rfl

/-! ## What is read when a document is saved -/

/-- After one line the stream fails. The first try to save reads on and is refused; the second finds
nothing left to be read and saves the one line. -/
theorem saved_cut_off :
    let source := LineSource.scripted [.ok ⟨["a".toList], false⟩, .error "gone"]
    let save := Operation.executeLine "save".toList
    let tried := (new (Settings.usual.withChunks 1 0)).performAll
      [.openStream source, .setFileName "o.txt".toList, save]
    let saved := tried.2.perform save
    tried.1 = [.loaded 1, .nothing, .nothing] ∧
      saved.1 = .request (.save ⟨"o.txt".toList, "a".toList, .usual⟩) ∧
      ∃ loader, saved.2.loader = some loader ∧ ¬loader.ReadWhole := by
  intro source save tried saved
  refine ⟨by decide, by decide, _, rfl, fun hwhole => ?_⟩
  exact absurd hwhole.1 (by decide)

/-- Once reading to the end has succeeded, all of a source is read unless reading had failed before,
provided that no lines at all came only with the end of the source. -/
theorem readWhole_iff_of_finishLoading {source : LineSource} {before loader : Loader}
    (hfinish : editor.finishLoading = (.ok (), after)) (hbefore : editor.loader = some before)
    (hloader : after.loader = some loader) (hreads : loader.Reads source)
    (hlines : ∀ batch, .ok batch ∈ loader.answers → batch.lines = [] → batch.atEnd = true) :
    loader.ReadWhole ↔ before.hasFailed = false := by
  have hrest := loadsRest_finishLoading editor
  rw [hfinish] at hrest
  obtain ⟨hdone, hfailed⟩ := hrest.hasFailed_eq rfl
  have hstopped : loader.isFinished = true := by
    rw [unfinished?, hloader] at hdone
    simpa [Option.filter] using hdone
  rw [hloader, hbefore] at hfailed
  rw [hreads.readWhole_iff hstopped hlines, Option.some.inj hfailed]

/-- Whenever a document that comes from a stream is saved, all of the stream has been read, and no
read of it has failed, just when no read had failed before. -/
theorem readWhole_saved_iff (settings : Settings) (operations : List Operation)
    {operation : Operation} {source : LineSource}
    (horigin : (new settings).originAfterAll none operations = some source)
    (hasked : (((new settings).performAll operations).2.perform operation).1 = .request asked)
    (hsaved : asked.saved? = some saved) :
    let editor := ((new settings).performAll operations).2
    let after := (editor.perform operation).2
    ∃ before loader : Loader, editor.loader = some before ∧ after.loader = some loader ∧
      before.Reads source ∧ loader.Reads source ∧ saved.contents = after.buffer.serialize ∧
      ((∀ batch, .ok batch ∈ loader.answers → batch.lines = [] → batch.atEnd = true) →
        (loader.ReadWhole ↔ before.hasFailed = false)) := by
  have hsound := (sound_new settings).performAll operations
  have hafter := hsound.perform operation
  -- what asks for something neither opens a stream nor loads a text
  rw [originAfter_of_request hasked, horigin] at hafter
  rw [horigin] at hsound
  obtain ⟨before, hbefore, hread⟩ := hsound.loader.exists_loader
  obtain ⟨loader, hloader, hreads⟩ := hafter.loader.exists_loader
  obtain ⟨saving, quitAfter, hsame, hrequest⟩ := saves_perform hasked hsaved
  obtain ⟨hfinish, path, -, hcontents⟩ := finishLoading_of_requestSave hrequest
  refine ⟨before, loader, hbefore, hloader, hread, hreads, ?_, fun hlines => ?_⟩
  · rw [hcontents] at hsaved
    rw [← Option.some.inj hsaved]
  · exact readWhole_iff_of_finishLoading hfinish (hsame.trans hbefore) hloader hreads hlines

/-- A stream of two lines, opened with the first of them, is read whole when it is saved. -/
theorem readWhole_saved_two_lines :
    let source := LineSource.scripted [.ok ⟨["a".toList], false⟩, .ok ⟨["b".toList], true⟩]
    let settings := Settings.usual.withChunks 1 0
    let opened := [Operation.openStream source, .setFileName "o.txt".toList]
    let saved := ((new settings).performAll opened).2.perform (.executeLine "save".toList)
    (new settings).originAfterAll none opened = some source ∧
      saved.1 = .request (.save ⟨"o.txt".toList, "a\nb".toList, .usual⟩) ∧
      ∃ loader, saved.2.loader = some loader ∧ loader.Reads source ∧ loader.ReadWhole := by
  intro source settings opened saved
  have horigin : (new settings).originAfterAll none opened = some source := rfl
  have hasked : saved.1 = .request (.save ⟨"o.txt".toList, "a\nb".toList, .usual⟩) := by decide
  obtain ⟨before, loader, hbefore, hloader, -, hreads, -, hwhole⟩ :=
    readWhole_saved_iff settings opened horigin hasked rfl
  have hgone : before.hasFailed = false := by
    rw [← Option.some.inj hbefore]
    decide
  have hanswers : loader.answers = [.ok ⟨["a".toList], false⟩, .ok ⟨["b".toList], true⟩] := by
    rw [← Option.some.inj hloader]
    rfl
  refine ⟨horigin, hasked, loader, hloader, hreads, (hwhole ?_).2 hgone⟩
  intro batch hmem hempty
  rw [hanswers] at hmem
  simp only [List.mem_cons, Except.ok.injEq, List.not_mem_nil, or_false] at hmem
  rcases hmem with rfl | rfl
  · cases hempty
  · rfl

end Editor

end TextEditor
