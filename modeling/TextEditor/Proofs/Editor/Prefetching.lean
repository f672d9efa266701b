import TextEditor.Proofs.Editor.Failing
import TextEditor.Proofs.Editor.Settling
import TextEditor.Proofs.Editor.Sound
import TextEditor.Proofs.Stream.Forthcoming

/-!
# Reading ahead of the cursor

While lines of a stream are still to be read, the cursor's line and the margin after it are loaded.
An operation either leaves cursor and loaded lines where they are, reads the stream to its end, or
ends by moving the cursor; and to move it is to read on, as far as the stream has lines, until the
place where it goes to is loaded with the margin after it. All this takes a source that brings at
least one line when it is asked for lines, unless it is at its end or fails.

Main statements: `LoadsTowards.hasLoaded`, where reading towards a line ends;
`prefetches_moveCursor`, one lemma for each operation, `Prefetches.perform` and
`ReadsAhead.performAll`; and `prefetched_performAll`.
-/

namespace TextEditor

namespace Editor

variable {editor before after : Editor} {loader : Loader} {line : Nat}

/-! ## Reading to the end -/

/-- Reading to the end leaves nothing to be read. -/
theorem LoadsRest.unfinished?_eq_none {outcome : Except EditorError Unit × Editor}
    (h : LoadsRest editor outcome) : outcome.2.unfinished? = none := by
  induction h with
  | finished hloader => exact hloader
  | more _ _ _ ih => exact ih
  | ended => rfl
  | @failed editor loader n error _ hresult =>
      have hfailed : (loader.load editor.buffer (.more n)).result = .error error := hresult
      obtain ⟨_, _, -, -, -, hload⟩ := Loader.load_of_error hfailed
      have hmore : loader.appendMore editor.buffer n = _ := hload
      rw [hmore]
      rfl

/-! ## What an editor reads ahead -/

/-- The stream of an editor, and how many lines of it are read at a time. -/
def supply (editor : Editor) : Option Loader × Nat := (editor.loader, editor.settings.chunkLines)

/-- An editor reads lines in chunks that are not empty, and gets some each time until its stream is
at its end or fails. -/
structure Supplied (editor : Editor) : Prop where
  chunk_pos : 1 ≤ editor.settings.chunkLines
  forthcoming : ∀ loader, editor.loader = some loader → loader.Forthcoming

/-- Whether lines are supplied depends on the stream and the chunks only. -/
theorem Supplied.congr (h : before.Supplied) (hsame : after.supply = before.supply) :
    after.Supplied := by
  have hloader : after.loader = before.loader := congrArg Prod.fst hsame
  have hchunk : after.settings.chunkLines = before.settings.chunkLines := congrArg Prod.snd hsame
  exact ⟨hchunk ▸ h.chunk_pos, hloader ▸ h.forthcoming⟩

/-- An editor without a source left to read needs no supply. -/
theorem supplied_of_unfinished?_eq_none (hchunk : 1 ≤ editor.settings.chunkLines)
    (hnone : editor.unfinished? = none) : editor.Supplied := by
  refine ⟨hchunk, fun loader hloader => Loader.forthcoming_of_isFinished ?_⟩
  rw [unfinished?, hloader, Option.filter_eq_none_iff] at hnone
  simpa using hnone loader rfl

/-- A supply goes on after lines have been read from it. -/
theorem Supplied.absorb (h : editor.Supplied) (hloader : editor.unfinished? = some loader) :
    (editor.absorb
      (loader.appendMore editor.buffer editor.settings.chunkLines)).Supplied := by
  refine ⟨h.chunk_pos, fun next hnext => ?_⟩
  rw [← Option.some.inj hnext, Loader.loader_appendMore]
  exact (h.forthcoming loader (loader_of_unfinished? hloader).1).read h.chunk_pos

/-- A supply goes on after any number of reads towards a line. -/
theorem LoadsTowards.supplied (h : LoadsTowards line editor after) (hsupplied : editor.Supplied) :
    after.Supplied := by
  induction h with
  | loaded | finished => exact hsupplied
  | more _ hloader _ _ ih => exact ih (hsupplied.absorb hloader)
  | stopped _ hloader _ => exact hsupplied.absorb hloader

/-- Reading towards a line does not stop before the line and the margin after it are loaded, but at
the end of the stream. -/
theorem LoadsTowards.hasLoaded (h : LoadsTowards line editor after) (hsupplied : editor.Supplied)
    (hstreaming : after.isStreaming = true) : after.hasLoaded line = true := by
  induction h with
  | loaded h => exact h
  | finished hnone =>
      rw [isStreaming, hnone] at hstreaming
      cases hstreaming
  | more _ hloader _ _ ih => exact ih (hsupplied.absorb hloader) hstreaming
  | @stopped editor loader _ hloader hresult =>
      have hforthcoming := hsupplied.forthcoming loader (loader_of_unfinished? hloader).1
      have hend := hforthcoming.isFinished_appendMore hsupplied.chunk_pos hresult
      have hnone : (editor.absorb
          (loader.appendMore editor.buffer editor.settings.chunkLines)).unfinished? = none := by
        rw [unfinished?, Option.filter_eq_none_iff]
        intro next hnext
        rw [← Option.some.inj hnext, hend]
        exact nofun
      rw [isStreaming, hnone] at hstreaming
      cases hstreaming

/-- Reading towards a line leaves the editor supplied. -/
theorem Supplied.ensureLoaded (h : editor.Supplied) (line : Nat) :
    (editor.ensureLoaded line).Supplied := (loadsTowards_ensureLoaded editor line).supplied h

/-- While lines are still to be read, the cursor's line and the margin after it are loaded. -/
structure Prefetches (editor : Editor) : Prop extends Supplied editor where
  ahead : editor.isStreaming = true → editor.hasLoaded editor.cursor.line = true

/-- What is loaded up to the margin after a line is so for every line before it. -/
theorem hasLoaded_of_le {first : Nat} (h : editor.hasLoaded line = true) (hle : first ≤ line) :
    editor.hasLoaded first = true := by
  unfold hasLoaded addCapped at h ⊢
  rw [decide_eq_true_eq] at h ⊢
  omega

/-- What of an editor has to do with reading ahead. -/
def standing (editor : Editor) : (Option Loader × Nat) × Nat × Nat × Nat :=
  (editor.supply, editor.settings.prefetchMargin, editor.cursor.line, editor.buffer.length)

/-- Whether an editor has read ahead depends on no more than its supply, its margin, and the numbers
of its cursor's line and of its lines. -/
theorem Prefetches.congr (h : before.Prefetches) (hsame : after.standing = before.standing) :
    after.Prefetches := by
  simp only [standing, Prod.mk.injEq] at hsame
  obtain ⟨hsupply, hmargin, hline, hlength⟩ := hsame
  refine ⟨h.toSupplied.congr hsupply, ?_⟩
  have hloader : after.loader = before.loader := congrArg Prod.fst hsupply
  have hahead := h.ahead
  rwa [isStreaming, unfinished?, hasLoaded, ← hloader, ← hmargin, ← hline, ← hlength] at hahead

/-- An editor without a source left to read has nothing to read ahead. -/
theorem prefetches_of_unfinished?_eq_none (hchunk : 1 ≤ editor.settings.chunkLines)
    (hnone : editor.unfinished? = none) : editor.Prefetches := by
  refine ⟨supplied_of_unfinished?_eq_none hchunk hnone, fun hstreaming => ?_⟩
  rw [isStreaming, hnone] at hstreaming
  cases hstreaming

/-- Reading to the end leaves nothing to read ahead, whether it succeeds or not. -/
theorem prefetches_finishLoading (hchunk : 1 ≤ editor.settings.chunkLines) :
    editor.finishLoading.2.Prefetches := by
  apply prefetches_of_unfinished?_eq_none
  · rw [editor.stays_finishLoading.settings_eq]
    exact hchunk
  · exact (loadsRest_finishLoading editor).unfinished?_eq_none

/-! ## Placing the cursor -/

/-- Moving the cursor reads as far as its line and the margin after it. -/
theorem prefetches_moveCursor (h : editor.Supplied) (line column : Nat) :
    (editor.moveCursor line column).Prefetches := by
  refine ⟨(h.ensureLoaded line).congr rfl, fun hstreaming => ?_⟩
  have hloaded : (editor.moveCursor line column).hasLoaded line = true :=
    (loadsTowards_ensureLoaded editor line).hasLoaded h hstreaming
  apply hasLoaded_of_le hloaded
  -- the cursor is on that line, or on the last if there is no such line
  exact Nat.min_le_left ..

/-- A jump reads ahead of where it goes, however little was loaded before. -/
theorem prefetches_jumpTo (h : editor.Supplied) (line column : Nat) :
    (editor.jumpTo line column).Prefetches := by
  apply prefetches_moveCursor
  exact h.congr rfl

/-- An edit ends with a jump, so that it reads ahead. -/
theorem prefetches_afterEdit (h : editor.Supplied) (buffer : LineBuffer) (line column : Nat) :
    (editor.afterEdit buffer line column).Prefetches := by
  apply prefetches_jumpTo
  exact h.congr rfl

/-! ## Typing -/

/-- To insert a text reads ahead of where the text ends. -/
theorem Prefetches.insertText (h : editor.Prefetches) (text : Text) :
    (editor.insertText text).Prefetches := by
  unfold Editor.insertText
  split
  · exact h
  · exact prefetches_afterEdit h.toSupplied ..

/-- To split a line reads ahead of the new one. -/
theorem prefetches_splitLine (h : editor.Supplied) : editor.splitLine.Prefetches := by
  unfold splitLine
  simp only
  split
  · exact prefetches_afterEdit h ..
  · exact prefetches_afterEdit h ..

/-- A character that is put in ends with a jump, so that lines are read ahead. -/
theorem prefetches_typeAt (h : editor.Supplied) (column : Nat) (c : Char) :
    (editor.typeAt column c).Prefetches := by
  unfold typeAt
  simp only
  split
  · exact prefetches_afterEdit h ..
  · exact prefetches_afterEdit h ..
  · exact prefetches_jumpTo h ..

/-- To type a character reads ahead, also if the cursor only steps over what stands there. -/
theorem prefetches_insertChar (h : editor.Supplied) (c : Char) :
    (editor.insertChar c).Prefetches := by
  unfold insertChar
  split
  · exact prefetches_splitLine h
  · split
    · apply prefetches_typeAt
      exact h.congr rfl
    · exact prefetches_typeAt h _ c

/-- To delete backwards reads ahead, or leaves cursor and lines. -/
theorem Prefetches.backspace (h : editor.Prefetches) : editor.backspace.Prefetches := by
  unfold Editor.backspace
  simp only
  split
  · split
    · exact h
    · split
      · exact prefetches_afterEdit h.toSupplied ..
      · exact h
  · split
    · exact prefetches_afterEdit h.toSupplied ..
    · exact prefetches_afterEdit h.toSupplied ..

/-- To delete forwards reads ahead, or leaves cursor and lines. -/
theorem Prefetches.deleteForward (h : editor.Prefetches) : editor.deleteForward.Prefetches := by
  unfold Editor.deleteForward
  simp only
  split
  · exact prefetches_afterEdit h.toSupplied ..
  · split
    · exact prefetches_afterEdit h.toSupplied ..
    · exact h

/-! ## Moving -/

/-- A move to the left reads ahead, or stays at the start of the document. -/
theorem Prefetches.moveLeft (h : editor.Prefetches) : editor.moveLeft.Prefetches := by
  unfold Editor.moveLeft
  simp only
  split
  · exact prefetches_jumpTo h.toSupplied ..
  · split
    · exact prefetches_jumpTo h.toSupplied ..
    · exact h.congr rfl

/-- A move to the right reads ahead, or stays at the end of what is loaded. -/
theorem Prefetches.moveRight (h : editor.Prefetches) : editor.moveRight.Prefetches := by
  unfold Editor.moveRight
  simp only
  split
  · exact prefetches_jumpTo h.toSupplied ..
  · split
    · exact prefetches_jumpTo h.toSupplied ..
    · exact h.congr rfl

/-- A vertical move reads ahead of the line that it goes to. -/
theorem prefetches_moveVertically (h : editor.Supplied) (line : Nat) :
    (editor.moveVertically line).Prefetches := by
  apply prefetches_moveCursor
  apply Supplied.ensureLoaded
  exact h.congr rfl

/-- A move up reads ahead, or stays on the first line. -/
theorem Prefetches.moveUp (h : editor.Prefetches) : editor.moveUp.Prefetches := by
  unfold Editor.moveUp
  split
  · exact prefetches_moveVertically h.toSupplied _
  · exact h

/-- A move down reads ahead, also if it stays on the last line. -/
theorem Prefetches.moveDown (h : editor.Prefetches) : editor.moveDown.Prefetches := by
  have hloaded := h.toSupplied.ensureLoaded (editor.cursor.line + 1)
  unfold Editor.moveDown
  simp only
  split
  · exact prefetches_moveVertically hloaded _
  · -- the cursor stays, but more may have been loaded for the line after it
    refine ⟨hloaded, fun hstreaming => ?_⟩
    have hnext := (loadsTowards_ensureLoaded editor (editor.cursor.line + 1)).hasLoaded
      h.toSupplied hstreaming
    apply hasLoaded_of_le hnext
    rw [(editor.stays_ensureLoaded _).cursor]
    exact Nat.le_succ _

/-! ## The document as a whole -/

/-- Another grammar changes nothing that reading ahead depends on. -/
theorem Prefetches.selectGrammar (h : editor.Prefetches) (language : Language) :
    (editor.selectGrammar language).Prefetches := by
  unfold Editor.selectGrammar
  split
  · exact h
  · exact h.congr rfl

/-- A grammar asked for by its name changes nothing that reading ahead depends on. -/
theorem Prefetches.selectGrammarById (h : editor.Prefetches) (id : Text) :
    (editor.selectGrammarById id).2.Prefetches := by
  unfold Editor.selectGrammarById
  split
  · exact h.selectGrammar _
  · exact h

/-- Another file name changes nothing that reading ahead depends on. -/
theorem Prefetches.setFileName (h : editor.Prefetches) (path : Text) :
    (editor.setFileName path).Prefetches := (h.selectGrammar (.ofPath path)).congr rfl

/-- Without a stream nothing can be read ahead. -/
theorem prefetches_loadText (hchunk : 1 ≤ editor.settings.chunkLines) (text : Text) :
    (editor.loadText text).Prefetches := by
  apply prefetches_jumpTo
  exact ⟨hchunk, fun _ hnone => nomatch hnone⟩

/-- A stream that is opened is read ahead of its first line, if its source brings lines. -/
theorem prefetches_openStream (hchunk : 1 ≤ editor.settings.chunkLines) {source : LineSource}
    (hsource : source.Forthcoming) {count : Nat}
    (hopen : (editor.openStream source).1 = .ok count) :
    (editor.openStream source).2.Prefetches := by
  have hloader : ((Loader.new source).loadInitial editor.buffer
      editor.settings.chunkLines).loader.Forthcoming := by
    rw [Loader.loader_loadInitial]
    refine Loader.Forthcoming.read (fun rest hrest => ?_) hchunk
    rwa [← Option.some.inj hrest]
  unfold Editor.openStream at hopen ⊢
  simp only at hopen ⊢
  split at hopen
  · apply prefetches_jumpTo
    refine ⟨hchunk, fun loader hkept => ?_⟩
    rwa [← Option.some.inj hkept]
  · cases hopen

/-- Diagnostics lead to a jump, or change nothing that reading ahead depends on. -/
theorem Prefetches.setDiagnostics (h : editor.Prefetches) (diagnostics : List Diagnostic) :
    (editor.setDiagnostics diagnostics).Prefetches := by
  unfold Editor.setDiagnostics
  simp only
  split
  · apply prefetches_jumpTo
    exact h.toSupplied.congr rfl
  · exact h.congr rfl

/-! ## Commands -/

/-- To save reads to the end, or does nothing for want of a name. -/
theorem Prefetches.requestSave (h : editor.Prefetches) (quitAfter : Bool) :
    (editor.requestSave quitAfter).2.Prefetches := by
  have hloaded := prefetches_finishLoading h.chunk_pos
  unfold Editor.requestSave
  split
  · exact h
  · split
    · next heq =>
        rw [heq] at hloaded
        exact hloaded
    · next heq =>
        rw [heq] at hloaded
        exact hloaded

/-- To go to a line reads ahead of it. -/
theorem prefetches_goto (h : editor.Supplied) (line : Nat) (column : Option Nat) :
    (editor.goto line column).Prefetches := by
  unfold goto
  simp only
  split
  · exact prefetches_jumpTo (h.ensureLoaded _) ..
  · exact prefetches_jumpTo h ..

/-- To format reads to the end before anything else. -/
theorem prefetches_formatWith (hchunk : 1 ≤ editor.settings.chunkLines) (formatter : Formatter) :
    (editor.formatWith formatter).2.Prefetches := by
  have hloaded := prefetches_finishLoading hchunk
  unfold formatWith
  split
  · next heq =>
      rw [heq] at hloaded
      exact hloaded
  · next loaded heq =>
      rw [heq] at hloaded
      split
      · apply prefetches_moveCursor
        exact hloaded.toSupplied.congr rfl
      · exact hloaded.congr rfl

/-- The command to format reads to the end, or leaves cursor and lines. -/
theorem Prefetches.format (h : editor.Prefetches) : editor.format.Prefetches := by
  unfold Editor.format
  split
  · split
    · exact prefetches_formatWith h.chunk_pos _
    · exact h.congr rfl
  · exact h.congr rfl

/-- Every command leaves lines read ahead. -/
theorem Prefetches.execute (h : editor.Prefetches) (command : Command) :
    (editor.execute command).2.Prefetches := by
  cases command with
  | quit =>
      simp only [Editor.execute]
      split
      · exact h.congr rfl
      · exact h
  | save path =>
      cases path with
      | some path => exact (h.setFileName path).requestSave false
      | none =>
          apply Prefetches.requestSave
          split
          · exact h.congr rfl
          · exact h
  | goto line column => exact prefetches_goto h.toSupplied line column
  | setEncoding encoding => exact h.congr rfl
  | format => exact h.format
  | test => exact h

/-- Every line at the prompt for commands leaves lines read ahead, whether it gives a command or
not. -/
theorem Prefetches.executeLine (h : editor.Prefetches) (line : Text) :
    (editor.executeLine line).2.Prefetches := by
  unfold Editor.executeLine
  split
  · exact h
  · apply Prefetches.execute
    exact h.congr rfl
  · exact h.congr rfl

/-! ## Keys -/

/-- A search goes to a result by a jump, or stays. -/
theorem Prefetches.gotoResult (h : editor.Prefetches) : editor.gotoResult.Prefetches := by
  unfold Editor.gotoResult
  split
  · exact h
  · exact prefetches_jumpTo h.toSupplied ..

/-- Every key leaves lines read ahead while the document is edited. -/
theorem Prefetches.editingKey (h : editor.Prefetches) (event : KeyEvent) :
    (editor.editingKey event).Prefetches := by
  unfold Editor.editingKey
  split
  · exact h.congr rfl
  · split
    · exact h.congr rfl
    · split
      · split
        · exact prefetches_jumpTo h.toSupplied ..
        · exact h.moveLeft
      · split
        · exact prefetches_jumpTo h.toSupplied ..
        · exact h.moveRight
      · exact h.moveUp
      · exact h.moveDown
      · exact prefetches_jumpTo h.toSupplied ..
      · exact prefetches_jumpTo h.toSupplied ..
      · exact prefetches_moveVertically h.toSupplied _
      · exact prefetches_moveVertically h.toSupplied _
      · exact prefetches_splitLine h.toSupplied
      · exact h.backspace
      · exact h.deleteForward
      · exact h.insertText _
      · split
        · exact prefetches_insertChar h.toSupplied _
        · exact h
      · split
        · exact prefetches_insertChar h.toSupplied _
        · exact h

/-- A key at a prompt for commands changes nothing that reading ahead depends on. -/
theorem Prefetches.promptKey (h : editor.Prefetches) (event : KeyEvent) :
    (editor.promptKey event).Prefetches := by
  unfold Editor.promptKey
  split
  · exact h.congr rfl
  · exact h.congr rfl

/-- A key at that prompt that gives a command does what the command does. -/
theorem Prefetches.commandKey (h : editor.Prefetches) (event : KeyEvent) :
    (editor.commandKey event).2.Prefetches := by
  unfold Editor.commandKey
  split
  · exact h.congr rfl
  · apply Prefetches.executeLine
    exact h.congr rfl
  · exact h.promptKey event

/-- Every key of a search leaves lines read ahead. -/
theorem Prefetches.findKey (h : editor.Prefetches) (event : KeyEvent) :
    (editor.findKey event).Prefetches := by
  have hsearch (search : LineSearch) : { editor with search := search }.gotoResult.Prefetches := by
    apply Prefetches.gotoResult
    exact h.congr rfl
  unfold Editor.findKey
  split
  · exact h.congr rfl
  · exact h.congr rfl
  · exact hsearch _
  · exact hsearch _
  · exact hsearch _
  · exact hsearch _
  · exact hsearch _
  · split
    · exact hsearch _
    · exact h

/-- A key at the prompt for a file name saves, or changes nothing that reading ahead depends on. -/
theorem Prefetches.savePromptKey (h : editor.Prefetches) (event : KeyEvent) :
    (editor.savePromptKey event).2.Prefetches := by
  unfold Editor.savePromptKey
  split
  · exact h.congr rfl
  · simp only
    split
    · exact h.congr rfl
    · apply Prefetches.requestSave
      apply Prefetches.setFileName
      exact h.congr rfl
  · exact h.promptKey event

/-- A key that answers the question before quitting saves, or changes nothing that reading ahead
depends on. -/
theorem Prefetches.quitPromptKey (h : editor.Prefetches) (event : KeyEvent) :
    (editor.quitPromptKey event).2.Prefetches := by
  unfold Editor.quitPromptKey
  simp only
  split
  · exact h.congr rfl
  · split
    · apply Prefetches.requestSave
      exact h.congr rfl
    · exact h.congr rfl

/-- Every key leaves lines read ahead, in any mode. -/
theorem Prefetches.handleKey (h : editor.Prefetches) (event : KeyEvent) :
    (editor.handleKey event).2.Prefetches := by
  unfold Editor.handleKey
  split
  · exact h.editingKey event
  · exact h.commandKey event
  · exact h.findKey event
  · exact h.savePromptKey event
  · exact h.quitPromptKey event

/-! ## Runs -/

/-- Every operation but opening another stream reads ahead as before. -/
theorem Prefetches.perform (h : editor.Prefetches) {operation : Operation}
    (hopen : ∀ source, operation ≠ .openStream source) :
    (editor.perform operation).2.Prefetches := by
  cases operation with
  | key event => exact h.handleKey event
  | executeLine line => exact h.executeLine line
  | selectGrammar language => exact h.selectGrammar language
  | selectGrammarById id => exact h.selectGrammarById id
  | setFileName path => exact h.setFileName path
  | loadText text => exact prefetches_loadText h.chunk_pos text
  | openStream source => exact absurd rfl (hopen source)
  | finishLoading => exact prefetches_finishLoading h.chunk_pos
  | resize width height => exact h.congr rfl
  | goto line column => exact prefetches_goto h.toSupplied line column
  | markSaved => exact h.congr rfl
  | setStatus message => exact h.congr rfl
  | clearStatus => exact h.congr rfl
  | setDiagnostics diagnostics => exact h.setDiagnostics diagnostics
  | setFormatter formatter => exact h.congr rfl
  | formatWith formatter => exact prefetches_formatWith h.chunk_pos formatter
  | insertChar c => exact prefetches_insertChar h.toSupplied c
  | insertText text => exact h.insertText text
  | insertTab => exact h.insertText ['\t']
  | backspace => exact h.backspace
  | deleteForward => exact h.deleteForward
  | splitLine => exact prefetches_splitLine h.toSupplied
  | moveLeft => exact h.moveLeft
  | moveRight => exact h.moveRight
  | moveUp => exact h.moveUp
  | moveDown => exact h.moveDown
  | pageUp => exact prefetches_moveVertically h.toSupplied _
  | pageDown => exact prefetches_moveVertically h.toSupplied _
  | moveHome => exact prefetches_jumpTo h.toSupplied ..
  | moveEnd => exact prefetches_jumpTo h.toSupplied ..
  | moveWordLeft => exact prefetches_jumpTo h.toSupplied ..
  | moveWordRight => exact prefetches_jumpTo h.toSupplied ..

/-- An editor reads ahead in chunks that are not empty, provided that the source that its document
comes from brings lines. -/
structure ReadsAhead (editor : Editor) (origin : Option LineSource) : Prop where
  chunk_pos : 1 ≤ editor.settings.chunkLines
  prefetches : (∀ source, origin = some source → source.Forthcoming) → editor.Prefetches

/-- No operation changes the size of the chunks. -/
theorem chunkLines_perform (editor : Editor) (operation : Operation) :
    (editor.perform operation).2.settings.chunkLines = editor.settings.chunkLines := by
  obtain ⟨width, height, hsettings⟩ := settings_perform editor operation
  rw [hsettings]
  rfl

/-- What was read before a stream is opened does not matter to reading ahead in it. -/
theorem ReadsAhead.perform {origin : Option LineSource} (h : editor.ReadsAhead origin)
    (operation : Operation) :
    (editor.perform operation).2.ReadsAhead (editor.originAfter origin operation) := by
  refine ⟨by rw [chunkLines_perform]; exact h.chunk_pos, fun hforthcoming => ?_⟩
  cases operation with
  | loadText text => exact prefetches_loadText h.chunk_pos text
  | openStream source =>
      simp only [originAfter] at hforthcoming
      simp only [Editor.perform]
      rcases hopen : editor.openStream source with ⟨result, opened⟩
      rw [hopen] at hforthcoming
      cases result with
      | ok count =>
          have hahead := prefetches_openStream h.chunk_pos (hforthcoming source rfl)
            (congrArg Prod.fst hopen)
          rwa [hopen] at hahead
      | error error =>
          have hkept := (openStream_of_error (congrArg Prod.fst hopen)).2
          rw [hopen] at hkept
          subst hkept
          exact (h.prefetches hforthcoming).congr rfl
  | _ =>
      apply (h.prefetches hforthcoming).perform
      intro source hopened
      cases hopened

/-- Lines are read ahead throughout a run, as long as the sources that are opened bring lines. -/
theorem ReadsAhead.performAll {origin : Option LineSource} (h : editor.ReadsAhead origin)
    (operations : List Operation) :
    (editor.performAll operations).2.ReadsAhead (editor.originAfterAll origin operations) := by
  induction operations generalizing editor origin with
  | nil => exact h
  | cons operation operations ih => exact ih (h.perform operation)

/-- A new editor has no stream to read ahead in. -/
theorem readsAhead_new {settings : Settings} (hchunk : 1 ≤ settings.chunkLines) :
    (new settings).ReadsAhead none :=
  ⟨hchunk, fun _ => ⟨⟨hchunk, nofun⟩, nofun⟩⟩

/-- The stream of an editor is read ahead of its cursor. Whatever has been done with a new editor
that reads in chunks of at least one line, as long as the source that the document comes from brings
lines: while lines are still to be read, the cursor's line and the margin after it are loaded. And
in whatever state lines are read from such a source, reading ends; reading towards a line leaves the
source unfinished only if the line and the margin after it are loaded, and reading to the end does
not. -/
theorem prefetched_performAll {settings : Settings} (hchunk : 1 ≤ settings.chunkLines)
    {operations : List Operation}
    (hsource : ∀ source, (new settings).originAfterAll none operations = some source →
      source.Forthcoming) :
    let editor := ((new settings).performAll operations).2
    (editor.isStreaming = true → editor.hasLoaded editor.cursor.line = true ∧
      (editor.buffer.length ≤ maxOffset →
        editor.cursor.line + editor.settings.prefetchMargin < editor.buffer.length)) ∧
    editor.Supplied ∧
    ∀ busy : Editor, busy.Supplied →
      (∀ line, LoadsTowards line busy (busy.ensureLoaded line) ∧
        (busy.ensureLoaded line).Supplied ∧
        ((busy.ensureLoaded line).isStreaming = true →
          (busy.ensureLoaded line).hasLoaded line = true)) ∧
      LoadsRest busy busy.finishLoading ∧ busy.finishLoading.2.isStreaming = false := by
  intro editor
  have hahead : editor.Prefetches :=
    ((readsAhead_new hchunk).performAll operations).prefetches hsource
  refine ⟨fun hstreaming => ⟨hahead.ahead hstreaming, fun hlength => ?_⟩, hahead.toSupplied,
    fun busy hbusy => ⟨fun line => ?_, loadsRest_finishLoading busy, ?_⟩⟩
  · have hloaded := hahead.ahead hstreaming
    rw [hasLoaded, decide_eq_true_eq, addCapped] at hloaded
    omega
  · have htowards := loadsTowards_ensureLoaded busy line
    exact ⟨htowards, htowards.supplied hbusy, htowards.hasLoaded hbusy⟩
  · rw [isStreaming, (loadsRest_finishLoading busy).unfinished?_eq_none]
    rfl

/-- A stream of six lines is opened with one of them and a margin of one. Two lines are joined at
the cursor and the cursor goes down: the line after it is loaded, and others are still to come. -/
theorem prefetched_performAll_joined :
    let reader : ByteReader := ⟨[], [[97, 10, 98, 10, 99], [10, 100, 10, 101, 10, 102]], none⟩
    let settings := Settings.usual.withChunks 1 1
    let operations : List Operation := [.openStream (.reader reader), .moveEnd,
      .key (.plain .delete), .key (.plain .down)]
    let editor := ((new settings).performAll operations).2
    1 ≤ settings.chunkLines ∧ (LineSource.reader reader).Forthcoming ∧
      editor.isStreaming = true ∧ editor.buffer.lines = [['a', 'b'], ['c'], ['d']] ∧
      editor.cursor.line + editor.settings.prefetchMargin < editor.buffer.length ∧
      ((editor.ensureLoaded 2).isStreaming = true →
        (editor.ensureLoaded 2).hasLoaded 2 = true) := by
  intro reader settings operations editor
  have hchunk : 1 ≤ settings.chunkLines := Nat.le_refl 1
  have hforthcoming := LineSource.forthcoming_reader reader
  have hsource : ∀ source, (new settings).originAfterAll none operations = some source →
      source.Forthcoming := by
    intro source hopened
    rw [← Option.some.inj hopened]
    exact hforthcoming
  have hstreaming : editor.isStreaming = true := by decide +kernel
  have hlines : editor.buffer.lines = [['a', 'b'], ['c'], ['d']] := by decide +kernel
  have hlength : editor.buffer.length ≤ maxOffset := by
    rw [LineBuffer.length, hlines]
    decide
  -- nothing more is computed from here on
  clear_value settings operations
  obtain ⟨hahead, hsupplied, hbusy⟩ := prefetched_performAll hchunk hsource
  exact ⟨hchunk, hforthcoming, hstreaming, hlines, (hahead hstreaming).2 hlength,
    ((hbusy editor hsupplied).1 2).2.2⟩

end Editor

end TextEditor
