import TextEditor.Proofs.Buffer.RoundTrip
import TextEditor.Proofs.Editor.Saving
import TextEditor.Proofs.Editor.Untouched
import TextEditor.Proofs.Stream.Coming

/-!
# The boundary to a formatter

Before a document is handed to a formatter its stream is read to the end; if that fails there is
nothing to hand over. A formatter is a matter of the host: it may do anything while it works, but
all that comes back is a text or an error. So formatting is put here as an action of any monad,
of which formatting by a function is one case; it asks the formatter one question or none.

Main statements: `drains_finishLoading`, what reading to the end comes to if reading may fail;
`formatWithM_eq`, when a formatter is asked and what; `formatted_conclude` and
`unformatted_conclude` for its answers; `formatWith_refitted` and `format_eq_formatTaken`, that
formatting looks past the formatter that is installed; and `formatWith_boundary`.
-/

namespace TextEditor

/-- A formatter that keeps the questions it is asked, the latest last. -/
def Formatter.recorded (formatter : Formatter) (language : Language) (text : Text) :
    StateM (List (Language × Text)) (Except EditorError Text) := do
  modify (· ++ [(language, text)])
  return formatter.reformat language text

/-- A byte reader stays one. -/
theorem LineSource.reader_after (reader : ByteReader) (requests : List Nat) :
    ∃ rest, (LineSource.reader reader).after requests = .reader rest := by
  induction requests generalizing reader with
  | nil => exact ⟨reader, rfl⟩
  | cons n requests ih =>
      rw [LineSource.after, LineSource.read]
      cases reader.readLines n with
      | ok answer => exact ih answer.2
      | error reason => exact ih reader

namespace Editor

variable {editor loaded : Editor} {loader : Loader} {error : EditorError} {text : Text}
  {outcome : Except EditorError Unit × Editor}

/-! ## Reading to the end -/

/-- The stream of an editor, if it has one, is read from bytes. -/
def ReadsBytes (editor : Editor) : Prop :=
  ∀ loader, editor.loader = some loader → loader.ReadsBytes

/-- The lines that the stream has still to bring, and why reading fails after them, if it does. -/
def coming (editor : Editor) : List Text × Option String :=
  (editor.loader.map Loader.coming).getD ([], none)

/-- What is to come to an editor is what is to come to its loader. -/
theorem coming_of_loader (h : editor.loader = some loader) : editor.coming = loader.coming := by
  rw [coming, h]
  rfl

/-- Nothing is to come once there is no source left to read. -/
theorem coming_of_unfinished?_eq_none (h : editor.unfinished? = none) :
    editor.coming = ([], none) := by
  cases hloader : editor.loader with
  | none =>
      rw [coming, hloader]
      rfl
  | some loader =>
      rw [unfinished?, hloader, Option.filter_some] at h
      rw [coming_of_loader hloader, Loader.coming_of_isFinished (by simpa using h)]

/-- Reading to the end brings the lines that are to come, all of them unless it fails, and it fails
if it has to. -/
structure Drains (editor : Editor) (outcome : Except EditorError Unit × Editor) : Prop where
  result : outcome.1 = match editor.coming.2 with
    | none => .ok ()
    | some reason => .error (.io reason)
  status : outcome.2.status = match editor.coming.2 with
    | none => editor.status
    | some reason => some (EditorError.io reason).message
  lines : ∃ read, read <+: editor.coming.1 ∧ (editor.coming.2 = none → read = editor.coming.1) ∧
    outcome.2.buffer.lines = editor.buffer.lines ++ Text.flattenLines read
  unfinished : outcome.2.unfinished? = none

/-- With a loader that is finished there is no source left to read. -/
theorem unfinished?_of_isFinished (hkept : editor.loader = some loader)
    (h : loader.isFinished = true) : editor.unfinished? = none := by
  rw [unfinished?, hkept, Option.filter_some, h]
  rfl

/-- With nothing to come, reading to the end adds nothing. -/
theorem drains_of_coming (h : editor.coming = ([], none)) (hresult : outcome.1 = .ok ())
    (hstatus : outcome.2.status = editor.status)
    (hlines : outcome.2.buffer.lines = editor.buffer.lines)
    (hdone : outcome.2.unfinished? = none) : Drains editor outcome := by
  refine ⟨?_, ?_, ⟨[], List.nil_prefix, fun _ => ?_, ?_⟩, hdone⟩
  · rw [hresult, h]
  · rw [hstatus, h]
  · rw [h]
  · rw [hlines]
    exact (List.append_nil _).symm

/-- One read that brings lines, and then reading to the end. -/
theorem Drains.of_brings {first : List Text} {n : Nat} (hkept : editor.loader = some loader)
    (hbrings : loader.Brings editor.buffer first (loader.appendMore editor.buffer n))
    (h : Drains (editor.absorb (loader.appendMore editor.buffer n)) outcome) :
    Drains editor outcome := by
  have hnext : (editor.absorb (loader.appendMore editor.buffer n)).coming =
    (loader.appendMore editor.buffer n).loader.coming := coming_of_loader rfl
  have hcoming := (coming_of_loader hkept).trans hbrings.coming
  have hsame : (editor.absorb (loader.appendMore editor.buffer n)).status = editor.status := by
    rw [absorb, hbrings.result]
  obtain ⟨hresult, hstatus, ⟨later, hlater, hall, hlines⟩, hdone⟩ := h
  rw [hnext] at hresult hstatus hlater hall
  rw [hsame] at hstatus
  refine ⟨?_, ?_, ⟨first ++ later, ?_, fun hnone => ?_, ?_⟩, hdone⟩
  · rw [hresult, hcoming]
  · rw [hstatus, hcoming]
  · rw [hcoming]
    exact (List.prefix_append_right_inj first).2 hlater
  · rw [hcoming] at hnone ⊢
    rw [hall hnone]
  · rw [hlines, absorb, hbrings.buffer, LineBuffer.lines_appendLines, List.append_assoc,
      ← Text.flattenLines_append]

/-- However many reads it takes, they bring together what was to come. -/
theorem LoadsRest.drains (h : LoadsRest editor outcome) (hreads : editor.ReadsBytes) :
    Drains editor outcome := by
  induction h with
  | finished hdone => exact drains_of_coming (coming_of_unfinished?_eq_none hdone) rfl rfl rfl hdone
  | @more editor loader n added outcome hloader hresult _ ih =>
      obtain ⟨hkept, hgoing⟩ := loader_of_unfinished? hloader
      rcases Loader.appendMore_cases (hreads loader hkept) hgoing editor.buffer n with
        ⟨_, -, hfailed, -⟩ | ⟨first, hbrings, -⟩
      · cases hresult.symm.trans hfailed
      · refine Drains.of_brings hkept hbrings (ih fun next hsome => ?_)
        rw [← Option.some.inj hsome]
        exact hbrings.readsBytes
  | @ended editor loader n hn hloader hresult =>
      obtain ⟨hkept, hgoing⟩ := loader_of_unfinished? hloader
      rcases Loader.appendMore_cases (hreads loader hkept) hgoing editor.buffer n with
        ⟨_, -, hfailed, -⟩ | ⟨first, hbrings, hnothing⟩
      · cases hresult.symm.trans hfailed
      · -- no lines for a request that asks for some
        have hnil : first = [] := (Loader.appendLines_eq_zero_iff _ _).1
          (Except.ok.inj (hbrings.result.symm.trans hresult))
        apply drains_of_coming ((coming_of_loader hkept).trans (hnothing hn hnil)) rfl
        · show (editor.absorb _).status = _
          rw [absorb, hresult]
        · show (loader.appendMore editor.buffer n).buffer.lines = _
          rw [hbrings.buffer, hnil, LineBuffer.appendLines_nil]
        · exact unfinished?_of_isFinished rfl rfl
  | @failed editor loader n error hloader hresult =>
      obtain ⟨hkept, hgoing⟩ := loader_of_unfinished? hloader
      rcases Loader.appendMore_cases (hreads loader hkept) hgoing editor.buffer n with
        ⟨reason, hfailure, hfailed, hbuffer, hclosed⟩ | ⟨_, hbrings, -⟩
      · have hcoming : editor.coming.2 = some reason := by rw [coming_of_loader hkept, hfailure]
        obtain rfl := Except.error.inj (hresult.symm.trans hfailed)
        refine ⟨?_, ?_, ⟨[], List.nil_prefix, fun hnone => ?_, ?_⟩, ?_⟩
        · rw [hcoming]
        · rw [hcoming, absorb, hresult]
        · rw [hcoming] at hnone
          cases hnone
        · rw [absorb, hbuffer]
          exact (List.append_nil _).symm
        · exact unfinished?_of_isFinished rfl hclosed
      · cases hresult.symm.trans hbrings.result

/-- What reading to the end comes to, if the stream is read from bytes. -/
theorem drains_finishLoading (hreads : editor.ReadsBytes) : Drains editor editor.finishLoading :=
  (loadsRest_finishLoading editor).drains hreads

/-! ## What reading leaves alone -/

/-- The editor but for the lines of its document, its stream, its message and the records of what
has been done. -/
def shell (editor : Editor) : Editor :=
  { editor with
    buffer := .empty editor.buffer.highlighter
    loader := none
    status := none
    journal := [] }

/-- Reading lines changes nothing but the lines, the stream and the records. -/
theorem shell_absorb (editor : Editor) (loader : Loader) (n : Nat) :
    (editor.absorb (loader.appendMore editor.buffer n)).shell = editor.shell := by
  have hhighlighter : (loader.appendMore editor.buffer n).buffer.highlighter =
      editor.buffer.highlighter := by
    rcases loader.buffer_appendMore editor.buffer n with hsame | ⟨texts, hmore⟩
    · rw [hsame]
    · rw [hmore]
      rfl
  rw [shell, absorb, hhighlighter]
  rfl

/-- Reading to the end changes nothing but the lines, the stream and the records. -/
theorem shell_finishLoading (editor : Editor) : editor.finishLoading.2.shell = editor.shell := by
  refine finishLoading_induction (P := fun after => after.shell = editor.shell) ?_ ?_ rfl
  · intro before loader _ h n
    rw [shell_absorb, h]
  · intro before loader n _ _ _ h
    exact (shell_absorb before loader n).trans h

/-- The rows of the buffer stay in step with its lines when the document is read to its end. -/
theorem inStep_finishLoading (h : editor.buffer.InStep) :
    editor.finishLoading.2.buffer.InStep := by
  refine finishLoading_induction (P := fun editor => editor.buffer.InStep) ?_ ?_ h
  · intro _ loader _ h n
    exact Loader.inStep_appendMore h loader n
  · intro _ loader n _ _ _ h
    exact Loader.inStep_appendMore h loader n

/-! ## Asking the formatter -/

/-- The editor with a text in place of its document, as it is to be saved. -/
def replaced (loaded : Editor) (text : Text) : Editor :=
  { loaded.setBuffer (loaded.buffer.replaceAll text) with dirty := false, status := none }

/-- What formatting does with the answer of a formatter, once the document is loaded, and whether it
has been reformatted. -/
def conclude (loaded : Editor) : Except EditorError Text → Bool × Editor
  | .ok text =>
      (true, (loaded.replaced text).moveCursor loaded.cursor.line loaded.cursor.column)
  | .error error => (false, (loaded.report .warn error.message).setStatus error.message)

/-- To format is to read the document to its end and, if that succeeds, to do with the answer of the
formatter what it says. -/
theorem formatWith_eq_conclude (editor : Editor) (formatter : Formatter) :
    editor.formatWith formatter = match editor.finishLoading with
      | (.error _, loaded) => (false, loaded)
      | (.ok (), loaded) =>
          loaded.conclude (formatter.reformat loaded.language loaded.buffer.serialize) := by
  unfold formatWith
  rcases editor.finishLoading with ⟨result, loaded⟩
  cases result with
  | error error => rfl
  | ok =>
      simp only
      cases formatter.reformat loaded.language loaded.buffer.serialize with
      | ok text => rfl
      | error error => rfl

/-- The editor with its document reformatted by whatever takes a language and a text and brings back
a text or an error, and whether that succeeded. -/
def formatWithM {m : Type → Type} [Monad m] (editor : Editor)
    (reformat : Language → Text → m (Except EditorError Text)) : m (Bool × Editor) :=
  match editor.finishLoading with
  | (.error _, loaded) => return (false, loaded)
  | (.ok (), loaded) => do
      let answer ← reformat loaded.language loaded.buffer.serialize
      return loaded.conclude answer

/-- A formatter that is a function does nothing besides. -/
theorem formatWith_eq_run (editor : Editor) (formatter : Formatter) :
    editor.formatWith formatter =
      Id.run (editor.formatWithM fun language text => pure (formatter.reformat language text)) := by
  rw [formatWith_eq_conclude, formatWithM]
  rcases editor.finishLoading with ⟨result, loaded⟩
  cases result with
  | error error => rfl
  | ok => rfl

/-- The text of the whole document: the loaded lines and those that the stream has still to
bring. -/
def wholeText (editor : Editor) : Text :=
  Text.joinLines (editor.buffer.lines ++ Text.flattenLines editor.coming.1)

/-- A formatter is asked once, and about the whole document, unless reading fails; and whatever it
does while it is asked is all that is done besides. -/
theorem formatWithM_eq {m : Type → Type} [Monad m] (hreads : editor.ReadsBytes)
    (reformat : Language → Text → m (Except EditorError Text)) :
    editor.formatWithM reformat = match editor.coming.2 with
      | some _ => return (false, editor.finishLoading.2)
      | none => do
          let answer ← reformat editor.language editor.wholeText
          return editor.finishLoading.2.conclude answer := by
  have hdrains := drains_finishLoading hreads
  have hlanguage : editor.finishLoading.2.language = editor.language :=
    congrArg (·.buffer.highlighter.language) editor.shell_finishLoading
  obtain ⟨read, -, hall, hlines⟩ := hdrains.lines
  have hresult := hdrains.result
  unfold formatWithM
  generalize editor.finishLoading = outcome at *
  obtain ⟨result, loaded⟩ := outcome
  cases hcoming : editor.coming.2 with
  | some reason =>
      rw [hcoming] at hresult
      simp only at hresult ⊢
      rw [hresult]
  | none =>
      rw [hcoming] at hresult
      simp only at hresult hlanguage hlines
      have htext : loaded.buffer.serialize = editor.wholeText := by
        rw [wholeText, LineBuffer.serialize, hlines, hall hcoming]
      simp only [hresult, hlanguage, htext]

/-- The formatter is asked about the whole text if reading is to succeed, and about nothing if
not. -/
theorem formatWith_of_coming (hreads : editor.ReadsBytes) (formatter : Formatter) :
    editor.formatWith formatter = match editor.coming.2 with
      | some _ => (false, editor.finishLoading.2)
      | none => editor.finishLoading.2.conclude
          <| formatter.reformat editor.language editor.wholeText := by
  rw [formatWith_eq_run, formatWithM_eq hreads]
  cases editor.coming.2 with
  | some reason => rfl
  | none => rfl

/-- The questions that a formatter is asked: one about the whole document, none if reading fails. -/
theorem run_recorded (hreads : editor.ReadsBytes) (formatter : Formatter)
    (asked : List (Language × Text)) :
    (editor.formatWithM formatter.recorded).run asked =
      (editor.formatWith formatter, match editor.coming.2 with
        | some _ => asked
        | none => asked ++ [(editor.language, editor.wholeText)]) := by
  rw [formatWith_of_coming hreads, formatWithM_eq hreads]
  cases editor.coming.2 with
  | some reason => rfl
  | none => rfl

/-! ## Its answers -/

/-- The document of an editor has been put in the form of a text. -/
structure Formatted (editor : Editor) (text : Text) (after : Editor) : Prop where
  lines : after.buffer.lines = Text.splitLines text
  inStep : after.buffer.InStep
  dirty : after.dirty = false
  line : after.cursor.line = min editor.cursor.line (after.buffer.length - 1)
  column : after.cursor.column = (after.buffer.line after.cursor.line).floor editor.cursor.column
  status : after.status = none
  whole : after.isStreaming = false
  others : { after with
    dirty := editor.dirty
    cursor := editor.cursor
    viewport := editor.viewport }.shell = editor.shell

/-- The document of an editor has been left as it is, but for lines that the stream has brought,
and the editor shows an error. -/
structure Unformatted (editor : Editor) (error : EditorError) (after : Editor) : Prop where
  lines : ∃ read, read <+: editor.coming.1 ∧
    after.buffer.lines = editor.buffer.lines ++ Text.flattenLines read
  tokenLists : editor.buffer.tokenLists <+: after.buffer.tokenLists
  regionLists : editor.buffer.regionLists <+: after.buffer.regionLists
  dirty : after.dirty = editor.dirty
  cursor : after.cursor = editor.cursor
  mode : after.mode = editor.mode
  language : after.language = editor.language
  status : after.status = some error.message
  whole : after.isStreaming = false
  others : after.shell = editor.shell

/-- Reading that leaves the rest alone and brings lines leaves a document as it is. -/
theorem unformatted_of_shell {after : Editor} (hbefore : editor.buffer.InStep)
    (hafter : after.buffer.InStep) (hshell : after.shell = editor.shell)
    (hlines : ∃ read, read <+: editor.coming.1 ∧
      after.buffer.lines = editor.buffer.lines ++ Text.flattenLines read)
    (hstatus : after.status = some error.message) (hdone : after.unfinished? = none) :
    Unformatted editor error after := by
  have hhighlighter : after.buffer.highlighter = editor.buffer.highlighter :=
    congrArg (·.buffer.highlighter) hshell
  have hprefix : editor.buffer.lines <+: after.buffer.lines := by
    obtain ⟨read, -, heq⟩ := hlines
    exact heq ▸ List.prefix_append _ _
  refine ⟨hlines, ?_, ?_, congrArg (·.dirty) hshell, congrArg (·.cursor) hshell,
    congrArg (·.mode) hshell, congrArg (·.language) hhighlighter, hstatus, ?_, hshell⟩
  · -- what is found in a line depends on nothing else
    rw [hbefore.tokenLists_eq, hafter.tokenLists_eq, hhighlighter]
    exact hprefix.map _
  · rw [hbefore.regionLists_eq, hafter.regionLists_eq, hhighlighter]
    exact hprefix.map _
  · rw [isStreaming, hdone]
    rfl

/-- A text is put in place of the document, and the cursor is placed anew where it was. -/
theorem formatted_conclude (hshell : loaded.shell = editor.shell)
    (hdone : loaded.unfinished? = none) (text : Text) :
    (loaded.conclude (.ok text)).1 = true ∧
      Formatted editor text (loaded.conclude (.ok text)).2 := by
  have hcursor : loaded.cursor = editor.cursor := congrArg (·.cursor) hshell
  have hunread : (loaded.replaced text).unfinished? = none := hdone
  refine ⟨rfl, ?_⟩
  -- with all lines loaded, placing the cursor reads nothing
  rw [conclude, moveCursor, ensureLoaded_of_unfinished?_eq_none hunread, hcursor]
  refine ⟨LineBuffer.lines_replaceAll _ text, LineBuffer.inStep_replaceLines _ _, rfl, rfl, rfl,
    rfl, ?_, ?_⟩
  · exact congrArg Option.isSome hunread
  · exact congrArg (fun shell : Editor => { shell with
      dirty := editor.dirty, cursor := editor.cursor, viewport := editor.viewport }) hshell

/-- A stream that fails leaves the document as it is, but for lines that came before. -/
theorem unformatted_finishLoading (hinStep : editor.buffer.InStep) (hreads : editor.ReadsBytes)
    {reason : String} (hfails : editor.coming.2 = some reason) :
    Unformatted editor (.io reason) editor.finishLoading.2 := by
  obtain ⟨-, hstatus, ⟨read, hread, -, hlines⟩, hdone⟩ := drains_finishLoading hreads
  rw [hfails] at hstatus
  exact unformatted_of_shell hinStep (inStep_finishLoading hinStep) editor.shell_finishLoading
    ⟨read, hread, hlines⟩ hstatus hdone

/-- A formatter that rejects the document leaves it as it has been read. -/
theorem unformatted_conclude (hinStep : editor.buffer.InStep) (hreads : editor.ReadsBytes)
    (error : EditorError) :
    (editor.finishLoading.2.conclude (.error error)).1 = false ∧
      Unformatted editor error (editor.finishLoading.2.conclude (.error error)).2 := by
  obtain ⟨-, -, ⟨read, hread, -, hlines⟩, hdone⟩ := drains_finishLoading hreads
  exact ⟨rfl, unformatted_of_shell hinStep (inStep_finishLoading hinStep)
    editor.shell_finishLoading ⟨read, hread, hlines⟩ rfl hdone⟩

/-! ## The formatter that is installed -/

/-- The editor with another formatter installed and other records. -/
def refitted (editor : Editor) (formatter : Option Formatter) (journal : List LogRecord) : Editor :=
  { editor with formatter := formatter, journal := journal }

/-- Two results differ only in a formatter and in the records from before, which may be any. -/
def Refits {α : Type} (editor : Editor) (formatter : Option Formatter) (journal : List LogRecord)
    (result other : α × Editor) : Prop :=
  ∃ records, result.2.journal = editor.journal ++ records ∧
    other = (result.1, result.2.refitted formatter (journal ++ records))

/-- Results that differ only in the formatter and the earlier records do so too from an editor with
fewer records. -/
theorem Refits.of_before {α : Type} {before : Editor} {result other : α × Editor}
    {formatter : Option Formatter} {journal records : List LogRecord}
    (hbefore : before.journal = editor.journal ++ records)
    (h : Refits before formatter (journal ++ records) result other) :
    Refits editor formatter journal result other := by
  obtain ⟨later, hlater, heq⟩ := h
  refine ⟨records ++ later, ?_, ?_⟩
  · rw [hlater, hbefore, List.append_assoc]
  · rw [heq, List.append_assoc]

/-- What makes no records is the same with another formatter. -/
theorem refits_of_journal {α : Type} {told : α} {after : Editor} {formatter : Option Formatter}
    {journal : List LogRecord} (h : after.journal = editor.journal) :
    Refits editor formatter journal (told, after) (told, after.refitted formatter journal) :=
  ⟨[], h.trans (List.append_nil _).symm, by rw [List.append_nil]⟩

/-- Reading looks neither at the formatter nor at the records. -/
theorem loadRest_refitted (editor : Editor) (formatter : Option Formatter)
    (journal : List LogRecord) (budget : Nat) :
    Refits editor formatter journal (editor.loadRest budget)
      ((editor.refitted formatter journal).loadRest budget) := by
  induction budget generalizing editor journal with
  | zero => exact refits_of_journal rfl
  | succ budget ih =>
      have hsame : (editor.refitted formatter journal).unfinished? = editor.unfinished? := rfl
      rw [loadRest, loadRest, hsame]
      cases editor.unfinished? with
      | none => exact refits_of_journal rfl
      | some loader =>
          have hloading : (editor.refitted formatter journal).buffer = editor.buffer ∧
            (editor.refitted formatter journal).settings = editor.settings := ⟨rfl, rfl⟩
          simp only [hloading]
          generalize loader.appendMore editor.buffer (max editor.settings.chunkLines 1) = loading
          have habsorb : (editor.absorb loading).journal = editor.journal ++ loading.records := rfl
          split
          · exact (ih (editor.absorb loading) (journal ++ loading.records)).of_before habsorb
          · exact ⟨loading.records, habsorb, rfl⟩
          · exact ⟨loading.records, habsorb, rfl⟩

/-- What is done with an answer does not depend on the formatter that is installed, nor on earlier
records. -/
theorem conclude_refitted (hdone : loaded.unfinished? = none) (formatter : Option Formatter)
    (journal : List LogRecord) (answer : Except EditorError Text) :
    Refits loaded formatter journal (loaded.conclude answer)
      ((loaded.refitted formatter journal).conclude answer) := by
  cases answer with
  | error error => exact ⟨_, rfl, rfl⟩
  | ok text =>
      have hplain : (loaded.replaced text).unfinished? = none := hdone
      have hother : ((loaded.refitted formatter journal).replaced text).unfinished? = none := hdone
      rw [conclude, conclude, moveCursor, moveCursor,
        ensureLoaded_of_unfinished?_eq_none hplain, ensureLoaded_of_unfinished?_eq_none hother]
      exact ⟨_, rfl, rfl⟩

/-- Formatting does not look at the formatter that is installed, nor at the records. -/
theorem formatWith_refitted (editor : Editor) (given : Formatter) (formatter : Option Formatter)
    (journal : List LogRecord) :
    Refits editor formatter journal (editor.formatWith given)
      ((editor.refitted formatter journal).formatWith given) := by
  have hloaded : Refits editor formatter journal editor.finishLoading
    (editor.refitted formatter journal).finishLoading := loadRest_refitted ..
  have hrest := loadsRest_finishLoading editor
  rw [formatWith_eq_conclude, formatWith_eq_conclude]
  generalize editor.finishLoading = outcome at *
  generalize (editor.refitted formatter journal).finishLoading = other at *
  obtain ⟨result, loaded⟩ := outcome
  obtain ⟨records, hjournal, rfl⟩ := hloaded
  cases result with
  | error error => exact ⟨records, hjournal, rfl⟩
  | ok =>
      have hdone := (hrest.hasFailed_eq rfl).1
      exact (conclude_refitted hdone formatter (journal ++ records) _).of_before hjournal

/-- Formatting leaves the formatter that is installed. -/
theorem formatter_formatWith (editor : Editor) (given : Formatter) :
    (editor.formatWith given).2.formatter = editor.formatter := by
  obtain ⟨records, -, heq⟩ :=
    formatWith_refitted editor given editor.formatter editor.journal
  exact congrArg (·.2.formatter) heq

/-- The formatter that the command `format` goes by: the one that is installed, if it supports the
language. -/
def supporting? (editor : Editor) : Option Formatter :=
  editor.formatter.filter (·.supports editor.language)

/-- The editor with a message that there is no formatter for the language. -/
def withoutFormatter (editor : Editor) : Editor :=
  editor.setStatus ("No formatter for " ++ editor.language.displayName)

/-- What the command `format` does if the formatter is taken out of the editor while it works and
put back afterwards. -/
def formatTaken (editor : Editor) : Editor :=
  let taken := { editor with formatter := none }
  match editor.supporting? with
  | some formatter => { (taken.formatWith formatter).2 with formatter := editor.formatter }
  | none => { taken with formatter := editor.formatter }.withoutFormatter

/-- The command to format applies the formatter that supports the language, or says that there is
none. -/
theorem format_eq (editor : Editor) :
    editor.format = match editor.supporting? with
      | some formatter => (editor.formatWith formatter).2
      | none => editor.withoutFormatter := by
  unfold format supporting?
  cases editor.formatter with
  | none => rfl
  | some formatter =>
      simp only [Option.filter_some]
      cases formatter.supports editor.language with
      | true => rfl
      | false => rfl

/-- It makes no difference that the formatter is out of the editor while it works. -/
theorem format_eq_formatTaken (editor : Editor) : editor.format = editor.formatTaken := by
  rw [format_eq, formatTaken]
  cases editor.supporting? with
  | none => rfl
  | some formatter =>
      obtain ⟨records, hjournal, heq⟩ := formatWith_refitted editor formatter none editor.journal
      have htaken : { editor with formatter := none }.formatWith formatter = _ := heq
      simp only [htaken]
      rw [← hjournal, ← formatter_formatWith editor formatter]
      rfl

/-- The command to format leaves the formatter installed that was. -/
theorem formatter_format (editor : Editor) : editor.format.formatter = editor.formatter := by
  rw [format_eq]
  cases editor.supporting? with
  | none => rfl
  | some formatter => exact formatter_formatWith editor formatter

/-- The command to format adds to the records, whatever they were before, and does the same
otherwise. -/
theorem format_refitted (editor : Editor) (journal : List LogRecord) :
    ∃ records, { editor with journal := journal }.format =
      { editor.format with journal := records } := by
  have hsame : { editor with journal := journal }.supporting? = editor.supporting? := rfl
  rw [format_eq, format_eq, hsame]
  cases editor.supporting? with
  | none => exact ⟨journal, rfl⟩
  | some formatter =>
      obtain ⟨records, -, heq⟩ := formatWith_refitted editor formatter editor.formatter journal
      have hother : { editor with journal := journal }.formatWith formatter = _ := heq
      refine ⟨journal ++ records, ?_⟩
      simp only [hother]
      rw [refitted, ← formatter_formatWith editor formatter]

/-- A line that writes the command `format` carries it out, makes a record of it, and asks nothing
of the host. -/
theorem executeLine_format {line : Text} (h : Command.ofLine? line = some .format) :
    ∃ journal, editor.executeLine line = (none, { editor.format with journal := journal }) := by
  obtain ⟨records, hformat⟩ := format_refitted editor
    (editor.journal ++ [⟨.debug, "editor", "command: " ++ Command.format.summary⟩])
  refine ⟨records, ?_⟩
  rw [executeLine_of_ofLine? editor h, ← hformat]
  rfl

/-! ## The boundary -/

/-- An editor whose document comes from bytes, or from no stream, reads its stream from bytes. -/
theorem Sound.readsBytes {origin : Option LineSource} (h : editor.Sound origin)
    (horigin : ∀ source, origin = some source → ∃ reader, source = .reader reader) :
    editor.ReadsBytes := by
  intro loader hloader source hsource
  obtain ⟨first, hfirst, hreads⟩ := h.loader.exists_source hloader
  obtain ⟨reader, rfl⟩ := horigin first hfirst
  obtain ⟨requests, -, hafter⟩ := hreads.asked
  rw [hafter source hsource]
  exact LineSource.reader_after reader requests

/-- The boundary between an editor and a formatter that it applies. -/
structure FormatBoundary (editor : Editor) (formatter : Formatter) : Prop where
  /-- The formatter is asked once, about the language and the whole document, or not at all if
  reading the rest of the document fails. -/
  asked : (editor.formatWithM formatter.recorded).run [] =
    (editor.formatWith formatter, match editor.coming.2 with
      | some _ => []
      | none => [(editor.language, editor.wholeText)])
  /-- The text that it gives takes the place of the document. -/
  formatted : ∀ text, editor.coming.2 = none →
    formatter.reformat editor.language editor.wholeText = .ok text →
    (editor.formatWith formatter).1 = true ∧ Formatted editor text (editor.formatWith formatter).2
  /-- If it gives an error the document is left as it is, but for lines that have been read. -/
  rejected : ∀ error, editor.coming.2 = none →
    formatter.reformat editor.language editor.wholeText = .error error →
    (editor.formatWith formatter).1 = false ∧
      Unformatted editor error (editor.formatWith formatter).2
  /-- And so it is if reading fails. -/
  unread : ∀ reason, editor.coming.2 = some reason →
    (editor.formatWith formatter).1 = false ∧
      Unformatted editor (.io reason) (editor.formatWith formatter).2

/-- What the command `format` does. -/
structure FormatCommand (editor : Editor) : Prop where
  /-- It does what applying the formatter that is installed does, if this supports the language. -/
  supported : ∀ installed, editor.supporting? = some installed →
    editor.format = (editor.formatWith installed).2
  /-- Otherwise it shows a message. -/
  unsupported : editor.supporting? = none → editor.format = { editor with
    status := some ("No formatter for " ++ editor.language.displayName) }
  /-- The formatter may be taken out meanwhile. -/
  taken : editor.format = editor.formatTaken
  /-- It is still installed afterwards. -/
  installed : editor.format.formatter = editor.formatter
  /-- A line that writes the command carries it out. -/
  line : ∀ line, Command.ofLine? line = some .format → ∃ journal,
    editor.executeLine line = (none, { editor.format with journal := journal })

/-- The command to format applies just the formatter of the editor that supports its language. -/
theorem formatCommand (editor : Editor) : editor.FormatCommand where
  supported := fun installed hinstalled => by rw [format_eq, hinstalled]
  unsupported := fun hnone => by
    rw [format_eq, hnone]
    rfl
  taken := format_eq_formatTaken editor
  installed := formatter_format editor
  line := fun _ hline => executeLine_format hline

/-- The boundary to a formatter, for any editor whose buffer is in step and whose stream, if it has
one, is read from bytes and may fail; runs that open no other streams lead to such editors. And the
command `format`, which applies the formatter that is installed. -/
theorem formatWith_boundary (hinStep : editor.buffer.InStep) (hreads : editor.ReadsBytes)
    (formatter : Formatter) : editor.FormatBoundary formatter ∧ editor.FormatCommand := by
  have hdrains := drains_finishLoading hreads
  have hresult := formatWith_of_coming hreads formatter
  refine ⟨⟨run_recorded hreads formatter [], fun text hall htext => ?_,
    fun error hall herror => ?_, fun reason hfails => ?_⟩, formatCommand editor⟩
  · have hconclude : editor.formatWith formatter = editor.finishLoading.2.conclude (.ok text) := by
      rw [hresult, hall, ← htext]
    rw [hconclude]
    exact formatted_conclude editor.shell_finishLoading hdrains.unfinished text
  · have hconclude :
        editor.formatWith formatter = editor.finishLoading.2.conclude (.error error) := by
      rw [hresult, hall, ← herror]
    rw [hconclude]
    exact unformatted_conclude hinStep hreads error
  · have hfailed : editor.formatWith formatter = (false, editor.finishLoading.2) := by
      rw [hresult, hfails]
    rw [hfailed]
    exact ⟨rfl, unformatted_finishLoading hinStep hreads hfails⟩

/-- Three lines come one at a time, and the first has been changed. A formatter that makes one
character of them is asked once, and the cursor goes back to its end, as it does by a command; where
the stream fails in the last line the formatter is not asked. -/
theorem formatWith_boundary_streams :
    let settings := Settings.usual.withChunks 1 0
    let formatter := Formatter.constant ['é']
    let operations (failure : Option String) : List Operation :=
      [.openStream (.reader ⟨[], [[97, 98, 10, 99], [100, 10, 101]], failure⟩), .moveEnd,
        .insertChar 'z', .setFormatter formatter]
    let whole := ((new settings).performAll (operations none)).2
    let cut := ((new settings).performAll (operations (some "gone"))).2
    (whole.cursor.column = 3 ∧ ∃ after,
        (whole.formatWithM formatter.recorded).run [] =
          ((true, after), [(.plainText, "abz\ncd\ne".toList)]) ∧
        after.buffer.lines = [['é']] ∧ after.dirty = false ∧ after.cursor.column = 2 ∧
        (whole.executeLine "Format all".toList).2.cursor.column = 2) ∧
      (cut.dirty = true ∧ ∃ after,
        (cut.formatWithM formatter.recorded).run [] = ((false, after), []) ∧
        cut.buffer.lines <+: after.buffer.lines ∧ after.dirty = true ∧
        after.cursor = cut.cursor ∧ after.status = some "I/O error: gone") := by
  intro settings formatter operations whole cut
  have horigin (failure : Option String) : ∀ source,
      (new settings).originAfterAll none (operations failure) = some source →
        ∃ reader, source = .reader reader := fun source h => ⟨_, (Option.some.inj h).symm⟩
  have hwhole : whole.coming.2 = none ∧ whole.language = .plainText ∧
      whole.wholeText = "abz\ncd\ne".toList ∧ whole.cursor.column = 3 := by decide +kernel
  have hcut : cut.coming.2 = some "gone" ∧ cut.dirty = true := by decide +kernel
  have hsupporting : whole.supporting? = some formatter := rfl
  have hcommand : Command.ofLine? "Format all".toList = some .format := by decide +kernel
  have hfloor : Text.floor ['é'] 3 = 2 := by decide
  -- nothing more is computed from here on
  clear_value settings operations
  have hsound (failure : Option String) := (sound_new settings).performAll (operations failure)
  constructor
  · obtain ⟨hcoming, hlanguage, htext, hcolumn⟩ := hwhole
    obtain ⟨hboundary, hformat⟩ := formatWith_boundary
      (hsound none).buffer ((hsound none).readsBytes (horigin none)) formatter
    obtain ⟨hsuccess, hafter⟩ := hboundary.formatted ['é'] hcoming rfl
    have hlines : (whole.formatWith formatter).2.buffer.lines = [['é']] := hafter.lines
    have hcolumn' : (whole.formatWith formatter).2.cursor.column = 2 := by
      have hfirst : (whole.formatWith formatter).2.cursor.line = 0 := by
        rw [hafter.line, LineBuffer.length, hlines]
        exact Nat.min_zero _
      rw [hafter.column, hfirst, LineBuffer.line, LineBuffer.line?, hlines, hcolumn]
      exact hfloor
    obtain ⟨journal, hexecute⟩ := hformat.line _ hcommand
    refine ⟨hcolumn, _, ?_, hlines, hafter.dirty, hcolumn', ?_⟩
    · rw [hboundary.asked, hcoming, hlanguage, htext, ← hsuccess]
    · rw [hexecute, hformat.supported formatter hsupporting]
      exact hcolumn'
  · obtain ⟨hcoming, hdirty⟩ := hcut
    obtain ⟨hboundary, -⟩ := formatWith_boundary (hsound (some "gone")).buffer
      ((hsound (some "gone")).readsBytes (horigin (some "gone"))) formatter
    obtain ⟨hfailure, hafter⟩ := hboundary.unread "gone" hcoming
    obtain ⟨read, -, hlines⟩ := hafter.lines
    refine ⟨hdirty, _, ?_, ?_, hafter.dirty.trans hdirty, hafter.cursor, hafter.status⟩
    · rw [hboundary.asked, hcoming, ← hfailure]
    · rw [hlines]
      exact List.prefix_append _ _

end Editor

end TextEditor
