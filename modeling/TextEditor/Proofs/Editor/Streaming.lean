import TextEditor.Editor.Operation
import TextEditor.Proofs.Editor.Unseen
import TextEditor.Proofs.Stream.Filling

/-!
# Streaming is invisible

How a stream is read, in chunks of which size and how far ahead of the cursor, makes no difference
to what an editor shows and to what it asks of its host: two editors that differ in this alone stay
alike whatever is done with both. Only two operations look at the loaded lines for what they are,
the search for a text and the jump to a diagnostic; they are left out. What is done with the whole
document is done after reading it to its end.

Main statements: one lemma for each operation on the document, command and key, `Alike.perform` and
`Alike.performAll`, and `performAll_openStream_eq`.
-/

namespace TextEditor

/-- The outcome of an operation, apart from how many lines have been loaded. -/
def Outcome.uncounted : Outcome → Outcome
  | loaded _ => loaded 0
  | outcome => outcome

namespace Editor

variable {a b editor : Editor} {reader : ByteReader}

/-! ## Opening a stream -/

/-- The editor with the first lines of a reader, before its cursor is put at the start of them. -/
def opened (editor : Editor) (reader : ByteReader) : Editor :=
  { editor.absorb ((Loader.new (.reader reader)).loadInitial editor.buffer
      editor.settings.chunkLines) with dirty := false }

/-- To open a reader that does not fail is to load its first lines and to jump to the start. -/
theorem openStream_eq (hreader : reader.Unfailing) :
    editor.openStream (.reader reader) =
      (.ok (reader.lines.take editor.settings.chunkLines).length,
        (editor.opened reader).jumpTo 0 0) := by
  obtain ⟨hresult, -⟩ := (Loader.unfailing_new hreader).loadInitial_eq rfl editor.buffer
    editor.settings.chunkLines
  unfold openStream
  simp only
  rw [hresult]
  rfl

/-- The lines of the buffer are then those first ones. -/
theorem lines_opened (hreader : reader.Unfailing) :
    (editor.opened reader).buffer.lines =
      Loader.filledWith (reader.lines.take editor.settings.chunkLines) := by
  obtain ⟨-, hbuffer, -⟩ := (Loader.unfailing_new hreader).loadInitial_eq rfl editor.buffer
    editor.settings.chunkLines
  show ((Loader.new (.reader reader)).loadInitial _ _).buffer.lines = _
  rw [hbuffer, Loader.lines_replaceLines]
  rfl

/-- The document is then that of the reader, whatever the size of the chunks. -/
theorem outline_opened (h : editor.Streams) (hreader : reader.Unfailing) :
    (editor.opened reader).outline = { editor.outline with
      buffer := ⟨Loader.filledWith reader.lines, [], [], editor.buffer.highlighter⟩
      dirty := false } := by
  obtain ⟨hresult, hbuffer, hnext⟩ := (Loader.unfailing_new hreader).loadInitial_eq rfl
    editor.buffer editor.settings.chunkLines
  have hdocument : (editor.opened reader).document = Loader.filledWith reader.lines := by
    have hunread : (editor.opened reader).unread =
        Text.flattenLines (reader.lines.drop editor.settings.chunkLines) := by
      rw [unread_of_loader rfl, hnext.unread]
      rfl
    rw [document, lines_opened hreader, hunread, Loader.filledWith_append, List.take_append_drop]
    intro hnil
    -- no lines in the first chunk, so none at all
    have hchunk := h.chunk_pos
    rcases List.take_eq_nil_iff.1 hnil with hzero | hnone
    · omega
    · rw [hnone, List.drop_nil]
  rw [outline, hdocument, opened, absorb, hresult, hbuffer]
  rfl

/-- An editor goes on to stream from a reader that it has opened. -/
theorem Streams.opened (h : editor.Streams) (hreader : reader.Unfailing) :
    (editor.opened reader).Streams := by
  obtain ⟨-, -, hnext⟩ := (Loader.unfailing_new hreader).loadInitial_eq rfl
    editor.buffer editor.settings.chunkLines
  refine ⟨?_, h.chunk_pos, h.margin_pos, ?_⟩
  · intro loader hloader
    obtain rfl := Option.some.inj hloader
    exact hnext.unfailing
  · rw [lines_opened hreader]
    exact Loader.filledWith_ne_nil _

/-! ## Another text in place of the document -/

/-- With nothing left to read, a text that is put in place of the document is the whole outline. -/
theorem outline_replaced (h : editor.unread = []) (text : Text) :
    (editor.setBuffer (editor.buffer.replaceAll text)).outline = { editor.outline with
      buffer :=
        ⟨Loader.filledWith (Text.splitLines text), [], [], editor.buffer.highlighter⟩ } := by
  have hdocument : (editor.setBuffer (editor.buffer.replaceAll text)).document =
      Loader.filledWith (Text.splitLines text) := by
    show (editor.buffer.replaceLines (Text.splitLines text)).lines ++ editor.unread = _
    rw [h, List.append_nil, Loader.lines_replaceLines]
  rw [outline, hdocument]
  rfl

/-- An editor goes on to stream with a text in place of its document. -/
theorem Streams.replaced (h : editor.Streams) (text : Text) :
    (editor.setBuffer (editor.buffer.replaceAll text)).Streams := by
  refine ⟨h.unfailing, h.chunk_pos, h.margin_pos, ?_⟩
  show (editor.buffer.replaceLines (Text.splitLines text)).lines ≠ []
  rw [Loader.lines_replaceLines]
  exact Loader.filledWith_ne_nil _

namespace Alike

/-- Editors that are alike open a reader and stay alike, though one may load more lines than the
other. -/
theorem openStream (h : Alike a b) (hreader : reader.Unfailing) :
    ∃ m n x y, a.openStream (.reader reader) = (.ok m, x) ∧
      b.openStream (.reader reader) = (.ok n, y) ∧ Alike x y := by
  have hx := h.left.toStreams.opened hreader
  have hy := h.right.toStreams.opened hreader
  have hhighlighter : a.buffer.highlighter = b.buffer.highlighter := h.agree.highlighter
  refine ⟨_, _, _, _, openStream_eq hreader, openStream_eq hreader, ?_⟩
  refine alike_jumpTo ?_ hx hy ?_ ?_ 0
  · rw [outline_opened h.left.toStreams hreader, outline_opened h.right.toStreams hreader,
      h.outline, hhighlighter]
  · exact .inr (.inl (List.length_pos_iff.2 hx.lines_ne_nil))
  · exact .inr (.inl (List.length_pos_iff.2 hy.lines_ne_nil))

/-! ## The document as a whole -/

/-- Editors stay alike when a text is loaded. -/
theorem loadText (h : Alike a b) (text : Text) : Alike (a.loadText text) (b.loadText text) := by
  have hclosed {editor : Editor} (hstreams : editor.Streams) :
      { editor with loader := none }.Streams :=
    ⟨fun _ hnone => (nomatch hnone), hstreams.chunk_pos, hstreams.margin_pos,
      hstreams.lines_ne_nil⟩
  have hx := (hclosed h.left.toStreams).replaced text
  have hy := (hclosed h.right.toStreams).replaced text
  have houtline : ({ a with loader := none }.setBuffer (a.buffer.replaceAll text)).outline =
      ({ b with loader := none }.setBuffer (b.buffer.replaceAll text)).outline := by
    refine (outline_replaced rfl text).trans (.trans ?_ (outline_replaced rfl text).symm)
    -- what has been replaced, and the stream, no longer matter
    show { a.outline with buffer :=
        ⟨Loader.filledWith (Text.splitLines text), [], [], a.buffer.highlighter⟩ } =
      { b.outline with buffer :=
        ⟨Loader.filledWith (Text.splitLines text), [], [], b.buffer.highlighter⟩ }
    rw [h.outline, h.agree.highlighter]
  have hclean := outline_map houtline ({ · with dirty := false }) fun _ => rfl
  exact alike_jumpTo hclean (hx.congr rfl) (hy.congr rfl) (.inr (.inr rfl)) (.inr (.inr rfl)) 0

/-- Editors stay alike with another grammar. -/
theorem selectGrammar (h : Alike a b) (language : Language) :
    Alike (a.selectGrammar language) (b.selectGrammar language) := by
  unfold Editor.selectGrammar
  rw [← h.language]
  split
  · exact h
  · have hbuffer := h.withBuffer (h.agree.setHighlighter (.ofLanguage language)) rfl rfl
    exact (hbuffer.withJournal _ _).report _ _

/-- Editors that are alike know the same grammars by their names, and stay alike. -/
theorem selectGrammarById (h : Alike a b) (id : Text) :
    Matches (a.selectGrammarById id) (b.selectGrammarById id) := by
  unfold Editor.selectGrammarById
  split
  · exact ⟨rfl, h.selectGrammar _⟩
  · exact ⟨rfl, h⟩

/-- Editors stay alike with another file name. -/
theorem setFileName (h : Alike a b) (path : Text) :
    Alike (a.setFileName path) (b.setFileName path) :=
  (h.selectGrammar (.ofPath path)).map ({ · with fileName := some path }) (fun _ => rfl)
    fun _ => rfl

/-- Editors stay alike with a screen of another size. -/
theorem resize (h : Alike a b) (width height : Nat) :
    Alike (a.resize width height) (b.resize width height) :=
  h.map (·.resize width height) (fun _ => rfl) fun _ => rfl

/-- Editors stay alike when both are taken as saved. -/
theorem markSaved (h : Alike a b) : Alike a.markSaved b.markSaved :=
  h.map (·.markSaved) (fun _ => rfl) fun _ => rfl

/-- Editors stay alike when both show a message. -/
theorem setStatus (h : Alike a b) (message : String) :
    Alike (a.setStatus message) (b.setStatus message) :=
  h.map (·.setStatus message) (fun _ => rfl) fun _ => rfl

/-! ## Commands -/

/-- Editors stay alike when both ask for a file name. -/
theorem promptSave (h : Alike a b) (quitAfter : Bool) :
    Alike (a.promptSave quitAfter) (b.promptSave quitAfter) :=
  h.map (·.promptSave quitAfter) (fun _ => rfl) fun _ => rfl

/-- Editors that are alike ask for the same document to be written, as both read it to the end
first. -/
theorem requestSave (h : Alike a b) (quitAfter : Bool) :
    Matches (a.requestSave quitAfter) (b.requestSave quitAfter) := by
  obtain ⟨x, y, hx, hy, hread, hnonex, hnoney⟩ := h.finishLoading
  unfold Editor.requestSave
  rw [← h.fileName, hx, hy]
  split
  · exact ⟨rfl, h⟩
  · have hserialize : x.buffer.serialize = y.buffer.serialize :=
      congrArg Text.joinLines (hread.lines_eq hnonex hnoney)
    have hencoding : x.encoding = y.encoding := congrArg (·.encoding) hread.outline
    refine ⟨?_, hread⟩
    simp only
    rw [hserialize, hencoding]

/-- Editors stay alike when both go to a line. -/
theorem goto (h : Alike a b) (hbound : a.document.length ≤ maxOffset) (line : Nat)
    (column : Option Nat) : Alike (a.goto line column) (b.goto line column) := by
  -- the column is chosen by the line that is gone to
  have hjump {x y : Editor} (h : Alike x y) {target : Nat} (hx : target < x.buffer.length)
      (hy : target < y.buffer.length) (column : Nat) :
      Alike
        (x.jumpTo target
          (if column ≤ x.buffer.lineSize target then column else x.cursor.column))
        (y.jumpTo target
          (if column ≤ y.buffer.lineSize target then column else y.cursor.column)) := by
    rw [← h.cursor, ← h.agree.lineSize_eq hx hy]
    exact h.jumpTo hx hy _
  unfold Editor.goto
  simp only
  by_cases hline : 1 ≤ line
  · obtain ⟨hx, hy⟩ := h.found hbound (line - 1)
    have hread := h.ensureLoaded (line - 1)
    have hiff := hread.lt_length_iff hx hy
    rw [if_pos hline, if_pos hline]
    by_cases hlt : line - 1 < (a.ensureLoaded (line - 1)).buffer.length
    · have hlt' := hiff.1 hlt
      rw [if_pos ⟨hline, by omega⟩, if_pos ⟨hline, by omega⟩]
      cases column with
      | none => exact hread.jumpTo hlt hlt' 0
      | some column => exact hjump hread hlt hlt' column
    · have hlt' := mt hiff.2 hlt
      rw [if_neg (by omega), if_neg (by omega), ← congrArg Cursor.line hread.cursor]
      cases column with
      | none => exact hread.jumpTo hread.left.cursor_lt hread.cursor_lt 0
      | some column => exact hjump hread hread.left.cursor_lt hread.cursor_lt column
  · rw [if_neg hline, if_neg hline, if_neg (by omega), if_neg (by omega),
      ← congrArg Cursor.line h.cursor]
    cases column with
    | none => exact h.jumpTo h.left.cursor_lt h.cursor_lt 0
    | some column => exact hjump h h.left.cursor_lt h.cursor_lt column

/-- Editors that are alike show a formatter the same text, and stay alike whatever it answers. -/
theorem formatWith (h : Alike a b) (formatter : Formatter) :
    Matches (a.formatWith formatter) (b.formatWith formatter) := by
  obtain ⟨x, y, hx, hy, hread, hnonex, hnoney⟩ := h.finishLoading
  have hserialize : x.buffer.serialize = y.buffer.serialize :=
    congrArg Text.joinLines (hread.lines_eq hnonex hnoney)
  unfold Editor.formatWith
  rw [hx, hy]
  simp only
  rw [← hserialize, ← hread.language]
  split
  · next text _ =>
      have houtline : (x.setBuffer (x.buffer.replaceAll text)).outline =
          (y.setBuffer (y.buffer.replaceAll text)).outline := by
        rw [outline_replaced hnonex, outline_replaced hnoney, hread.outline,
          hread.agree.highlighter]
      have hclean := outline_map houtline ({ · with dirty := false, status := none }) fun _ => rfl
      have hstreamsx := hread.left.toStreams.replaced text
      have hstreamsy := hread.right.toStreams.replaced text
      have hcursor : (x.setBuffer (x.buffer.replaceAll text)).cursor =
        (y.setBuffer (y.buffer.replaceAll text)).cursor := hread.cursor
      refine ⟨rfl, ?_⟩
      simp only
      rw [← congrArg Cursor.line hcursor, ← congrArg Cursor.column hcursor]
      exact alike_moveCursor hclean (hstreamsx.congr rfl) (hstreamsy.congr rfl)
        (.inr (.inr hnonex)) (.inr (.inr hnoney)) _
  · exact ⟨rfl, (hread.report _ _).setStatus _⟩

/-- Editors stay alike when both are formatted. -/
theorem format (h : Alike a b) : Alike a.format b.format := by
  have hformatter : a.formatter = b.formatter := congrArg (·.formatter) h.outline
  unfold Editor.format
  rw [← hformatter, ← h.language]
  split
  · split
    · exact (h.formatWith _).alike
    · exact h.setStatus _
  · exact h.setStatus _

/-- Editors that are alike ask the same of the host for a command, and stay alike. -/
theorem execute (h : Alike a b) (hbound : a.document.length ≤ maxOffset) (command : Command) :
    Matches (a.execute command) (b.execute command) := by
  cases command with
  | quit =>
      have hdirty : a.dirty = b.dirty := congrArg (·.dirty) h.outline
      simp only [Editor.execute]
      by_cases hchanged : a.dirty = true
      · rw [if_pos hchanged, if_pos (hdirty ▸ hchanged)]
        exact ⟨rfl, h.map ({ · with mode := .quitPrompt }) (fun _ => rfl) fun _ => rfl⟩
      · rw [if_neg hchanged, if_neg (hdirty ▸ hchanged)]
        exact ⟨rfl, h⟩
  | save path =>
      cases path with
      | some path => exact (h.setFileName path).requestSave false
      | none =>
          simp only [Editor.execute]
          rw [← h.fileName]
          split
          · exact (h.promptSave false).requestSave false
          · exact h.requestSave false
  | goto line column => exact ⟨rfl, h.goto hbound line column⟩
  | setEncoding encoding =>
      have hset : Alike { a with encoding := encoding } { b with encoding := encoding } :=
        h.map ({ · with encoding := encoding }) (fun _ => rfl) fun _ => rfl
      exact ⟨rfl, hset.setStatus _⟩
  | format => exact ⟨rfl, h.format⟩
  | test => exact ⟨rfl, h⟩

/-- Editors that are alike ask the same of the host for a line at the prompt for commands, and stay
alike. -/
theorem executeLine (h : Alike a b) (hbound : a.document.length ≤ maxOffset) (line : Text) :
    Matches (a.executeLine line) (b.executeLine line) := by
  unfold Editor.executeLine
  split
  · exact ⟨rfl, h⟩
  · exact (h.report _ _).execute hbound _
  · exact ⟨rfl, (h.report _ _).setStatus _⟩

/-! ## Keys -/

/-- Editors stay alike in another mode. -/
theorem withMode (h : Alike a b) (mode : Mode) :
    Alike { a with mode := mode } { b with mode := mode } :=
  h.map ({ · with mode := mode }) (fun _ => rfl) fun _ => rfl

/-- Editors stay alike with other text at the prompt. -/
theorem withPrompt (h : Alike a b) (mode : Mode) (input : Text) :
    Alike { a with mode := mode, input := input } { b with mode := mode, input := input } :=
  h.map ({ · with mode := mode, input := input }) (fun _ => rfl) fun _ => rfl

/-- Editors in which the document is edited stay alike by any key. -/
theorem editingKey (h : Alike a b) (hbound : a.document.length ≤ maxOffset) (event : KeyEvent) :
    Alike (a.editingKey event) (b.editingKey event) := by
  unfold Editor.editingKey
  split
  · exact h.map ({ · with mode := .find, search := .empty }) (fun _ => rfl) fun _ => rfl
  · split
    · exact h.withPrompt .command []
    · cases event.key with
      | left =>
          simp only
          split
          · exact h.moveWordLeft
          · exact h.moveLeft
      | right =>
          simp only
          split
          · exact h.moveWordRight
          · exact h.moveRight hbound
      | up => exact h.moveUp hbound
      | down => exact h.moveDown hbound
      | home => exact h.moveHome
      | lineEnd => exact h.moveEnd
      | pageUp => exact h.pageUp hbound
      | pageDown => exact h.pageDown hbound
      | enter => exact h.splitLine
      | backspace => exact h.backspace
      | delete => exact h.deleteForward hbound
      | tab => exact h.insertText _
      | escape | char =>
          simp only
          cases event.typed? with
          | some c => exact h.insertChar c
          | none => exact h

/-- A key at a prompt that gives no command keeps editors alike. -/
theorem promptKey (h : Alike a b) (event : KeyEvent) :
    Alike (a.promptKey event) (b.promptKey event) := by
  have hinput (input : List Char → Text) :
      Alike { a with input := input a.input } { b with input := input b.input } :=
    h.map (fun editor => { editor with input := input editor.input }) (fun _ => rfl) fun _ => rfl
  unfold Editor.promptKey
  split
  · exact hinput (·.dropLast)
  · exact hinput (· ++ event.typed?.toList)

/-- A key at the prompt for commands comes to the same for editors that are alike. -/
theorem commandKey (h : Alike a b) (hbound : a.document.length ≤ maxOffset) (event : KeyEvent) :
    Matches (a.commandKey event) (b.commandKey event) := by
  unfold Editor.commandKey
  split
  · exact ⟨rfl, h.withPrompt .editing []⟩
  · rw [← h.input]
    exact (h.withPrompt .editing []).executeLine hbound _
  · exact ⟨rfl, h.promptKey event⟩

/-- A key at the prompt for a file name comes to the same for editors that are alike. -/
theorem savePromptKey (h : Alike a b) (event : KeyEvent) :
    Matches (a.savePromptKey event) (b.savePromptKey event) := by
  have hquit : a.quitAfterSave = b.quitAfterSave := congrArg (·.quitAfterSave) h.outline
  have hclosed : Alike { a with mode := .editing, input := [], quitAfterSave := false }
      { b with mode := .editing, input := [], quitAfterSave := false } :=
    h.map ({ · with mode := .editing, input := [], quitAfterSave := false }) (fun _ => rfl)
      fun _ => rfl
  unfold Editor.savePromptKey
  split
  · exact ⟨rfl, hclosed⟩
  · simp only
    rw [← h.input, ← hquit]
    split
    · exact ⟨rfl, hclosed⟩
    · exact (hclosed.setFileName _).requestSave _
  · exact ⟨rfl, h.promptKey event⟩

/-- A key that answers the question before quitting comes to the same for editors that are alike. -/
theorem quitPromptKey (h : Alike a b) (event : KeyEvent) :
    Matches (a.quitPromptKey event) (b.quitPromptKey event) := by
  have hnamed : a.fileName.isSome = b.fileName.isSome := congrArg Option.isSome h.fileName
  have hclosed := h.withMode .editing
  unfold Editor.quitPromptKey
  simp only
  split
  · exact ⟨rfl, hclosed⟩
  · rw [← hnamed]
    split
    · exact hclosed.requestSave true
    · exact ⟨rfl, hclosed.promptSave true⟩

/-- A key comes to the same for editors that are alike in any mode but in a search, which looks at
what is loaded. -/
theorem handleKey (h : Alike a b) (hbound : a.document.length ≤ maxOffset)
    (hmode : a.mode ≠ .find) (event : KeyEvent) :
    Matches (a.handleKey event) (b.handleKey event) := by
  have hsame : a.mode = b.mode := congrArg (·.mode) h.outline
  unfold Editor.handleKey
  rw [← hsame]
  cases heq : a.mode with
  | editing => exact ⟨rfl, h.editingKey hbound event⟩
  | command => exact h.commandKey hbound event
  | find => exact absurd heq hmode
  | savePrompt => exact h.savePromptKey event
  | quitPrompt => exact h.quitPromptKey event

end Alike

/-! ## Operations -/

/-- Whether an operation is one that does not look at the loaded lines for what they are. The
streams that are opened are read from bytes without failing. -/
def Admits (editor : Editor) : Operation → Prop
  | .key _ => editor.mode ≠ .find
  | .openStream source => ∃ reader : ByteReader, source = .reader reader ∧ reader.Unfailing
  | .setDiagnostics _ => False
  | _ => True

/-- An operation comes to the same in editors that are alike, and leaves them alike. -/
theorem Alike.perform (h : Alike a b) (hbound : a.document.length ≤ maxOffset)
    {operation : Operation} (hadmits : a.Admits operation) :
    (a.perform operation).1.uncounted = (b.perform operation).1.uncounted ∧
      Alike (a.perform operation).2 (b.perform operation).2 := by
  have hask {p q : Option Request × Editor} (hmatches : Matches p q) :
      (Outcome.ofRequest? p.1).uncounted = (Outcome.ofRequest? q.1).uncounted ∧ Alike p.2 q.2 :=
    ⟨by rw [hmatches.told], hmatches.alike⟩
  have hresult {p q : Except EditorError Unit × Editor} (hmatches : Matches p q) :
      (Outcome.ofResult p.1).uncounted = (Outcome.ofResult q.1).uncounted ∧ Alike p.2 q.2 :=
    ⟨by rw [hmatches.told], hmatches.alike⟩
  cases operation with
  | key event => exact hask (h.handleKey hbound hadmits event)
  | executeLine line => exact hask (h.executeLine hbound line)
  | selectGrammar language => exact ⟨rfl, h.selectGrammar language⟩
  | selectGrammarById id => exact hresult (h.selectGrammarById id)
  | setFileName path => exact ⟨rfl, h.setFileName path⟩
  | loadText text => exact ⟨rfl, h.loadText text⟩
  | openStream source =>
      obtain ⟨reader, rfl, hreader⟩ := hadmits
      obtain ⟨m, n, x, y, hx, hy, halike⟩ := h.openStream hreader
      simp only [Editor.perform]
      rw [hx, hy]
      exact ⟨rfl, halike⟩
  | finishLoading =>
      obtain ⟨x, y, hx, hy, halike, -⟩ := h.finishLoading
      simp only [Editor.perform]
      rw [hx, hy]
      exact ⟨rfl, halike⟩
  | resize width height => exact ⟨rfl, h.resize width height⟩
  | goto line column => exact ⟨rfl, h.goto hbound line column⟩
  | markSaved => exact ⟨rfl, h.markSaved⟩
  | setStatus message => exact ⟨rfl, h.setStatus message⟩
  | clearStatus => exact ⟨rfl, h.map (·.clearStatus) (fun _ => rfl) fun _ => rfl⟩
  | setDiagnostics diagnostics => exact absurd hadmits id
  | setFormatter formatter =>
      exact ⟨rfl, h.map ({ · with formatter := some formatter }) (fun _ => rfl) fun _ => rfl⟩
  | formatWith formatter =>
      have hmatches := h.formatWith formatter
      exact ⟨congrArg Outcome.formatted hmatches.told, hmatches.alike⟩
  | insertChar c => exact ⟨rfl, h.insertChar c⟩
  | insertText text => exact ⟨rfl, h.insertText text⟩
  | insertTab => exact ⟨rfl, h.insertText ['\t']⟩
  | backspace => exact ⟨rfl, h.backspace⟩
  | deleteForward => exact ⟨rfl, h.deleteForward hbound⟩
  | splitLine => exact ⟨rfl, h.splitLine⟩
  | moveLeft => exact ⟨rfl, h.moveLeft⟩
  | moveRight => exact ⟨rfl, h.moveRight hbound⟩
  | moveUp => exact ⟨rfl, h.moveUp hbound⟩
  | moveDown => exact ⟨rfl, h.moveDown hbound⟩
  | pageUp => exact ⟨rfl, h.pageUp hbound⟩
  | pageDown => exact ⟨rfl, h.pageDown hbound⟩
  | moveHome => exact ⟨rfl, h.moveHome⟩
  | moveEnd => exact ⟨rfl, h.moveEnd⟩
  | moveWordLeft => exact ⟨rfl, h.moveWordLeft⟩
  | moveWordRight => exact ⟨rfl, h.moveWordRight⟩

/-! ## Runs -/

/-- Before each of some operations the document is no longer than offsets go, as it has to be for a
line to have a number, and the operation is one that does not look at the loaded lines for what they
are. -/
def AdmitsAll (editor : Editor) : List Operation → Prop
  | [] => True
  | operation :: operations =>
      editor.document.length ≤ maxOffset ∧ editor.Admits operation ∧
        (editor.perform operation).2.AdmitsAll operations

/-- A run comes to the same for editors that are alike, but for the number of lines that are loaded
first. -/
theorem Alike.performAll (h : Alike a b) {operations : List Operation}
    (hadmits : a.AdmitsAll operations) :
    (a.performAll operations).1.map Outcome.uncounted =
        (b.performAll operations).1.map Outcome.uncounted ∧
      Alike (a.performAll operations).2 (b.performAll operations).2 := by
  induction operations generalizing a b with
  | nil => exact ⟨rfl, h⟩
  | cons operation operations ih =>
      obtain ⟨hbound, hfirst, hrest⟩ := hadmits
      obtain ⟨htold, halike⟩ := h.perform hbound hfirst
      obtain ⟨htolds, hlast⟩ := ih halike hrest
      exact ⟨List.cons_eq_cons.2 ⟨htold, htolds⟩, hlast⟩

/-- Counts of lines are not among the requests. -/
theorem requests_uncounted (outcomes : List Outcome) :
    requests (outcomes.map Outcome.uncounted) = requests outcomes := by
  unfold requests
  rw [List.filterMap_map]
  refine congrArg (List.filterMap · outcomes) (funext fun outcome => ?_)
  cases outcome with
  | _ => rfl

/-- New editors are alike whatever the size of their chunks and their margins. -/
theorem alike_new (settings : Settings) (chunk other : Nat) {margin further : Nat}
    (hmargin : 1 ≤ margin) (hfurther : 1 ≤ further) :
    Alike (new (settings.withChunks chunk margin)) (new (settings.withChunks other further)) := by
  have hfluent (chunk : Nat) {margin : Nat} (hmargin : 1 ≤ margin) :
      (new (settings.withChunks chunk margin)).Fluent :=
    ⟨⟨fun _ hnone => (nomatch hnone), Nat.le_max_right _ _, hmargin, List.cons_ne_nil _ _⟩,
      Nat.zero_lt_one, .inr rfl⟩
  exact ⟨rfl, hfluent chunk hmargin, hfluent other hfurther⟩

/-- Streaming is invisible. Two new editors that differ only in the size of their chunks and in how
far they read ahead open the same reader, which does not fail, and after that the same is done with
both, anything but searching and jumping to diagnostics: then both show the same, have asked the
same of the host, with the same contents to be saved, and have the same document, made of the lines
that are loaded and those still to be read. -/
theorem performAll_openStream_eq {settings : Settings} {chunk₁ chunk₂ margin₁ margin₂ : Nat}
    (hmargin₁ : 1 ≤ margin₁) (hmargin₂ : 1 ≤ margin₂) {reader : ByteReader}
    (hreader : reader.Unfailing) {operations : List Operation}
    (hadmits : ((new (settings.withChunks chunk₁ margin₁)).perform
      (.openStream (.reader reader))).2.AdmitsAll operations) :
    let first := (new (settings.withChunks chunk₁ margin₁)).performAll
      (.openStream (.reader reader) :: operations)
    let second := (new (settings.withChunks chunk₂ margin₂)).performAll
      (.openStream (.reader reader) :: operations)
    first.2.cursor = second.2.cursor ∧ first.2.viewport = second.2.viewport ∧
      first.2.mode = second.2.mode ∧ first.2.dirty = second.2.dirty ∧
      first.2.status = second.2.status ∧ first.2.statusLine = second.2.statusLine ∧
      first.2.document = second.2.document ∧ requests first.1 = requests second.1 := by
  intro first second
  have hnew := alike_new settings chunk₁ chunk₂ hmargin₁ hmargin₂
  have hbound : (new (settings.withChunks chunk₁ margin₁)).document.length ≤ maxOffset := by
    show 1 ≤ maxOffset
    decide
  have hall : (new (settings.withChunks chunk₁ margin₁)).AdmitsAll
      (.openStream (.reader reader) :: operations) :=
    ⟨hbound, ⟨reader, rfl, hreader⟩, hadmits⟩
  obtain ⟨htold, halike⟩ := hnew.performAll hall
  have hrequests : requests first.1 = requests second.1 := by
    rw [← requests_uncounted first.1, ← requests_uncounted second.1]
    exact congrArg requests htold
  have houtline : first.2.outline = second.2.outline := halike.outline
  exact ⟨congrArg (·.cursor) houtline, congrArg (·.viewport) houtline, congrArg (·.mode) houtline,
    congrArg (·.dirty) houtline, congrArg (·.status) houtline, congrArg (·.statusLine) houtline,
    document_eq houtline, hrequests⟩

/-- Four lines, read one at a time and as far as the line after the cursor's, or all at once: a line
is typed over and joined to the one before, while one of the editors has not read the last line. -/
theorem performAll_openStream_eq_one_by_one :
    let reader : ByteReader := ⟨[], [[97, 10, 98], [10, 99, 10, 100, 10]], none⟩
    let operations : List Operation :=
      [.moveDown, .insertChar 'x', .moveUp, .moveEnd, .deleteForward]
    let first := (new (Settings.usual.withChunks 1 1)).performAll
      (.openStream (.reader reader) :: operations)
    let second := (new (Settings.usual.withChunks 9 1)).performAll
      (.openStream (.reader reader) :: operations)
    1 ≤ 1 ∧ reader.Unfailing ∧
      ((new (Settings.usual.withChunks 1 1)).perform
        (.openStream (.reader reader))).2.AdmitsAll operations ∧
      first.2.buffer.lines = [['a', 'x', 'b'], ['c']] ∧
      second.2.buffer.lines = [['a', 'x', 'b'], ['c'], ['d']] ∧
      first.2.document = second.2.document ∧ second.2.cursor = ⟨0, 1, 1⟩ := by
  intro reader operations first second
  have hreader : reader.Unfailing := ⟨rfl, by decide⟩
  have hadmits : ((new (Settings.usual.withChunks 1 1)).perform
      (.openStream (.reader reader))).2.AdmitsAll operations := by
    refine ⟨?_, trivial, ?_, trivial, ?_, trivial, ?_, trivial, ?_, trivial, trivial⟩
    · decide +kernel
    · decide +kernel
    · decide +kernel
    · decide +kernel
    · decide +kernel
  have hsame : first.2.cursor = second.2.cursor ∧ _ :=
    performAll_openStream_eq (Nat.le_refl 1) (Nat.le_refl 1) hreader hadmits
  obtain ⟨hcursor, -, -, -, -, -, hdocument, -⟩ := hsame
  have hlines : first.2.buffer.lines = [['a', 'x', 'b'], ['c']] := by decide +kernel
  have hothers : second.2.buffer.lines = [['a', 'x', 'b'], ['c'], ['d']] := by decide +kernel
  have hplace : first.2.cursor = ⟨0, 1, 1⟩ := by decide +kernel
  exact ⟨Nat.le_refl 1, hreader, hadmits, hlines, hothers, hdocument, hcursor.symm.trans hplace⟩

end Editor

end TextEditor
