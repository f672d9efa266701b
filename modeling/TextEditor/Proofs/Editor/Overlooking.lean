import TextEditor.Proofs.Editor.Searching
import TextEditor.Proofs.Editor.Streaming

/-!
# What is overlooked while lines are still to be read

A search and the jump to a diagnostic look at the loaded lines, not at those that the stream has
still to bring. An operation of an editor sees what it looks for if the lines to come have no part
in it. Operations that see it come to the same however much has been loaded, and an operation that
does not comes to something else than with the whole document at hand: so editors that differ only
in how they read their streams show the same just as long as all of them see what they look for.

Main statements: `Alike.perform_of_sees` and `Alike.sees_of_shown` for one operation,
`Alike.performAll_of_seesAll` and `Alike.seesAll_of_shown` for runs, and from them
`seesAll_reading_iff` and `shown_reading_eq_iff`.
-/

namespace TextEditor

/-! ## The keys of a search -/

/-- What a key does to a search: end it, nothing, look for another query, or select a result. -/
inductive SearchStep where
  | leave
  | stay
  | look (query : Text)
  | select (search : LineSearch)

/-- The step that a key takes in a search. -/
def KeyEvent.searchStep (event : KeyEvent) (search : LineSearch) : SearchStep :=
  match event.key with
  | .escape | .enter => .leave
  | .backspace => if search.query.isEmpty then .select search else .look search.query.dropLast
  | .down | .right => .select search.next
  | .up | .left => .select search.previous
  | _ => (event.typed?.map fun c => .look (search.query ++ [c])).getD .stay

/-- Whether the streams that an operation opens are read from bytes without failing. -/
def Operation.Unfailing : Operation → Prop
  | .openStream source => ∃ reader : ByteReader, source = .reader reader ∧ reader.Unfailing
  | _ => True

namespace Editor

variable {a b editor : Editor} {event : KeyEvent} {line : Nat}

/-- The editor after a step of its search. -/
def afterStep (editor : Editor) : SearchStep → Editor
  | .leave => { editor with mode := .editing }
  | .stay => editor
  | .look query => { editor with search := ⟨query, editor.buffer.find query, 0⟩ }.gotoResult
  | .select search => { editor with search := search }.gotoResult

/-- What a key does to a search is the step that it takes. -/
theorem findKey_eq_afterStep (editor : Editor) (event : KeyEvent) :
    editor.findKey event = editor.afterStep (event.searchStep editor.search) := by
  unfold findKey KeyEvent.searchStep
  generalize event.key = key
  cases key with
  | backspace =>
      simp only [LineSearch.pop]
      split
      · rfl
      · rfl
  | escape | enter | down | right | up | left => rfl
  | _ =>
      simp only
      cases event.typed? with
      | none => rfl
      | some c => rfl

/-! ## The whole document at hand -/

/-- The outline of an editor has the same document. -/
theorem document_outline (editor : Editor) : editor.outline.document = editor.document :=
  List.append_nil _

/-- The outline of an outline is that outline. -/
theorem outline_outline (editor : Editor) : editor.outline.outline = editor.outline := by
  rw [outline, document_outline]
  rfl

/-- The outline of an editor is an editor of the same document that has all of it loaded. -/
theorem Fluent.alike_outline (h : editor.Fluent) : Alike editor editor.outline := by
  refine ⟨editor.outline_outline.symm, h, ⟨⟨nofun, Nat.le_refl 1, Nat.le_refl 1, ?_⟩, ?_, .inr rfl⟩⟩
  · exact fun hnil => h.lines_ne_nil (List.append_eq_nil_iff.1 hnil).1
  · show editor.cursor.line < editor.document.length
    rw [length_document]
    exact Nat.lt_add_right _ h.cursor_lt

/-- Which of two editors that are alike comes first does not matter. -/
theorem Alike.symm (h : Alike a b) : Alike b a := ⟨h.outline.symm, h.right, h.left⟩

/-- Editors that are alike to one in between are alike. -/
theorem Alike.trans {c : Editor} (h : Alike a b) (hnext : Alike b c) : Alike a c :=
  ⟨h.outline.trans hnext.outline, h.left, hnext.right⟩

/-- What a search shows: the cursor, and the lines that have been found. -/
def shown (editor : Editor) : Cursor × List Nat := (editor.cursor, editor.search.results)

/-- Editors that are alike show the same cursor, and the same lines as found. -/
theorem Alike.shown (h : Alike a b) : a.shown = b.shown := congrArg (·.shown) h.outline

/-! ## What an operation looks for -/

/-- The byte offset in a line to which a search goes. -/
def resultColumn (editor : Editor) (line : Nat) : Nat :=
  (Text.find? editor.search.query (editor.buffer.line line)).getD 0

/-- Whether the lines that are still to be read have no part in a step of a search: none of them
holds a query that is looked for, and in the one that is selected, if one of them is, the search
goes to its start. -/
def SeesStep (editor : Editor) : SearchStep → Prop
  | .look query => query ≠ [] → ∀ text ∈ editor.unread, ¬ query <:+: text
  | .select search => ∀ line, search.line? = some line → editor.buffer.length ≤ line →
      { editor.outline with search := search }.resultColumn line = 0
  | _ => True

/-- Whether the lines that are still to be read have no part in what an operation looks for: in a
step of a search, or in the first diagnostic about a line of the document. -/
def Sees (editor : Editor) : Operation → Prop
  | .key event => editor.mode = .find → editor.SeesStep (event.searchStep editor.search)
  | .setDiagnostics diagnostics => ∀ line,
      editor.outline.firstDiagnosticLine? diagnostics = some line → line < editor.buffer.length
  | _ => True

/-! ## Columns of results -/

/-- In a line that is not loaded a search goes to the start. -/
theorem resultColumn_of_length_le (h : editor.buffer.length ≤ line) :
    editor.resultColumn line = 0 := by
  have hline : editor.buffer.line line = [] := by
    rw [LineBuffer.line, LineBuffer.line?, List.getElem?_eq_none h, Option.getD_none]
  rw [resultColumn, hline, Text.find?]
  split
  · rfl
  · rfl

/-- In a loaded line a search goes where it goes in the document. -/
theorem resultColumn_outline_iff :
    editor.resultColumn line = editor.outline.resultColumn line ↔
      (editor.buffer.length ≤ line → editor.outline.resultColumn line = 0) := by
  constructor
  · intro hsame hline
    rw [← hsame, resultColumn_of_length_le hline]
  · intro hcolumn
    rcases Nat.lt_or_ge line editor.buffer.length with hlt | hge
    · rw [resultColumn, resultColumn, line_document hlt]
      rfl
    · rw [resultColumn_of_length_le hge, hcolumn hge]

/-- A search goes to a character boundary. -/
theorem floor_resultColumn (editor : Editor) (line : Nat) :
    (editor.buffer.line line).floor (editor.resultColumn line) = editor.resultColumn line := by
  unfold resultColumn
  cases hfind : Text.find? editor.search.query (editor.buffer.line line) with
  | none => exact Nat.le_zero.1 (Text.floor_le _ 0)
  | some offset =>
      exact Text.floor_eq_of_isBoundary (Text.firstAt_of_find? hfind).isBoundary

/-- A jump ends at the position of the document, or as near as there is one. -/
theorem cursor_jumpTo (h : editor.Streams) (hfinds : editor.Finds line) (column : Nat) :
    (editor.jumpTo line column).cursor =
      .place editor.outline.buffer line column editor.settings.tabWidth := by
  have hstreams : { editor with goalColumn := none }.Streams := h.congr rfl
  have hoff := outline_moveCursor hstreams hfinds column
  exact congrArg (·.cursor) hoff

/-! ## Going to results -/

/-- To go to a result is to jump to the line selected, where the query is first found in it. -/
theorem gotoResult_of_line? (h : editor.search.line? = some line) :
    editor.gotoResult = editor.jumpTo line (editor.resultColumn line) := by
  rw [Editor.gotoResult, h]
  rfl

/-- The selected result is gone to as with the whole document if the search goes to the same column
of it. -/
theorem Fluent.gotoResult (h : editor.Fluent) (hbound : editor.document.length ≤ maxOffset)
    (hcolumn : ∀ line, editor.search.line? = some line →
      editor.resultColumn line = editor.outline.resultColumn line) :
    Alike editor.gotoResult editor.outline.gotoResult := by
  have hwhole := h.alike_outline
  have hsearch : editor.outline.search = editor.search := rfl
  cases hline : editor.search.line? with
  | none =>
      rw [gotoResult_of_line?_eq_none hline,
        gotoResult_of_line?_eq_none ((congrArg LineSearch.line? hsearch).trans hline)]
      exact hwhole
  | some line =>
      rw [gotoResult_of_line? hline,
        gotoResult_of_line? ((congrArg LineSearch.line? hsearch).trans hline), hcolumn line hline]
      exact alike_jumpTo hwhole.outline hwhole.left.toStreams hwhole.right.toStreams
        (.inl hbound) (.inr (.inr rfl)) _

/-- A step of a search that sees what it looks for is the step in the whole document. -/
theorem Fluent.afterStep (h : editor.Fluent) (hbound : editor.document.length ≤ maxOffset)
    {step : SearchStep} (hsees : editor.SeesStep step) :
    Alike (editor.afterStep step) (editor.outline.afterStep step) := by
  cases step with
  | leave => exact h.alike_outline.withMode .editing
  | stay => exact h.alike_outline
  | look query =>
      have hfind := (LineBuffer.find_eq_find_iff_of_append
        (show editor.outline.buffer.lines = editor.buffer.lines ++ editor.unread from rfl)).2 hsees
      simp only [Editor.afterStep]
      rw [← hfind]
      have hsearch : { editor with search := ⟨query, editor.buffer.find query, 0⟩ }.Fluent :=
        h.congr rfl
      refine hsearch.gotoResult hbound fun line hline => resultColumn_outline_iff.2 fun hge => ?_
      -- what has been found is loaded
      have hlt := (LineBuffer.mem_find_iff.1 (List.mem_of_getElem? hline)).1
      exact absurd hlt (Nat.not_lt.2 hge)
  | select search =>
      have hsearch : { editor with search := search }.Fluent := h.congr rfl
      exact hsearch.gotoResult hbound fun line hline =>
        resultColumn_outline_iff.2 (hsees line hline)

/-- In a line of the document the cursor is at the character boundary before where the search
goes. -/
theorem Fluent.column_gotoResult (h : editor.Fluent) (hbound : editor.document.length ≤ maxOffset)
    (hline : editor.search.line? = some line) (hlt : line < editor.document.length) :
    editor.gotoResult.cursor.column =
      (editor.outline.buffer.line line).floor (editor.resultColumn line) := by
  rw [gotoResult_of_line? hline, cursor_jumpTo h.toStreams (.inl hbound), Cursor.place,
    LineBuffer.clampLine_of_lt hlt]

/-- If a line that is not loaded is gone to in the same column as in the whole document, this is its
start. -/
theorem Fluent.resultColumn_eq_zero (h : editor.Fluent)
    (hbound : editor.document.length ≤ maxOffset) (hline : editor.search.line? = some line)
    (hge : editor.buffer.length ≤ line)
    (hcolumns : editor.gotoResult.cursor.column = editor.outline.gotoResult.cursor.column) :
    editor.outline.resultColumn line = 0 := by
  rcases Nat.lt_or_ge line editor.document.length with hlt | hpast
  · have hwhole := h.alike_outline.right
    have hbound' : editor.outline.document.length ≤ maxOffset := by
      rwa [document_outline]
    have hlt' : line < editor.outline.document.length := by
      rwa [document_outline]
    have hthere := hwhole.column_gotoResult hbound' hline hlt'
    rw [outline_outline, floor_resultColumn] at hthere
    calc editor.outline.resultColumn line
        = editor.gotoResult.cursor.column := hthere.symm.trans hcolumns.symm
      _ = (editor.outline.buffer.line line).floor 0 := by
          rw [h.column_gotoResult hbound hline hlt, resultColumn_of_length_le hge]
      _ = 0 := Nat.le_zero.1 (Text.floor_le _ 0)
  · exact resultColumn_of_length_le hpast

/-- A step of a search that shows what the step in the whole document shows sees what it looks
for. -/
theorem Fluent.seesStep_of_shown (h : editor.Fluent) (hbound : editor.document.length ≤ maxOffset)
    {step : SearchStep}
    (hshown : (editor.afterStep step).shown = (editor.outline.afterStep step).shown) :
    editor.SeesStep step := by
  cases step with
  | leave => trivial
  | stay => trivial
  | look query =>
      have hresults : (editor.afterStep (.look query)).search.results =
          (editor.outline.afterStep (.look query)).search.results := congrArg Prod.snd hshown
      simp only [Editor.afterStep, search_of_stance (stance_gotoResult _)] at hresults
      exact (LineBuffer.find_eq_find_iff_of_append rfl).1 hresults
  | select search =>
      intro line hline hge
      have hsearch : { editor with search := search }.Fluent := h.congr rfl
      exact hsearch.resultColumn_eq_zero hbound hline hge (congrArg (·.1.column) hshown)

/-! ## Going to diagnostics -/

/-- The first number below a bound is the first below a smaller one as well, if it is below that. -/
theorem find?_lt_eq_find?_lt {numbers : List Nat} {m n : Nat} (hle : m ≤ n)
    (hfirst : ∀ i, numbers.find? (· < n) = some i → i < m) :
    numbers.find? (· < m) = numbers.find? (· < n) := by
  induction numbers with
  | nil => rfl
  | cons i numbers ih =>
      simp only [List.find?_cons] at hfirst ⊢
      by_cases hi : i < n
      · rw [decide_eq_true hi] at hfirst ⊢
        rw [decide_eq_true (hfirst i rfl)]
      · have hge : ¬ i < m := fun hlt => hi (Nat.lt_of_lt_of_le hlt hle)
        rw [decide_eq_false hi] at hfirst ⊢
        rw [decide_eq_false hge]
        exact ih hfirst

/-- The first diagnostic about a loaded line is the first about the document if that is about a
loaded line. -/
theorem firstDiagnosticLine?_outline {diagnostics : List Diagnostic}
    (h : editor.Sees (.setDiagnostics diagnostics)) :
    editor.firstDiagnosticLine? diagnostics = editor.outline.firstDiagnosticLine? diagnostics := by
  unfold Sees at h
  unfold firstDiagnosticLine? at h ⊢
  show editor.fileName.bind _ = editor.fileName.bind _
  cases hname : editor.fileName with
  | none => rfl
  | some path =>
      have hle : editor.buffer.length ≤ editor.outline.buffer.length := by
        show editor.buffer.length ≤ editor.document.length
        rw [length_document]
        exact Nat.le_add_right _ _
      apply find?_lt_eq_find?_lt hle
      intro line hline
      apply h line
      show editor.fileName.bind _ = some line
      rw [hname]
      exact hline

/-- New diagnostics are put in the place of the others before going to the first of them. -/
theorem setDiagnostics_eq (editor : Editor) (diagnostics : List Diagnostic) :
    editor.setDiagnostics diagnostics =
      match editor.firstDiagnosticLine? diagnostics with
      | some line => { editor with diagnostics := diagnostics }.jumpTo line editor.cursor.column
      | none => { editor with diagnostics := diagnostics } := rfl

/-- Going to the first diagnostic is going to it in the whole document if it is seen. -/
theorem Fluent.setDiagnostics (h : editor.Fluent) (hbound : editor.document.length ≤ maxOffset)
    {diagnostics : List Diagnostic} (hsees : editor.Sees (.setDiagnostics diagnostics)) :
    Alike (editor.setDiagnostics diagnostics) (editor.outline.setDiagnostics diagnostics) := by
  have hwhole : Alike { editor with diagnostics := diagnostics }
      { editor.outline with diagnostics := diagnostics } :=
    h.alike_outline.map ({ · with diagnostics := diagnostics }) (fun _ => rfl) fun _ => rfl
  rw [setDiagnostics_eq, setDiagnostics_eq, ← firstDiagnosticLine?_outline hsees]
  cases editor.firstDiagnosticLine? diagnostics with
  | none => exact hwhole
  | some line =>
      exact alike_jumpTo hwhole.outline hwhole.left.toStreams hwhole.right.toStreams
        (.inl hbound) (.inr (.inr rfl)) _

/-- A diagnostic is looked for among the loaded lines only. -/
theorem firstDiagnosticLine?_lt {diagnostics : List Diagnostic}
    (h : editor.firstDiagnosticLine? diagnostics = some line) : line < editor.buffer.length := by
  obtain ⟨path, -, hfind⟩ := Option.bind_eq_some_iff.1 h
  simpa using List.find?_some hfind

/-- The cursor is on the line of the first diagnostic about a loaded line, if there is one. -/
theorem Fluent.line_setDiagnostics (h : editor.Fluent) {diagnostics : List Diagnostic} :
    (editor.setDiagnostics diagnostics).cursor.line =
      (editor.firstDiagnosticLine? diagnostics).getD editor.cursor.line := by
  rw [setDiagnostics_eq]
  cases hline : editor.firstDiagnosticLine? diagnostics with
  | none => rfl
  | some line =>
      have hlt := firstDiagnosticLine?_lt hline
      have hstreams : { editor with diagnostics := diagnostics }.Streams := h.toStreams.congr rfl
      simp only
      rw [cursor_jumpTo hstreams (.inr (.inl hlt)), Option.getD_some]
      show editor.outline.buffer.clampLine line = line
      apply LineBuffer.clampLine_of_lt
      show line < editor.document.length
      rw [length_document]
      exact Nat.lt_add_right _ hlt

/-- A jump that ends where the jump in the whole document ends has seen the first diagnostic. -/
theorem Fluent.sees_setDiagnostics_of_shown (h : editor.Fluent) {diagnostics : List Diagnostic}
    (hshown : (editor.setDiagnostics diagnostics).shown =
      (editor.outline.setDiagnostics diagnostics).shown) :
    editor.Sees (.setDiagnostics diagnostics) := by
  intro line hline
  have hlines : (editor.setDiagnostics diagnostics).cursor.line =
      (editor.outline.setDiagnostics diagnostics).cursor.line := congrArg (·.1.line) hshown
  rw [h.line_setDiagnostics, h.alike_outline.right.line_setDiagnostics, hline,
    Option.getD_some] at hlines
  rw [← hlines]
  cases hfirst : editor.firstDiagnosticLine? diagnostics with
  | none => exact h.cursor_lt
  | some loaded => exact firstDiagnosticLine?_lt hfirst

/-! ## Operations -/

/-- Nothing is overlooked once all is loaded. -/
theorem sees_of_unread_eq_nil (h : editor.unread = []) (operation : Operation) :
    editor.Sees operation := by
  have hlength : editor.document.length = editor.buffer.length := by
    rw [length_document, h, List.length_nil, Nat.add_zero]
  cases operation with
  | key event =>
      intro _
      cases event.searchStep editor.search with
      | look query =>
          intro _ text htext
          rw [h] at htext
          exact absurd htext List.not_mem_nil
      | select search =>
          intro line _ hge
          apply resultColumn_of_length_le
          show editor.document.length ≤ line
          omega
      | _ => trivial
  | setDiagnostics diagnostics =>
      intro line hline
      have hlt : line < editor.document.length := firstDiagnosticLine?_lt hline
      omega
  | _ => trivial

/-- A key of a search asks nothing of the host. -/
theorem perform_key_of_find (hmode : editor.mode = .find) (event : KeyEvent) :
    editor.perform (.key event) =
      (.nothing, editor.afterStep (event.searchStep editor.search)) := by
  simp only [Editor.perform]
  rw [handleKey_of_find hmode, findKey_eq_afterStep]
  rfl

/-- An operation that sees what it looks for comes to the same as in the whole document. -/
theorem Fluent.perform_of_sees (h : editor.Fluent) (hbound : editor.document.length ≤ maxOffset)
    {operation : Operation} (hopens : operation.Unfailing) (hsees : editor.Sees operation) :
    (editor.perform operation).1.uncounted = (editor.outline.perform operation).1.uncounted ∧
      Alike (editor.perform operation).2 (editor.outline.perform operation).2 := by
  have hwhole := h.alike_outline
  cases operation with
  | key event =>
      by_cases hmode : editor.mode = .find
      · have hmode' : editor.outline.mode = .find := hmode
        rw [perform_key_of_find hmode, perform_key_of_find hmode']
        exact ⟨rfl, h.afterStep hbound (hsees hmode)⟩
      · exact hwhole.perform hbound hmode
  | setDiagnostics diagnostics => exact ⟨rfl, h.setDiagnostics hbound hsees⟩
  | openStream source => exact hwhole.perform hbound hopens
  | _ => exact hwhole.perform hbound trivial

/-- An operation that shows the same as in the whole document sees what it looks for. -/
theorem Fluent.sees_of_shown (h : editor.Fluent) (hbound : editor.document.length ≤ maxOffset)
    {operation : Operation}
    (hshown : (editor.perform operation).2.shown = (editor.outline.perform operation).2.shown) :
    editor.Sees operation := by
  cases operation with
  | key event =>
      intro hmode
      have hmode' : editor.outline.mode = .find := hmode
      rw [perform_key_of_find hmode, perform_key_of_find hmode'] at hshown
      exact h.seesStep_of_shown hbound hshown
  | setDiagnostics diagnostics => exact h.sees_setDiagnostics_of_shown hshown
  | _ => trivial

/-- An operation comes to the same in editors that are alike if both see what it looks for. -/
theorem Alike.perform_of_sees (h : Alike a b) (hbound : a.document.length ≤ maxOffset)
    {operation : Operation} (hopens : operation.Unfailing) (ha : a.Sees operation)
    (hb : b.Sees operation) :
    (a.perform operation).1.uncounted = (b.perform operation).1.uncounted ∧
      Alike (a.perform operation).2 (b.perform operation).2 := by
  have hbound' : b.document.length ≤ maxOffset := document_eq h.outline ▸ hbound
  obtain ⟨htold, hleft⟩ := h.left.perform_of_sees hbound hopens ha
  obtain ⟨htold', hright⟩ := h.right.perform_of_sees hbound' hopens hb
  rw [← h.outline] at htold' hright
  exact ⟨htold.trans htold'.symm, hleft.trans hright.symm⟩

/-- Beside an editor that sees what it looks for, another one shows the same after an operation only
if it sees that as well. -/
theorem Alike.sees_of_shown (h : Alike a b) (hbound : a.document.length ≤ maxOffset)
    {operation : Operation} (hopens : operation.Unfailing) (hb : b.Sees operation)
    (hshown : (a.perform operation).2.shown = (b.perform operation).2.shown) :
    a.Sees operation := by
  have hbound' : b.document.length ≤ maxOffset := document_eq h.outline ▸ hbound
  have hright := (h.right.perform_of_sees hbound' hopens hb).2.shown
  rw [← h.outline] at hright
  exact h.left.sees_of_shown hbound (hshown.trans hright)

/-! ## Runs -/

/-- Before each of some operations the document is no longer than offsets go. -/
def WithinOffsets (editor : Editor) : List Operation → Prop
  | [] => True
  | operation :: operations =>
      editor.document.length ≤ maxOffset ∧ (editor.perform operation).2.WithinOffsets operations

/-- Each of some operations sees what it looks for. -/
def SeesAll (editor : Editor) : List Operation → Prop
  | [] => True
  | operation :: operations =>
      editor.Sees operation ∧ (editor.perform operation).2.SeesAll operations

/-- Some operations come to the same in editors that are alike, and leave them alike, as long as
both see what they look for. -/
theorem Alike.performAll_of_seesAll (h : Alike a b) {operations : List Operation}
    (hopens : ∀ operation ∈ operations, operation.Unfailing) (hwithin : a.WithinOffsets operations)
    (ha : a.SeesAll operations) (hb : b.SeesAll operations) (n : Nat) :
    (a.performAll (operations.take n)).1.map Outcome.uncounted =
        (b.performAll (operations.take n)).1.map Outcome.uncounted ∧
      Alike (a.performAll (operations.take n)).2 (b.performAll (operations.take n)).2 := by
  induction operations generalizing a b n with
  | nil =>
      rw [List.take_nil]
      exact ⟨rfl, h⟩
  | cons operation operations ih =>
      obtain ⟨hbound, hrest⟩ := hwithin
      obtain ⟨hsees, hsees'⟩ := ha
      obtain ⟨hother, hother'⟩ := hb
      cases n with
      | zero => exact ⟨rfl, h⟩
      | succ n =>
          have hopened := hopens operation (List.mem_cons_self ..)
          obtain ⟨htold, halike⟩ := h.perform_of_sees hbound hopened hsees hother
          have hlater : ∀ later ∈ operations, later.Unfailing := by
            intro later hmem
            exact hopens later (List.mem_cons_of_mem _ hmem)
          obtain ⟨htolds, hlast⟩ := ih halike hlater hrest hsees' hother' n
          exact ⟨List.cons_eq_cons.2 ⟨htold, htolds⟩, hlast⟩

/-! ## Reading everything at once -/

/-- How far an editor reads ahead of its cursor is not for an operation to change. -/
theorem prefetchMargin_perform (editor : Editor) (operation : Operation) :
    (editor.perform operation).2.settings.prefetchMargin = editor.settings.prefetchMargin := by
  obtain ⟨width, height, hsettings⟩ := settings_perform editor operation
  rw [hsettings]
  rfl

/-- An editor that reads as far ahead as offsets go has read everything. -/
theorem Fluent.unread_eq_nil (h : editor.Fluent) (hbound : editor.document.length ≤ maxOffset)
    (hmargin : editor.settings.prefetchMargin = maxOffset) : editor.unread = [] := by
  rcases h.prefetched with hloaded | hnone
  · have hlt := add_margin_lt hbound hloaded
    have hlength := length_document editor
    omega
  · exact hnone

/-- Beside an editor that reads everything at once, another one shows the same after each of some
operations only if all of these see what they look for. -/
theorem Alike.seesAll_of_shown (h : Alike a b) {operations : List Operation}
    (hopens : ∀ operation ∈ operations, operation.Unfailing) (hwithin : b.WithinOffsets operations)
    (hmargin : b.settings.prefetchMargin = maxOffset)
    (hshown : ∀ n, (a.performAll (operations.take n)).2.shown =
      (b.performAll (operations.take n)).2.shown) :
    a.SeesAll operations := by
  induction operations generalizing a b with
  | nil => trivial
  | cons operation operations ih =>
      obtain ⟨hbound, hrest⟩ := hwithin
      have hbound' : a.document.length ≤ maxOffset := document_eq h.outline ▸ hbound
      have hb := sees_of_unread_eq_nil (h.right.unread_eq_nil hbound hmargin) operation
      have hopened := hopens operation (List.mem_cons_self ..)
      -- the first operation on its own is the run of length one
      have ha := h.sees_of_shown hbound' hopened hb (hshown 1)
      refine ⟨ha, ih (h.perform_of_sees hbound' hopened ha hb).2 ?_ hrest ?_ ?_⟩
      · intro later hmem
        exact hopens later (List.mem_cons_of_mem _ hmem)
      · rw [prefetchMargin_perform, hmargin]
      · intro n
        exact hshown (n + 1)

/-- An editor that reads everything at once sees what it looks for, as it shows what it shows. -/
theorem Fluent.seesAll_of_margin (h : editor.Fluent) {operations : List Operation}
    (hopens : ∀ operation ∈ operations, operation.Unfailing)
    (hwithin : editor.WithinOffsets operations)
    (hmargin : editor.settings.prefetchMargin = maxOffset) : editor.SeesAll operations := by
  have hsame : Alike editor editor := ⟨rfl, h, h⟩
  exact hsame.seesAll_of_shown hopens hwithin hmargin fun _ => rfl

/-! ## Streams read in different ways -/

/-- A new editor that has opened a reader, which it reads in chunks of a size and up to a margin
after its cursor. -/
def reading (settings : Settings) (reader : ByteReader) (chunk margin : Nat) : Editor :=
  ((new (settings.withChunks chunk margin)).perform (.openStream (.reader reader))).2

/-- Editors that have opened the same reader are alike, however large their chunks are and however
far they read ahead, unless one of them does not read ahead at all. -/
theorem alike_reading (settings : Settings) {reader : ByteReader} (hreader : reader.Unfailing)
    (chunk other : Nat) {margin further : Nat} (hmargin : 1 ≤ margin) (hfurther : 1 ≤ further) :
    Alike (reading settings reader chunk margin) (reading settings reader other further) := by
  have hnew := alike_new settings chunk other hmargin hfurther
  have hbound : (new (settings.withChunks chunk margin)).document.length ≤ maxOffset := by
    show 1 ≤ maxOffset
    decide
  have hadmits : (new (settings.withChunks chunk margin)).Admits (.openStream (.reader reader)) :=
    ⟨reader, rfl, hreader⟩
  exact (hnew.perform hbound hadmits).2

section Reading

variable {settings : Settings} {reader : ByteReader} {operations : List Operation}

/-- An editor shows what the one shows that reads everything at once just as long as it sees what it
looks for. -/
theorem seesAll_reading_iff (hreader : reader.Unfailing)
    (hopens : ∀ operation ∈ operations, operation.Unfailing)
    (hwithin : (reading settings reader 1 maxOffset).WithinOffsets operations) {chunk margin : Nat}
    (hmargin : 1 ≤ margin) :
    (reading settings reader chunk margin).SeesAll operations ↔
      ∀ n, ((reading settings reader chunk margin).performAll (operations.take n)).2.shown =
        ((reading settings reader 1 maxOffset).performAll (operations.take n)).2.shown := by
  have hpos : 1 ≤ maxOffset := by decide
  have hwhole := alike_reading settings hreader 1 chunk hpos hmargin
  have hahead : (reading settings reader 1 maxOffset).settings.prefetchMargin = maxOffset :=
    prefetchMargin_perform ..
  constructor
  · intro hsees n
    have hall := hwhole.left.seesAll_of_margin hopens hwithin hahead
    exact (hwhole.performAll_of_seesAll hopens hwithin hall hsees n).2.shown.symm
  · intro hshown
    exact hwhole.symm.seesAll_of_shown hopens hwithin hahead hshown

/-- Two editors that see what they look for show the same, however they read. -/
theorem shown_eq_of_seesAll (hreader : reader.Unfailing)
    (hopens : ∀ operation ∈ operations, operation.Unfailing)
    (hwithin : (reading settings reader 1 maxOffset).WithinOffsets operations)
    {chunk other margin further : Nat} (hmargin : 1 ≤ margin) (hfurther : 1 ≤ further)
    (hfirst : (reading settings reader chunk margin).SeesAll operations)
    (hsecond : (reading settings reader other further).SeesAll operations) (n : Nat) :
    ((reading settings reader chunk margin).performAll (operations.take n)).2.shown =
      ((reading settings reader other further).performAll (operations.take n)).2.shown := by
  have hleft := (seesAll_reading_iff hreader hopens hwithin hmargin).1 hfirst n
  have hright := (seesAll_reading_iff hreader hopens hwithin hfurther).1 hsecond n
  exact hleft.trans hright.symm

/-- Searches and jumps to diagnostics depend on how a stream is read just as far as something is
overlooked. Two editors that open a reader, which does not fail, with chunks and margins of their
own show the same cursor and the same results after each of some operations, if in both of them each
operation sees what it looks for: no line that is still to be read holds the query when this
changes, or is selected and holds it after its start, or has the first diagnostic. All such editors
show the same only if this is so in all of them. The document, seen in the editor that reads
everything at once, is to be no longer than offsets go. -/
theorem shown_reading_eq_iff (hreader : reader.Unfailing)
    (hopens : ∀ operation ∈ operations, operation.Unfailing)
    (hwithin : (reading settings reader 1 maxOffset).WithinOffsets operations) :
    (∀ chunk₁ chunk₂ margin₁ margin₂, 1 ≤ margin₁ → 1 ≤ margin₂ →
      (reading settings reader chunk₁ margin₁).SeesAll operations →
      (reading settings reader chunk₂ margin₂).SeesAll operations → ∀ n,
      ((reading settings reader chunk₁ margin₁).performAll (operations.take n)).2.shown =
        ((reading settings reader chunk₂ margin₂).performAll (operations.take n)).2.shown) ∧
      ((∀ chunk₁ chunk₂ margin₁ margin₂, 1 ≤ margin₁ → 1 ≤ margin₂ → ∀ n,
        ((reading settings reader chunk₁ margin₁).performAll (operations.take n)).2.shown =
          ((reading settings reader chunk₂ margin₂).performAll (operations.take n)).2.shown) ↔
        ∀ chunk margin, 1 ≤ margin →
          (reading settings reader chunk margin).SeesAll operations) := by
  refine ⟨?_, ?_, ?_⟩
  · intro chunk₁ chunk₂ margin₁ margin₂ hmargin₁ hmargin₂ hfirst hsecond
    exact shown_eq_of_seesAll hreader hopens hwithin hmargin₁ hmargin₂ hfirst hsecond
  · intro hshown chunk margin hmargin
    apply (seesAll_reading_iff hreader hopens hwithin hmargin).2
    intro n
    exact hshown chunk 1 margin maxOffset hmargin (by decide) n
  · intro hsees chunk₁ chunk₂ margin₁ margin₂ hmargin₁ hmargin₂
    exact shown_eq_of_seesAll hreader hopens hwithin hmargin₁ hmargin₂
      (hsees chunk₁ margin₁ hmargin₁) (hsees chunk₂ margin₂ hmargin₂)

end Reading

/-- Of four lines the last is to have a diagnostic. Two editors that read all of them at once show
the same, but one that has read two of them overlooks it, so that not all editors do. -/
theorem shown_reading_eq_iff_diagnostic :
    let reader : ByteReader := ⟨[], [[97, 10, 98], [10, 99, 10, 100, 10]], none⟩
    let operations : List Operation :=
      [.setFileName ['a'], .setDiagnostics [⟨['a'], 3, "unused"⟩]]
    reader.Unfailing ∧ (∀ operation ∈ operations, operation.Unfailing) ∧
      (reading .usual reader 1 maxOffset).WithinOffsets operations ∧
      (reading .usual reader 4 1).SeesAll operations ∧
      (reading .usual reader 9 1).SeesAll operations ∧
      ((reading .usual reader 4 1).performAll operations).2.shown =
        ((reading .usual reader 9 1).performAll operations).2.shown ∧
      ¬ (reading .usual reader 1 1).SeesAll operations ∧
      ¬ ∀ chunk₁ chunk₂ margin₁ margin₂, 1 ≤ margin₁ → 1 ≤ margin₂ → ∀ n,
        ((reading .usual reader chunk₁ margin₁).performAll (operations.take n)).2.shown =
          ((reading .usual reader chunk₂ margin₂).performAll (operations.take n)).2.shown := by
  intro reader operations
  have hreader : reader.Unfailing := ⟨rfl, by decide⟩
  have hopens : ∀ operation ∈ operations, operation.Unfailing := by
    intro operation hmem
    rcases List.mem_cons.1 hmem with rfl | hmem
    · trivial
    · obtain rfl := List.mem_singleton.1 hmem
      trivial
  have hwithin : (reading .usual reader 1 maxOffset).WithinOffsets operations := by
    refine ⟨?_, ?_, trivial⟩
    · decide +kernel
    · decide +kernel
  have hfour : (reading .usual reader 4 1).SeesAll operations :=
    ⟨trivial, sees_of_unread_eq_nil (by decide +kernel) _, trivial⟩
  have hnine : (reading .usual reader 9 1).SeesAll operations :=
    ⟨trivial, sees_of_unread_eq_nil (by decide +kernel) _, trivial⟩
  have hoverlooks : ¬ (reading .usual reader 1 1).SeesAll operations := by
    rintro ⟨-, hsees, -⟩
    have hlength : ((reading .usual reader 1 1).setFileName ['a']).buffer.length = 2 := by
      decide +kernel
    have hlt : 3 < ((reading .usual reader 1 1).setFileName ['a']).buffer.length :=
      hsees 3 (by decide +kernel)
    omega
  obtain ⟨hsame, hall⟩ := shown_reading_eq_iff hreader hopens hwithin
  refine ⟨hreader, hopens, hwithin, hfour, hnine, ?_, hoverlooks, ?_⟩
  · exact hsame 4 9 1 1 (Nat.le_refl 1) (Nat.le_refl 1) hfour hnine 2
  · intro hshown
    exact hoverlooks (hall.1 hshown 1 1 (Nat.le_refl 1))

/-- The same reader, read one line at a time or all at once: the search for what the last line holds
finds nothing in the one editor and goes to it in the other. -/
theorem search_overlooks_last_line :
    let reader : ByteReader := ⟨[], [[97, 10, 98], [10, 99, 10, 100, 10]], none⟩
    let search : List Operation :=
      [.key { key := .char 'f', ctrl := true }, .key (.plain (.char 'd'))]
    reader.Unfailing ∧
      ((reading .usual reader 1 1).performAll search).2.shown = (⟨0, 0, 0⟩, []) ∧
      ((reading .usual reader 9 1).performAll search).2.shown = (⟨3, 0, 0⟩, [3]) := by
  intro reader search
  refine ⟨⟨rfl, by decide⟩, ?_, ?_⟩
  · decide +kernel
  · decide +kernel

end Editor

end TextEditor
