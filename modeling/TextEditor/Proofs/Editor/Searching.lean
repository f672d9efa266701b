import TextEditor.Proofs.Editor.Settling
import TextEditor.Proofs.Editor.Stance
import TextEditor.Proofs.Editor.Untouched
import TextEditor.Proofs.Prompt.Cycling

/-!
# Searching

While a search is typed the editor keeps the numbers of the lines that hold the query, looked up
when the query last changed, and the cursor at the one selected. Going to a result may read lines of
the stream, which are not looked at before the query changes again; the lines that are there stay.

Main statements: `Searched.handleKey`, what every key of a search keeps; `Searched.goesOn_goesBack`
and `Searched.goesBack_goesOn`, the arrows undo each other; and `search_keys` for a whole search.
-/

namespace TextEditor

/-- The keys that go on to the next result. -/
def KeyEvent.GoesOn (event : KeyEvent) : Prop := event.key = .down ∨ event.key = .right

/-- The keys that go back to the result before. -/
def KeyEvent.GoesBack (event : KeyEvent) : Prop := event.key = .up ∨ event.key = .left

/-! ## Loading more lines -/

section Prefix

variable {a b : LineBuffer} {line : Nat}

/-- A line that is loaded stays when more lines are. -/
theorem LineBuffer.line_eq_of_prefix (h : a.lines <+: b.lines) (hline : line < a.length) :
    b.line line = a.line line := by
  obtain ⟨rest, hrest⟩ := h
  have hlt : line < a.lines.length := hline
  rw [LineBuffer.line, line?, LineBuffer.line, line?, ← hrest, List.getElem?_append_left hlt]

/-- When more lines are loaded a buffer does not get shorter. -/
theorem LineBuffer.length_le_of_prefix (h : a.lines <+: b.lines) : a.length ≤ b.length :=
  h.length_le

/-- A cursor at a line that is there stays when more lines are loaded. -/
theorem Cursor.place_eq_of_prefix (h : a.lines <+: b.lines) (hline : line < a.length)
    (column tabWidth : Nat) :
    Cursor.place b line column tabWidth = .place a line column tabWidth := by
  have hmore : line < b.length := Nat.lt_of_lt_of_le hline (LineBuffer.length_le_of_prefix h)
  simp only [Cursor.place, LineBuffer.clampLine_of_lt hline, LineBuffer.clampLine_of_lt hmore,
    LineBuffer.line_eq_of_prefix h hline]

/-- A cursor at the first occurrence of a text in a line is there. -/
theorem Cursor.place_find {needle : Text} (hline : line < a.length)
    (hholds : needle <:+: a.line line) (tabWidth : Nat) :
    let cursor := Cursor.place a line ((Text.find? needle (a.line line)).getD 0) tabWidth
    cursor.line = line ∧ Text.FirstAt needle (a.line line) cursor.column := by
  obtain ⟨offset, hoffset⟩ := Option.isSome_iff_exists.1 (Text.isSome_find?_iff.2 hholds)
  have hfirst := Text.firstAt_of_find? hoffset
  have hfloor := Text.floor_eq_of_isBoundary hfirst.isBoundary
  intro cursor
  have hcursor : cursor = ⟨line, offset, (a.line line).visualColumn offset tabWidth⟩ := by
    simp only [cursor, Cursor.place, LineBuffer.clampLine_of_lt hline, hoffset, Option.getD_some,
      hfloor]
  rw [hcursor]
  exact ⟨rfl, hfirst⟩

end Prefix

namespace Editor

variable {editor after : Editor} {looked : LineBuffer} {event : KeyEvent}

/-- The cursor at the query in a line. -/
def resultCursor (editor : Editor) (line : Nat) : Cursor :=
  .place editor.buffer line ((Text.find? editor.search.query (editor.buffer.line line)).getD 0)
    editor.settings.tabWidth

/-- A search whose query has last changed when the buffer was `looked`. -/
structure Searched (looked : LineBuffer) (editor : Editor) : Prop where
  mode : editor.mode = .find
  loaded : looked.lines <+: editor.buffer.lines
  search : LineSearch.Of looked editor.search
  cursor : ∀ line, editor.search.line? = some line → editor.cursor = editor.resultCursor line

/-- The cursor is at the first occurrence of the query in the selected line. -/
theorem Searched.cursor_firstAt (h : Searched looked editor)
    (hresults : editor.search.results ≠ []) :
    editor.search.line? = some editor.cursor.line ∧
      Text.FirstAt editor.search.query editor.currentLine editor.cursor.column := by
  obtain ⟨line, hline⟩ := h.search.exists_line? hresults
  obtain ⟨hlt, -, hholds⟩ := h.search.mem_results.1 (List.mem_of_getElem? hline)
  have hmore : line < editor.buffer.length :=
    Nat.lt_of_lt_of_le hlt (LineBuffer.length_le_of_prefix h.loaded)
  rw [← LineBuffer.line_eq_of_prefix h.loaded hlt] at hholds
  obtain ⟨hat, hfirst⟩ := Cursor.place_find hmore hholds editor.settings.tabWidth
  rw [currentLine, h.cursor line hline, resultCursor, hat]
  exact ⟨hline, hfirst⟩

/-! ## Going to the selected result -/

/-- The search is part of the stance. -/
theorem search_of_stance {before : Editor} (h : after.stance = before.stance) :
    after.search = before.search := congrArg (·.2.1) h

/-- Without a result there is nowhere to go. -/
theorem gotoResult_of_line?_eq_none (h : editor.search.line? = none) :
    editor.gotoResult = editor := by
  rw [gotoResult, h]

/-- The cursor goes to the query in the line selected, even if lines are read on the way. -/
theorem cursor_gotoResult {line : Nat} (h : editor.search.line? = some line)
    (hline : line < editor.buffer.length) :
    editor.gotoResult.cursor = editor.gotoResult.resultCursor line := by
  have hsearch := search_of_stance (stance_gotoResult editor)
  have hlines := (untouched_gotoResult editor).lines_kept
  rw [resultCursor, hsearch, LineBuffer.line_eq_of_prefix hlines hline]
  rw [gotoResult, h]
  rfl

/-- Going to the result that is selected puts the cursor where a search has it. -/
theorem searched_gotoResult (hmode : editor.mode = .find)
    (hloaded : looked.lines <+: editor.buffer.lines)
    (hsearch : LineSearch.Of looked editor.search) :
    Searched looked editor.gotoResult := by
  have hstance := stance_gotoResult editor
  refine ⟨(congrArg (·.1) hstance).trans hmode, ?_, ?_, ?_⟩
  · exact hloaded.trans (untouched_gotoResult editor).lines_kept
  · rwa [search_of_stance hstance]
  · intro line hline
    rw [search_of_stance hstance] at hline
    apply cursor_gotoResult hline
    exact Nat.lt_of_lt_of_le (hsearch.line?_lt hline) (LineBuffer.length_le_of_prefix hloaded)

/-! ## Keys -/

/-- A key ends the search, does nothing to it, or goes to the selected result of another one: that
of a new query in the lines as they are, or that of the same query in the same lines. -/
theorem findKey_cases (editor : Editor) (event : KeyEvent) :
    (event.key = .escape ∨ event.key = .enter) ∧
        editor.findKey event = { editor with mode := .editing } ∨
      editor.findKey event = editor ∨
      ∃ search, editor.findKey event = { editor with search := search }.gotoResult ∧
        (search.query ≠ editor.search.query ∧ LineSearch.Of editor.buffer search ∨
          search.query = editor.search.query ∧
            ∀ {looked}, LineSearch.Of looked editor.search → LineSearch.Of looked search) := by
  unfold findKey
  split
  · next hkey => exact .inl ⟨.inl hkey, rfl⟩
  · next hkey => exact .inl ⟨.inr hkey, rfl⟩
  · refine .inr (.inr ⟨_, rfl, ?_⟩)
    rcases editor.search.pop_cases editor.buffer with hsame | hnew
    · rw [hsame]
      exact .inr ⟨rfl, id⟩
    · exact .inl hnew
  · exact .inr (.inr ⟨_, rfl, .inr ⟨editor.search.next_kept.1, .next⟩⟩)
  · exact .inr (.inr ⟨_, rfl, .inr ⟨editor.search.next_kept.1, .next⟩⟩)
  · exact .inr (.inr ⟨_, rfl, .inr ⟨editor.search.previous_kept.1, .previous⟩⟩)
  · exact .inr (.inr ⟨_, rfl, .inr ⟨editor.search.previous_kept.1, .previous⟩⟩)
  · split
    · next c _ =>
        exact .inr (.inr ⟨_, rfl, .inl ⟨editor.search.query_push_ne c editor.buffer,
          LineSearch.of_refresh _ editor.buffer⟩⟩)
    · exact .inr (.inl rfl)

/-- The buffer in which the query is looked up after a key, if it was `looked` before: the one at
hand when the key changes the query. -/
def lookedAfter (editor : Editor) (looked : LineBuffer) (event : KeyEvent) : LineBuffer :=
  if (editor.handleKey event).2.search.query = editor.search.query then looked else editor.buffer

/-- In a search a key asks nothing of the host. -/
theorem handleKey_of_find (h : editor.mode = .find) (event : KeyEvent) :
    editor.handleKey event = (none, editor.findKey event) := by
  rw [handleKey, h]

/-- Every key that does not end the search goes on with it. -/
theorem Searched.handleKey (h : Searched looked editor) (hescape : event.key ≠ .escape)
    (henter : event.key ≠ .enter) :
    Searched (editor.lookedAfter looked event) (editor.handleKey event).2 := by
  rw [lookedAfter, handleKey_of_find h.mode]
  simp only
  rcases findKey_cases editor event with ⟨hend, -⟩ | heq | ⟨search, heq, hsearch⟩
  · rcases hend with hkey | hkey
    · exact absurd hkey hescape
    · exact absurd hkey henter
  · rw [heq, if_pos rfl]
    exact h
  · have hquery : (editor.findKey event).search.query = search.query := by
      rw [heq, search_of_stance (stance_gotoResult _)]
    rw [hquery, heq]
    rcases hsearch with ⟨hnew, hof⟩ | ⟨hsame, hof⟩
    · rw [if_neg hnew]
      exact searched_gotoResult h.mode List.prefix_rfl hof
    · rw [if_pos hsame]
      exact searched_gotoResult h.mode h.loaded (hof h.search)

/-- Nothing moves while no line holds the query. -/
theorem cursor_handleKey_of_results_eq_nil (hmode : editor.mode = .find)
    (h : (editor.handleKey event).2.search.results = []) :
    (editor.handleKey event).2.cursor = editor.cursor := by
  rw [handleKey_of_find hmode] at h ⊢
  simp only at h ⊢
  rcases findKey_cases editor event with ⟨-, heq⟩ | heq | ⟨search, heq, -⟩
  · rw [heq]
  · rw [heq]
  · rw [heq, search_of_stance (stance_gotoResult _)] at h
    have hnone : search.line? = none := by
      rw [LineSearch.line?, h]
      rfl
    rw [heq, gotoResult_of_line?_eq_none hnone]

/-! ## Arrows -/

/-- A key that goes on selects the next result. -/
theorem search_handleKey_of_goesOn (hmode : editor.mode = .find) (h : event.GoesOn) :
    (editor.handleKey event).2.search = editor.search.next := by
  rw [handleKey_of_find hmode, findKey]
  rcases h with h | h
  · rw [h]
    exact search_of_stance (stance_gotoResult _)
  · rw [h]
    exact search_of_stance (stance_gotoResult _)

/-- A key that goes back selects the result before. -/
theorem search_handleKey_of_goesBack (hmode : editor.mode = .find) (h : event.GoesBack) :
    (editor.handleKey event).2.search = editor.search.previous := by
  rw [handleKey_of_find hmode, findKey]
  rcases h with h | h
  · rw [h]
    exact search_of_stance (stance_gotoResult _)
  · rw [h]
    exact search_of_stance (stance_gotoResult _)

/-- An arrow keeps query and results, and with them the lines that were looked at. -/
theorem Searched.arrow (h : Searched looked editor) (harrow : event.GoesOn ∨ event.GoesBack) :
    Searched looked (editor.handleKey event).2 ∧
      (editor.handleKey event).2.search.results = editor.search.results := by
  have hkept : (editor.handleKey event).2.search.query = editor.search.query ∧
      (editor.handleKey event).2.search.results = editor.search.results := by
    rcases harrow with hon | hback
    · rw [search_handleKey_of_goesOn h.mode hon]
      exact editor.search.next_kept
    · rw [search_handleKey_of_goesBack h.mode hback]
      exact editor.search.previous_kept
  have hlooked : editor.lookedAfter looked event = looked := if_pos hkept.1
  have hother : event.key ≠ .escape ∧ event.key ≠ .enter := by
    rcases harrow with (hkey | hkey) | (hkey | hkey)
    all_goals
      rw [hkey]
      decide
  have hafter := h.handleKey hother.1 hother.2
  rw [hlooked] at hafter
  exact ⟨hafter, hkept.2⟩

/-- Two arrows that lead back to the same result lead back to the same cursor. -/
theorem Searched.cursor_handleKey_handleKey (h : Searched looked editor) {first second : KeyEvent}
    (hfirst : first.GoesOn ∨ first.GoesBack) (hsecond : second.GoesOn ∨ second.GoesBack)
    (hsearch : ((editor.handleKey first).2.handleKey second).2.search = editor.search) :
    ((editor.handleKey first).2.handleKey second).2.cursor = editor.cursor := by
  obtain ⟨hthere, hresults⟩ := h.arrow hfirst
  obtain ⟨hback, hagain⟩ := hthere.arrow hsecond
  by_cases hnil : editor.search.results = []
  · rw [cursor_handleKey_of_results_eq_nil hthere.mode (hagain.trans (hresults.trans hnil)),
      cursor_handleKey_of_results_eq_nil h.mode (hresults.trans hnil)]
  · obtain ⟨line, hline⟩ := h.search.exists_line? hnil
    have hlt : line < editor.buffer.length :=
      Nat.lt_of_lt_of_le (h.search.line?_lt hline) (LineBuffer.length_le_of_prefix h.loaded)
    have hlines : editor.buffer.lines <+:
        ((editor.handleKey first).2.handleKey second).2.buffer.lines := by
      rw [handleKey_of_find hthere.mode, handleKey_of_find h.mode]
      exact (untouched_findKey editor first).lines_kept.trans
        (untouched_findKey _ second).lines_kept
    have hsettings := (settles_handleKey (editor.handleKey first).2 second).settings_eq.trans
      (settles_handleKey editor first).settings_eq
    rw [h.cursor line hline, hback.cursor line (hsearch ▸ hline), resultCursor, resultCursor,
      hsearch, hsettings, LineBuffer.line_eq_of_prefix hlines hlt,
      Cursor.place_eq_of_prefix hlines hlt]

/-- Going on and back again leads back to the same result and the same cursor. -/
theorem Searched.goesOn_goesBack (h : Searched looked editor) {down up : KeyEvent}
    (hdown : down.GoesOn) (hup : up.GoesBack) :
    let back := ((editor.handleKey down).2.handleKey up).2
    back.search = editor.search ∧ back.cursor = editor.cursor := by
  have hmode := (h.arrow (.inl hdown)).1.mode
  have hsearch : ((editor.handleKey down).2.handleKey up).2.search = editor.search := by
    rw [search_handleKey_of_goesBack hmode hup, search_handleKey_of_goesOn h.mode hdown]
    exact h.search.previous_next
  exact ⟨hsearch, h.cursor_handleKey_handleKey (.inl hdown) (.inr hup) hsearch⟩

/-- Going back and on again leads back to the same result and the same cursor. -/
theorem Searched.goesBack_goesOn (h : Searched looked editor) {up down : KeyEvent}
    (hup : up.GoesBack) (hdown : down.GoesOn) :
    let back := ((editor.handleKey up).2.handleKey down).2
    back.search = editor.search ∧ back.cursor = editor.cursor := by
  have hmode := (h.arrow (.inr hup)).1.mode
  have hsearch : ((editor.handleKey up).2.handleKey down).2.search = editor.search := by
    rw [search_handleKey_of_goesOn hmode hdown, search_handleKey_of_goesBack h.mode hup]
    exact h.search.next_previous
  exact ⟨hsearch, h.cursor_handleKey_handleKey (.inr hup) (.inl hdown) hsearch⟩

/-! ## A whole search -/

/-- The buffer in which the query is looked up after some keys, if it was `looked` before. -/
def lookedAfterAll (editor : Editor) (looked : LineBuffer) : List KeyEvent → LineBuffer
  | [] => looked
  | event :: events =>
      (editor.handleKey event).2.lookedAfterAll (editor.lookedAfter looked event) events

/-- Keys that do not end the search keep the cursor at the result that is selected. -/
theorem Searched.performAll (h : Searched looked editor) {events : List KeyEvent}
    (hevents : ∀ event ∈ events, event.key ≠ .escape ∧ event.key ≠ .enter) :
    Searched (editor.lookedAfterAll looked events) (editor.performAll (events.map .key)).2 := by
  induction events generalizing editor looked with
  | nil => exact h
  | cons event events ih =>
      obtain ⟨hescape, henter⟩ := hevents event (List.mem_cons_self ..)
      exact ih (h.handleKey hescape henter) fun other hmem =>
        hevents other (List.mem_cons_of_mem _ hmem)

/-- Control with `f` begins the search for nothing. -/
theorem searched_begin (hmode : editor.mode = .editing) (hfind : event.isCtrlChar 'f' = true) :
    Searched (editor.handleKey event).2.buffer (editor.handleKey event).2 := by
  rw [handleKey, hmode]
  simp only [editingKey, hfind, if_true]
  exact ⟨rfl, List.prefix_rfl, LineSearch.of_empty _, fun line hline => by cases hline⟩

/-- A search from its beginning on, whatever the document and the stream that it comes from, and
whatever keys are typed that do not end it. Its results are, in order, the lines that held the query
when this last changed, of those loaded then, and there are none for the empty query. If there are
results, the cursor is at the first occurrence of the query in the one selected; the arrows lead
around the results, on and back, and undo each other. No key moves the cursor when it leaves the
search without results. -/
theorem search_keys (hmode : editor.mode = .editing) (hfind : event.isCtrlChar 'f' = true)
    {events : List KeyEvent}
    (hevents : ∀ event ∈ events, event.key ≠ .escape ∧ event.key ≠ .enter) :
    let begun := (editor.handleKey event).2
    let searching := (begun.performAll (events.map .key)).2
    let looked := begun.lookedAfterAll begun.buffer events
    let search := searching.search
    searching.mode = .find ∧ looked.lines <+: searching.buffer.lines ∧
      search.results.Pairwise (· < ·) ∧
      (∀ line, line ∈ search.results ↔
        line < looked.length ∧ search.query ≠ [] ∧ search.query <:+: looked.line line) ∧
      (search.results ≠ [] → search.results[search.current]? = some searching.cursor.line ∧
        Text.FirstAt search.query searching.currentLine searching.cursor.column) ∧
      (∀ down up : KeyEvent, down.GoesOn → up.GoesBack →
        let on := (searching.handleKey down).2
        let back := (searching.handleKey up).2
        let count := search.results.length
        (search.results ≠ [] →
          on.search = { search with current := (search.current + 1) % count } ∧
          back.search = { search with current := (search.current + count - 1) % count }) ∧
        ((on.handleKey up).2.search = search ∧
          (on.handleKey up).2.cursor = searching.cursor) ∧
        ((back.handleKey down).2.search = search ∧
          (back.handleKey down).2.cursor = searching.cursor)) ∧
      ∀ key, (searching.handleKey key).2.search.results = [] →
        (searching.handleKey key).2.cursor = searching.cursor := by
  intro begun searching looked search
  have hsearched : Searched looked searching := (searched_begin hmode hfind).performAll hevents
  refine ⟨hsearched.mode, hsearched.loaded, ?_, fun line => hsearched.search.mem_results,
    hsearched.cursor_firstAt, ?_, fun key => cursor_handleKey_of_results_eq_nil hsearched.mode⟩
  · rw [hsearched.search.results_eq]
    exact looked.pairwise_find _
  · intro down up hdown hup
    refine ⟨fun hresults => ⟨?_, ?_⟩, hsearched.goesOn_goesBack hdown hup,
      hsearched.goesBack_goesOn hup hdown⟩
    · rw [search_handleKey_of_goesOn hsearched.mode hdown]
      exact LineSearch.next_of_ne_nil hresults
    · rw [search_handleKey_of_goesBack hsearched.mode hup]
      exact LineSearch.previous_of_ne_nil hresults

/-- In a stream of three lines with two of them loaded the search for `b` goes to the second, and on
and around, and does not see the third. -/
theorem search_keys_streamed :
    let batches := [.ok ⟨["a".toList, "ab".toList], false⟩, .ok ⟨["b".toList], true⟩]
    let settings := Settings.usual.withChunks 2 1
    let editor := ((new settings).perform (.openStream (.scripted batches))).2
    let event : KeyEvent := { key := .char 'f', ctrl := true }
    let events := [KeyEvent.plain (.char 'b'), .plain .down]
    let searching := ((editor.handleKey event).2.performAll (events.map .key)).2
    searching.buffer.lines = ["a".toList, "ab".toList, "b".toList] ∧
      searching.search = ⟨"b".toList, [1], 0⟩ ∧ searching.cursor.line = 1 ∧
      Text.FirstAt "b".toList searching.currentLine 1 := by
  intro batches settings editor event events searching
  have hmode : editor.mode = .editing := by decide +kernel
  have hfind : event.isCtrlChar 'f' = true := by decide
  have hevents : ∀ event ∈ events, event.key ≠ .escape ∧ event.key ≠ .enter := by decide
  have hlines : searching.buffer.lines = ["a".toList, "ab".toList, "b".toList] := by decide +kernel
  have hsearch : searching.search = ⟨"b".toList, [1], 0⟩ := by decide +kernel
  have hcolumn : searching.cursor.column = 1 := by decide +kernel
  -- nothing more is computed from here on
  clear_value editor event events
  obtain ⟨-, -, -, -, hcursor, -⟩ := search_keys hmode hfind hevents
  have hresults : searching.search.results ≠ [] := by
    rw [hsearch]
    decide
  obtain ⟨hline, hfirst⟩ := hcursor hresults
  rw [hsearch] at hline hfirst
  rw [hcolumn] at hfirst
  exact ⟨hlines, hsearch, (Option.some.inj hline).symm, hfirst⟩

end Editor

end TextEditor
