import TextEditor.Proofs.Editor.Searching
import TextEditor.Proofs.Guarded.Moving
import TextEditor.Proofs.Screen.Columns

/-!
# Moves up and down

A vertical move looks for one column on every line that it comes to: the column where the first of
several such moves began. Lines that are too short, tabs and wide characters that the column falls
into, page moves that stop at either end and lines that are read on the way do not change what the
next move looks for. Where numbers are limited a move is the same as long as its sums are within the
limit: the number of the line that it makes for, the columns of the line that it comes to, and the
edges of the window.

Main statements: `cursor_moveVertically` for one move, `moveBy_of_fits` for one with a limit,
`aimed_moveBy` for what each move keeps, and `vertical_moves_keep_column` for any number of them.
-/

namespace TextEditor

/-- The moves to another line that keep to a column. -/
inductive VerticalMove where
  | up
  | down
  | pageUp
  | pageDown
  deriving DecidableEq, Repr

/-- The vertical move that a key stands for while the document is edited. -/
def Key.verticalMove? : Key → Option VerticalMove
  | .up => some .up
  | .down => some .down
  | .pageUp => some .pageUp
  | .pageDown => some .pageDown
  | _ => none

/-- The vertical move that an operation carries out in a mode, if it is one. -/
def Operation.verticalMove? (mode : Mode) : Operation → Option VerticalMove
  | .moveUp => some .up
  | .moveDown => some .down
  | .pageUp => some .pageUp
  | .pageDown => some .pageDown
  | .key event => if mode = .editing then event.key.verticalMove? else none
  | _ => none

namespace Editor

variable {start editor after : Editor} {origin : Option LineSource} {move : VerticalMove}

/-- The editor after a vertical move. -/
def moveBy (editor : Editor) : VerticalMove → Editor
  | .up => editor.moveUp
  | .down => editor.moveDown
  | .pageUp => editor.pageUp
  | .pageDown => editor.pageDown

/-- The line that a vertical move makes for. There is none above the first line and below the last,
where the stream has been asked for one more; a page move makes for a line even there. -/
def target? (editor : Editor) : VerticalMove → Option Nat
  | .up => if 0 < editor.cursor.line then some (editor.cursor.line - 1) else none
  | .down =>
      let line := editor.cursor.line + 1
      if line < (editor.ensureLoaded line).buffer.length then some line else none
  | .pageUp => some (editor.cursor.line - editor.pageRows)
  | .pageDown => some (editor.cursor.line + editor.pageRows)

/-- Cursor and column aimed at are as they were, and so are the lines that were loaded. -/
structure Rests (editor after : Editor) : Prop where
  goalColumn : after.goalColumn = editor.goalColumn
  cursor : after.cursor = editor.cursor
  lines : editor.buffer.lines <+: after.buffer.lines

/-- To do nothing leaves cursor, column aimed at and lines. -/
theorem Rests.refl (editor : Editor) : Rests editor editor := ⟨rfl, rfl, List.prefix_rfl⟩

/-- What leaves them twice leaves them. -/
theorem Rests.trans {before : Editor} (h : Rests editor before) (hafter : Rests before after) :
    Rests editor after :=
  ⟨hafter.goalColumn.trans h.goalColumn, hafter.cursor.trans h.cursor, h.lines.trans hafter.lines⟩

/-- What leaves cursor and column leaves what the next vertical move aims at. -/
theorem Rests.aim_eq (h : Rests editor after) : after.aim = editor.aim := by
  rw [aim, aim, h.goalColumn, h.cursor]

/-- A key or an operation that stands for a vertical move carries it out. -/
theorem perform_of_verticalMove? {operation : Operation}
    (h : operation.verticalMove? editor.mode = some move) :
    (editor.perform operation).2 = editor.moveBy move := by
  cases operation with
  | key event =>
      simp only [Operation.verticalMove?] at h
      split at h
      · next hmode =>
          have hchar : event.char? = none := by
            unfold KeyEvent.char?
            cases hkey : event.key with
            | char c =>
                rw [hkey] at h
                cases h
            | _ => rfl
          have hctrl (c : Char) : event.isCtrlChar c = false := by
            rw [KeyEvent.isCtrlChar, hchar, Option.any_none, Bool.and_false]
          rw [perform, handleKey, hmode]
          simp only [editingKey, hctrl]
          cases hkey : event.key with
          | up | down | pageUp | pageDown =>
              rw [hkey] at h
              rw [← Option.some.inj h]
              rfl
          | _ =>
              rw [hkey] at h
              cases h
      · cases h
  | moveUp | moveDown | pageUp | pageDown =>
      rw [← Option.some.inj h]
      rfl
  | _ => cases h

/-! ## One move -/

/-- Reading towards a line only adds lines. -/
theorem rests_ensureLoaded (editor : Editor) (line : Nat) :
    Rests editor (editor.ensureLoaded line) := by
  refine ⟨?_, (editor.stays_ensureLoaded line).cursor,
    (editor.untouched_ensureLoaded line).lines_kept⟩
  refine ensureLoaded_induction (P := fun after => after.goalColumn = editor.goalColumn) ?_ rfl line
  intro _ _ _ h _
  exact h

/-- The cursor of an editor is put into a line that is loaded, whatever is read on the way. -/
theorem cursor_moveCursor {line : Nat} (h : line < editor.buffer.length) (column : Nat) :
    (editor.moveCursor line column).cursor =
      .place editor.buffer line column editor.settings.tabWidth := by
  have hsettings := congrArg (·.2.tabWidth) (editor.stays_ensureLoaded line).window
  have htabWidth : (editor.ensureLoaded line).settings.tabWidth = editor.settings.tabWidth :=
    hsettings
  have hplace := Cursor.place_eq_of_prefix (editor.rests_ensureLoaded line).lines h column
    editor.settings.tabWidth
  rw [← hplace, ← htabWidth]
  rfl

/-- A jump to a loaded line puts the cursor on it, also if it reads on. -/
theorem cursor_jumpTo_of_lt {line : Nat} (h : line < editor.buffer.length) (column : Nat) :
    (editor.jumpTo line column).cursor =
      .place editor.buffer line column editor.settings.tabWidth := by
  have hinside : line < { editor with goalColumn := none }.buffer.length := h
  exact cursor_moveCursor hinside column

/-- The line that a vertical move comes to is loaded before the cursor is put into it. -/
theorem currentLine_moveVertically (h : editor.buffer.InStep) {line : Nat} {loaded : Editor}
    (hloaded : { editor with goalColumn := some editor.aim }.ensureLoaded line = loaded) :
    (editor.moveVertically line).currentLine =
      loaded.buffer.line (loaded.buffer.clampLine line) := by
  have hinside : loaded.buffer.clampLine line < loaded.buffer.length := by
    have haimed : { editor with goalColumn := some editor.aim }.buffer.InStep := h
    rw [← hloaded]
    exact (inStep_ensureLoaded haimed line).clampLine_lt line
  have hmoved : editor.moveVertically line =
      loaded.moveCursor (loaded.buffer.clampLine line)
        ((loaded.buffer.line (loaded.buffer.clampLine line)).byteForColumn editor.aim
          loaded.settings.tabWidth) := by
    rw [← hloaded]
    rfl
  have hlines := (loaded.untouched_moveCursor (loaded.buffer.clampLine line)
    ((loaded.buffer.line (loaded.buffer.clampLine line)).byteForColumn editor.aim
      loaded.settings.tabWidth)).lines_kept
  rw [hmoved, currentLine, cursor_moveCursor hinside, Cursor.place,
    LineBuffer.clampLine_of_lt hinside, LineBuffer.line_eq_of_prefix hlines hinside]

/-- A vertical move ends at the byte for the column that it aims at, and the next one aims at the
same column. -/
theorem cursor_moveVertically (h : editor.buffer.InStep) (line : Nat) :
    (editor.moveVertically line).goalColumn = some editor.aim ∧
      (editor.moveVertically line).cursor.column =
        (editor.moveVertically line).currentLine.byteForColumn editor.aim
          editor.settings.tabWidth := by
  obtain ⟨aiming, haiming⟩ : ∃ aiming, aiming = { editor with goalColumn := some editor.aim } :=
    ⟨_, rfl⟩
  obtain ⟨loaded, hloaded⟩ : ∃ loaded, loaded = aiming.ensureLoaded line := ⟨_, rfl⟩
  have hgoal : loaded.goalColumn = some editor.aim := by
    rw [hloaded, (aiming.rests_ensureLoaded line).goalColumn, haiming]
  have hsettings : loaded.settings = editor.settings := by
    rw [hloaded, haiming]
    exact (stays_ensureLoaded _ line).settings_eq
  have hinside : loaded.buffer.clampLine line < loaded.buffer.length := by
    have hbuffer : aiming.buffer.InStep := haiming ▸ h
    rw [hloaded]
    exact (inStep_ensureLoaded hbuffer line).clampLine_lt line
  have hline : (editor.moveVertically line).currentLine =
      loaded.buffer.line (loaded.buffer.clampLine line) :=
    currentLine_moveVertically h (by rw [hloaded, haiming])
  have hmoved : editor.moveVertically line =
      loaded.moveCursor (loaded.buffer.clampLine line)
        ((loaded.buffer.line (loaded.buffer.clampLine line)).byteForColumn editor.aim
          loaded.settings.tabWidth) := by
    rw [hloaded, haiming]
    rfl
  rw [hline, hmoved, hsettings]
  generalize loaded.buffer.clampLine line = target at hinside ⊢
  constructor
  · exact (loaded.rests_ensureLoaded target).goalColumn.trans hgoal
  · rw [cursor_moveCursor hinside, Cursor.place, LineBuffer.clampLine_of_lt hinside]
    exact Text.floor_eq_of_isBoundary (Text.isBoundary_byteForColumn ..)

/-- A move that is carried out goes to its target, perhaps after reading lines; one that is not
leaves the cursor where it is. -/
theorem moveBy_cases (editor : Editor) (move : VerticalMove) :
    (editor.target? move = none ∧ Rests editor (editor.moveBy move)) ∨
      ∃ before line, editor.target? move = some line ∧
        editor.moveBy move = before.moveVertically line ∧
        (before = editor ∨ before = editor.ensureLoaded line) := by
  cases move with
  | up =>
      by_cases hline : 0 < editor.cursor.line
      · exact .inr ⟨editor, _, if_pos hline, if_pos hline, .inl rfl⟩
      · refine .inl ⟨if_neg hline, ?_⟩
        rw [moveBy, moveUp, if_neg hline]
        exact .refl editor
  | down =>
      by_cases hline : editor.cursor.line + 1 <
          (editor.ensureLoaded (editor.cursor.line + 1)).buffer.length
      · exact .inr ⟨_, _, if_pos hline, if_pos hline, .inr rfl⟩
      · refine .inl ⟨if_neg hline, ?_⟩
        rw [moveBy, moveDown]
        simp only [if_neg hline]
        exact rests_ensureLoaded ..
  | pageUp => exact .inr ⟨editor, _, rfl, rfl, .inl rfl⟩
  | pageDown => exact .inr ⟨editor, _, rfl, rfl, .inl rfl⟩

end Editor

/-! ## One move with a limit -/

namespace Guarded

variable {editor : Editor} {limit : Option Nat} {move : VerticalMove}

/-- The editor after a vertical move. -/
def moveBy (limit : Option Nat) (editor : Editor) : VerticalMove → Option Editor
  | .up => moveUp limit editor
  | .down => moveDown limit editor
  | .pageUp => pageUp limit editor
  | .pageDown => pageDown limit editor

/-- The number of the line below that a vertical move makes for; moves up add nothing. -/
def lineBelow (editor : Editor) : VerticalMove → Nat
  | .down => editor.cursor.line + 1
  | .pageDown => editor.cursor.line + editor.pageRows
  | .up | .pageUp => 0

/-- The sums of a vertical move are within the limit: the number of the line that it makes for, the
columns of the line that it comes to, and the edges of the window when it is scrolled there. -/
structure MoveFits (limit : Option Nat) (editor : Editor) (move : VerticalMove) : Prop where
  below : Within limit (lineBelow editor move)
  line : Fits limit editor.settings.tabWidth 0 (editor.moveBy move).currentLine
  view : ViewFits limit editor.viewport (editor.moveBy move).cursor.line
    (editor.moveBy move).cursor.visualColumn

/-- A move to another line is carried out if the line that it comes to fits, and the edges of the
window do. -/
theorem moveVertically_of_line (h : editor.buffer.InStep) {line : Nat}
    (hline : Fits limit editor.settings.tabWidth 0 (editor.moveVertically line).currentLine)
    (hview : ViewFits limit editor.viewport (editor.moveVertically line).cursor.line
      (editor.moveVertically line).cursor.visualColumn) :
    moveVertically limit editor line = some (editor.moveVertically line) := by
  obtain ⟨loaded, hloaded⟩ : ∃ loaded,
      { editor with goalColumn := some editor.aim }.ensureLoaded line = loaded := ⟨_, rfl⟩
  have hstays : Editor.Stays editor loaded := by
    rw [← hloaded]
    exact (Editor.stays_ensureLoaded _ line).of_before ⟨rfl, rfl⟩
  have hlater := (loaded.stays_ensureLoaded (loaded.buffer.clampLine line)).of_before hstays
  refine moveVertically_of_fits h hloaded ?_ ?_ ?_
  · rwa [hstays.settings_eq, ← Editor.currentLine_moveVertically h hloaded]
  · rwa [hlater.settings_eq]
  · rwa [hlater.viewport_eq]

/-- A vertical move whose sums are within the limit is carried out, as without a limit. -/
theorem moveBy_of_fits (h : editor.buffer.InStep) (hfits : MoveFits limit editor move) :
    moveBy limit editor move = some (editor.moveBy move) := by
  obtain ⟨hbelow, hline, hview⟩ := hfits
  cases move with
  | up =>
      refine moveUp_of_moveVertically fun habove => ?_
      rw [Editor.moveBy, Editor.moveUp, if_pos habove] at hline hview
      exact moveVertically_of_line h hline hview
  | down =>
      refine moveDown_of_moveVertically h hbelow fun hinside => ?_
      have hstays := editor.stays_ensureLoaded (editor.cursor.line + 1)
      simp only [Editor.moveBy, Editor.moveDown, if_pos hinside] at hline hview
      rw [← hstays.settings_eq] at hline
      rw [← hstays.viewport_eq] at hview
      exact moveVertically_of_line (Editor.inStep_ensureLoaded h _) hline hview
  | pageUp => exact moveVertically_of_line h hline hview
  | pageDown =>
      rw [moveBy, pageDown, plus_of_within hbelow]
      exact moveVertically_of_line h hline hview

end Guarded

namespace Editor

variable {start editor after : Editor} {origin : Option LineSource} {move : VerticalMove}

/-- A vertical move leaves the stance. -/
theorem stance_moveBy (editor : Editor) (move : VerticalMove) :
    (editor.moveBy move).stance = editor.stance := by
  cases move with
  | up => exact stance_moveUp editor
  | down => exact stance_moveDown editor
  | pageUp | pageDown => exact stance_moveVertically editor _

/-- A vertical move leaves the settings. -/
theorem settings_moveBy (editor : Editor) (move : VerticalMove) :
    (editor.moveBy move).settings = editor.settings := by
  cases move with
  | up => exact (settles_moveUp editor).settings_eq
  | down => exact (settles_moveDown editor).settings_eq
  | pageUp | pageDown => exact (settles_moveVertically editor _).settings_eq

/-- A vertical move leaves the document alone. -/
theorem untouched_moveBy (editor : Editor) (move : VerticalMove) :
    Untouched editor (editor.moveBy move) := by
  cases move with
  | up => exact untouched_moveUp editor
  | down => exact untouched_moveDown editor
  | pageUp | pageDown => exact untouched_moveVertically editor _

/-- A move that is carried out, in whatever way, keeps to the column aimed at. -/
theorem cursor_moveBy (h : editor.buffer.InStep) (hmoves : editor.target? move ≠ none) :
    (editor.moveBy move).goalColumn = some editor.aim ∧
      (editor.moveBy move).cursor.column =
        (editor.moveBy move).currentLine.byteForColumn editor.aim editor.settings.tabWidth := by
  obtain ⟨hnone, -⟩ | ⟨before, line, -, heq, rfl | rfl⟩ := editor.moveBy_cases move
  · exact absurd hnone hmoves
  · rw [heq]
    exact cursor_moveVertically h line
  · rw [heq, ← (editor.rests_ensureLoaded line).aim_eq,
      ← (editor.stays_ensureLoaded line).settings_eq]
    exact cursor_moveVertically (inStep_ensureLoaded h line) line

/-! ## Many moves -/

/-- What vertical moves keep of the editor that they began with: the column aimed at, what keys
mean, and the loaded lines. The cursor is where it was, or at the byte for that column. -/
structure Aimed (start editor : Editor) : Prop where
  aim : editor.aim = start.aim
  mode : editor.mode = start.mode
  settings : editor.settings = start.settings
  lines : start.buffer.lines <+: editor.buffer.lines
  placed : editor.cursor = start.cursor ∨
    editor.cursor.column = editor.currentLine.byteForColumn start.aim start.settings.tabWidth

/-- Before any move the aim is what it was at the start. -/
theorem Aimed.refl (editor : Editor) : Aimed editor editor :=
  ⟨rfl, rfl, rfl, List.prefix_rfl, .inl rfl⟩

/-- A vertical move keeps the aim that it goes by. -/
theorem aimed_moveBy (h : editor.buffer.InStep) (move : VerticalMove) :
    Aimed editor (editor.moveBy move) := by
  have hmode : (editor.moveBy move).mode = editor.mode :=
    congrArg (·.1) (editor.stance_moveBy move)
  have hlines := (editor.untouched_moveBy move).lines_kept
  by_cases hmoves : editor.target? move = none
  · rcases editor.moveBy_cases move with ⟨-, hrests⟩ | ⟨_, _, hsome, -⟩
    · exact ⟨hrests.aim_eq, hmode, editor.settings_moveBy move, hlines, .inl hrests.cursor⟩
    · cases hmoves.symm.trans hsome
  · obtain ⟨hgoal, hcolumn⟩ := cursor_moveBy h hmoves
    refine ⟨?_, hmode, editor.settings_moveBy move, hlines, .inr hcolumn⟩
    rw [Editor.aim, hgoal, Option.getD_some]

/-- The moves after some moves keep what the first ones did. -/
theorem Aimed.trans (h : Aimed start editor) (hafter : Aimed editor after)
    (hline : editor.cursor.line < editor.buffer.length) : Aimed start after := by
  refine ⟨hafter.aim.trans h.aim, hafter.mode.trans h.mode, hafter.settings.trans h.settings,
    h.lines.trans hafter.lines, ?_⟩
  rcases hafter.placed with hcursor | hcolumn
  · have hcurrent : after.currentLine = editor.currentLine := by
      rw [currentLine, hcursor, LineBuffer.line_eq_of_prefix hafter.lines hline, currentLine]
    rw [hcursor, hcurrent]
    exact h.placed
  · rw [h.aim, h.settings] at hcolumn
    exact .inr hcolumn

/-- Any number of vertical moves go by the aim from the start. -/
theorem aimed_performAll (h : start.Sound origin) {operations : List Operation}
    (hvertical : ∀ operation ∈ operations, operation.verticalMove? start.mode ≠ none) :
    Aimed start (start.performAll operations).2 := by
  induction operations generalizing start origin with
  | nil => exact .refl start
  | cons operation operations ih =>
      obtain ⟨hfirst, hrest⟩ := List.forall_mem_cons.1 hvertical
      obtain ⟨move, hmove⟩ := Option.ne_none_iff_exists'.1 hfirst
      have hstep : Aimed start (start.perform operation).2 := by
        rw [perform_of_verticalMove? hmove]
        exact aimed_moveBy h.buffer move
      have hsound := h.perform operation
      exact hstep.trans (ih hsound (hstep.mode ▸ hrest)) hsound.cursor.line_lt

/-- Back on the line where the moves began the cursor is in the column where they began. -/
theorem Aimed.visualColumn_eq (h : Aimed start editor) (hgoal : start.goalColumn = none)
    (hstart : start.cursor.Sound start.buffer start.settings.tabWidth)
    (hsound : editor.cursor.Sound editor.buffer editor.settings.tabWidth)
    (hline : editor.cursor.line = start.cursor.line) :
    editor.cursor.visualColumn = start.cursor.visualColumn := by
  rcases h.placed with hcursor | hcolumn
  · rw [hcursor]
  · have haim : start.aim = start.cursor.visualColumn := by
      rw [Editor.aim, hgoal, Option.getD_none]
    have hcurrent := LineBuffer.line_eq_of_prefix h.lines hstart.line_lt
    rw [currentLine, hline, hcurrent, haim, hstart.visualColumn] at hcolumn
    rw [hsound.visualColumn, hline, hcurrent, hcolumn, h.settings, hstart.visualColumn]
    exact Text.visualColumn_byteForColumn ..

/-- What a vertical move has to do with the editor that the moves began with, where no column was
remembered. -/
structure KeepsColumn (start before : Editor) (move : VerticalMove) (after : Editor) : Prop where
  /-- A move that is carried out leads to the byte for the column where the first one began. -/
  column : before.target? move ≠ none → after.cursor.column =
    after.currentLine.byteForColumn start.cursor.visualColumn start.settings.tabWidth
  /-- Where there is no line to go to, the cursor stays. -/
  stays : before.target? move = none → after.cursor = before.cursor
  /-- On the line where the moves began the cursor is in the column where they began. -/
  returns : after.cursor.line = start.cursor.line →
    after.cursor.visualColumn = start.cursor.visualColumn
  /-- All this is computed without a sum over the largest offset, if the sums of the move are
  offsets. -/
  computed : Guarded.MoveFits (some maxOffset) before move →
    Guarded.moveBy (some maxOffset) before move = some after

/-- Moves up and down do not depend on the lines that they cross. After any of them, from an editor
that remembers no column, the cursor is at the byte for the column where the first one began if the
move has been carried out, and where it was if there was no line to go to. So the cursor is in that
column again whenever it is back on its line. -/
theorem vertical_moves_keep_column (settings : Settings) (earlier : List Operation)
    (hgoal : ((new settings).performAll earlier).2.goalColumn = none)
    {operations : List Operation}
    (hvertical : ∀ operation ∈ operations,
      operation.verticalMove? ((new settings).performAll earlier).2.mode ≠ none)
    {operation : Operation} {move : VerticalMove}
    (hmove : operation.verticalMove? ((new settings).performAll earlier).2.mode = some move) :
    let start := ((new settings).performAll earlier).2
    let before := (start.performAll operations).2
    KeepsColumn start before move (before.perform operation).2 := by
  intro start before
  have hstart := (sound_new settings).performAll earlier
  have hbefore := hstart.performAll operations
  have haimed : Aimed start before := aimed_performAll hstart hvertical
  have hafter : (before.perform operation).2 = before.moveBy move :=
    perform_of_verticalMove? (haimed.mode ▸ hmove)
  have haim : before.aim = start.cursor.visualColumn := by
    rw [haimed.aim, Editor.aim, hgoal, Option.getD_none]
  refine ⟨fun hmoves => ?_, fun hnone => ?_, fun hline => ?_, fun hfits => ?_⟩
  · rw [hafter, ← haim, ← haimed.settings]
    exact (cursor_moveBy hbefore.buffer hmoves).2
  · rcases before.moveBy_cases move with ⟨-, hrests⟩ | ⟨_, _, hsome, -⟩
    · rw [hafter]
      exact hrests.cursor
    · cases hnone.symm.trans hsome
  · have hmoved : Aimed start (before.perform operation).2 := by
      rw [hafter]
      exact haimed.trans (aimed_moveBy hbefore.buffer move) hbefore.cursor.line_lt
    exact hmoved.visualColumn_eq hgoal hstart.cursor (hbefore.perform operation).cursor hline
  · rw [hafter]
    exact Guarded.moveBy_of_fits hbefore.buffer hfits

/-- In a stream that is read a line at a time the cursor goes down over a tab and a wide character
that its column falls into, and a page up, which leads back to the first line. -/
theorem vertical_moves_keep_column_streamed :
    let batches := [.ok ⟨["abcdef".toList], false⟩, .ok ⟨["\tx".toList], false⟩,
      .ok ⟨["日本".toList], true⟩]
    let settings := Settings.usual.withChunks 1 0
    let earlier : List Operation := [.openStream (.scripted batches), .goto 1 (some 3)]
    let operations : List Operation := [.moveDown, .key (.plain .down)]
    let start := ((new settings).performAll earlier).2
    let before := (start.performAll operations).2
    let after := (before.perform (.key (.plain .pageUp))).2
    start.goalColumn = none ∧
      (∀ operation ∈ operations, operation.verticalMove? start.mode ≠ none) ∧
      start.cursor = ⟨0, 3, 3⟩ ∧ before.cursor = ⟨2, 3, 2⟩ ∧ after.cursor.line = 0 ∧
      after.cursor.visualColumn = 3 ∧
      Guarded.moveBy (some maxOffset) before .pageUp = some after := by
  intro batches settings earlier operations start before after
  have hgoal : start.goalColumn = none := by decide +kernel
  have hvertical : ∀ operation ∈ operations, operation.verticalMove? start.mode ≠ none := by
    decide +kernel
  have hmove : (Operation.key (.plain .pageUp)).verticalMove? start.mode = some .pageUp := by
    decide +kernel
  have hstart : start.cursor = ⟨0, 3, 3⟩ := by decide +kernel
  have hbefore : before.cursor = ⟨2, 3, 2⟩ := by decide +kernel
  have hline : after.cursor.line = 0 := by decide +kernel
  have hfits : Guarded.MoveFits (some maxOffset) before .pageUp :=
    ⟨by decide +kernel, by decide +kernel, by decide +kernel⟩
  -- nothing more is computed from here on
  clear_value earlier operations
  have hkeeps := vertical_moves_keep_column settings earlier hgoal hvertical hmove
  have hback := hkeeps.returns
  rw [hstart] at hback
  exact ⟨hgoal, hvertical, hstart, hbefore, hline, hback hline, hkeeps.computed hfits⟩

end Editor

end TextEditor
