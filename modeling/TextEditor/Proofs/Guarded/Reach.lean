import TextEditor.Proofs.Editor.Sound
import TextEditor.Proofs.Guarded.Buffer
import TextEditor.Proofs.Guarded.Columns

/-!
# Reaching a position within range

Reading lines, placing the cursor and scrolling to it, with every step guarded. All that these need
is that the lists of the buffer are in step: the cursor is placed anew, wherever it was. With a
limit the cursor can be moved if the line where it is placed fits, and the edges of the window do.

Main statements: `ensureLoaded_eq`, `finishLoading_eq`, `moveCursor_of_fits`, `moveCursor_eq` and
`afterEdit_eq`.
-/

namespace TextEditor.Guarded

/-- The cursor at a position of a buffer, moved back to a line that is there and to a character
boundary. -/
def placeCursor (limit : Option Nat) (buffer : LineBuffer) (line column tabWidth : Nat) :
    Option Cursor := do
  let line ← clampLine buffer line
  let text := buffer.line line
  let column ← floor text column
  return ⟨line, column, ← visualColumn limit text column tabWidth⟩

/-- Adds at most `n` lines of the source at the end of a buffer. -/
def appendMore (loader : Loader) (buffer : LineBuffer) (n : Nat) : Option Loading :=
  match loader.read n with
  | (.ok none, loader, records) => some ⟨.ok 0, loader, buffer, records⟩
  | (.ok (some batch), loader, records) => do
      let (added, buffer) ← appendLines buffer batch.lines
      return ⟨.ok added, loader, buffer, records ++ [Loader.appendRecord added buffer.length]⟩
  | (.error error, loader, records) => some ⟨.error error, loader, buffer, records⟩

/-- Puts at most `n` lines of the source in place of what a buffer holds. -/
def loadInitial (loader : Loader) (buffer : LineBuffer) (n : Nat) : Option Loading :=
  match loader.read n with
  | (.ok none, loader, records) => some ⟨.ok 0, loader, buffer, records⟩
  | (.ok (some batch), loader, records) => do
      let buffer ← replaceLines buffer batch.lines
      return ⟨.ok batch.lines.length, loader, buffer, records ++ [buffer.retokenized]⟩
  | (.error error, loader, records) => some ⟨.error error, loader, buffer, records⟩

/-- The editor after at most `budget` steps of loading towards a line. -/
def loadTowards (line : Nat) : Nat → Editor → Option Editor
  | 0, editor => some editor
  | budget + 1, editor =>
      if editor.hasLoaded line then some editor
      else match editor.unfinished? with
        | none => some editor
        | some loader => do
            let loading ← appendMore loader editor.buffer editor.settings.chunkLines
            match loading.result with
            | .ok (_ + 1) => loadTowards line budget (editor.absorb loading)
            | _ => return editor.absorb loading

/-- The editor with a line and the margin after it loaded, as far as the stream goes. -/
def ensureLoaded (editor : Editor) (line : Nat) : Option Editor :=
  if editor.hasLoaded line then some editor
  else loadTowards line ((editor.loader.map Loader.pending).getD 0) editor

/-- The editor after at most `budget` steps of loading to the end of the stream, and why reading
failed, if it did. -/
def loadRest : Nat → Editor → Option (Except EditorError Unit × Editor)
  | 0, editor => some (.ok (), { editor with loader := editor.loader.map Loader.close })
  | budget + 1, editor =>
      match editor.unfinished? with
      | none => some (.ok (), editor)
      | some loader => do
          let loading ← appendMore loader editor.buffer (max editor.settings.chunkLines 1)
          match loading.result with
          | .ok (_ + 1) => loadRest budget (editor.absorb loading)
          | .ok 0 =>
              return (.ok (), { editor.absorb loading with loader := some loading.loader.close })
          | .error error => return (.error error, editor.absorb loading)

/-- Reads the stream to its end. -/
def finishLoading (editor : Editor) : Option (Except EditorError Unit × Editor) :=
  loadRest ((editor.loader.map Loader.pending).getD 0 + 1) editor

/-- The editor scrolled until its cursor is in view. -/
def scrollToCursor (limit : Option Nat) (editor : Editor) : Option Editor := do
  return { editor with
    viewport := ← scrollTo limit editor.viewport editor.cursor.line editor.cursor.visualColumn }

/-- The editor with its cursor at a position, or as near as there is one. -/
def moveCursor (limit : Option Nat) (editor : Editor) (line column : Nat) : Option Editor := do
  let editor ← ensureLoaded editor line
  scrollToCursor limit { editor with
    cursor := ← placeCursor limit editor.buffer line column editor.settings.tabWidth }

/-- The editor with its cursor at a position that does not come from a vertical move. -/
def jumpTo (editor : Editor) (line column : Nat) : Option Editor :=
  moveCursor none { editor with goalColumn := none } line column

/-- The editor after its buffer has been edited, with the cursor at a position. -/
def afterEdit (editor : Editor) (buffer : LineBuffer) (line column : Nat) : Option Editor :=
  jumpTo { editor with buffer := buffer, dirty := true } line column

/-! ## Equations -/

variable {buffer : LineBuffer} {editor : Editor}

/-- In a line that fits the cursor is placed at the floor of its column, and the column shown there
is that of the column itself. -/
theorem placeCursor_of_fits (h : buffer.InStep) {limit : Option Nat} {line tabWidth : Nat}
    (hfits : Fits limit tabWidth 0 (buffer.line (buffer.clampLine line))) (column : Nat) :
    placeCursor limit buffer line column tabWidth = some (.place buffer line column tabWidth) := by
  simp only [placeCursor, clampLine_eq h, floor_eq, visualColumn_of_fits hfits,
    Option.bind_eq_bind, Option.bind_some, Option.pure_def, Cursor.place, Text.visualColumn,
    Text.before_floor]

/-- Lines can be read into a buffer, however many there are. -/
theorem appendMore_eq (h : buffer.InStep) (loader : Loader) (n : Nat) :
    appendMore loader buffer n = some (loader.appendMore buffer n) := by
  unfold appendMore Loader.appendMore
  obtain ⟨result, loader, records⟩ := loader.read n
  cases result with
  | error error => rfl
  | ok answer =>
      cases answer with
      | none => rfl
      | some batch => simp only [appendLines_eq h, Option.bind_eq_bind, Option.bind_some,
          Option.pure_def]

/-- The first lines can be read in place of those of any buffer. -/
theorem loadInitial_eq (loader : Loader) (buffer : LineBuffer) (n : Nat) :
    loadInitial loader buffer n = some (loader.loadInitial buffer n) := by
  unfold loadInitial Loader.loadInitial
  obtain ⟨result, loader, records⟩ := loader.read n
  cases result with
  | error error => rfl
  | ok answer =>
      cases answer with
      | none => rfl
      | some batch => simp only [replaceLines_eq, Option.bind_eq_bind, Option.bind_some,
          Option.pure_def]

/-- Reading can be repeated within a budget until a line is loaded. -/
theorem loadTowards_eq (h : editor.buffer.InStep) (line budget : Nat) :
    loadTowards line budget editor = some (editor.loadTowards line budget) := by
  induction budget generalizing editor with
  | zero => rfl
  | succ budget ih =>
      unfold loadTowards Editor.loadTowards
      split
      · rfl
      · cases editor.unfinished? with
        | none => rfl
        | some loader =>
            simp only [appendMore_eq h, Option.bind_eq_bind, Option.bind_some]
            have hread : (editor.absorb (loader.appendMore editor.buffer
                editor.settings.chunkLines)).buffer.InStep := Loader.inStep_appendMore h loader _
            cases (loader.appendMore editor.buffer editor.settings.chunkLines).result with
            | error error => rfl
            | ok added =>
                cases added with
                | zero => rfl
                | succ added => exact ih hread

/-- Any line can be read towards. -/
theorem ensureLoaded_eq (h : editor.buffer.InStep) (line : Nat) :
    ensureLoaded editor line = some (editor.ensureLoaded line) := by
  unfold ensureLoaded Editor.ensureLoaded
  split
  · rfl
  · exact loadTowards_eq h line _

/-- Reading can be repeated within a budget until nothing is left. -/
theorem loadRest_eq (h : editor.buffer.InStep) (budget : Nat) :
    loadRest budget editor = some (editor.loadRest budget) := by
  induction budget generalizing editor with
  | zero => rfl
  | succ budget ih =>
      unfold loadRest Editor.loadRest
      cases editor.unfinished? with
      | none => rfl
      | some loader =>
          simp only [appendMore_eq h, Option.bind_eq_bind, Option.bind_some]
          have hread : (editor.absorb (loader.appendMore editor.buffer
              (max editor.settings.chunkLines 1))).buffer.InStep :=
            Loader.inStep_appendMore h loader _
          cases (loader.appendMore editor.buffer (max editor.settings.chunkLines 1)).result with
          | error error => rfl
          | ok added =>
              cases added with
              | zero => rfl
              | succ added => exact ih hread

/-- A stream can be read to its end, also if it fails. -/
theorem finishLoading_eq (h : editor.buffer.InStep) :
    finishLoading editor = some editor.finishLoading := loadRest_eq h _

/-- The window is scrolled to the cursor if its edges are within the limit. -/
theorem scrollToCursor_of_fits {limit : Option Nat}
    (h : ViewFits limit editor.viewport editor.cursor.line editor.cursor.visualColumn) :
    scrollToCursor limit editor = some editor.scrollToCursor := by
  rw [scrollToCursor, scrollTo_eq_iff.2 h]
  rfl

/-- The window can be scrolled to the cursor, as far as differences go. -/
@[simp] theorem scrollToCursor_eq (editor : Editor) :
    scrollToCursor none editor = some editor.scrollToCursor :=
  scrollToCursor_of_fits (viewFits_none _ _ _)

/-- The cursor is moved if the line where it is placed fits, and the edges of the window do. -/
theorem moveCursor_of_fits (h : editor.buffer.InStep) {limit : Option Nat} {line column : Nat}
    (hline : Fits limit (editor.ensureLoaded line).settings.tabWidth 0
      (editor.moveCursor line column).currentLine)
    (hview : ViewFits limit (editor.ensureLoaded line).viewport
      (editor.moveCursor line column).cursor.line
      (editor.moveCursor line column).cursor.visualColumn) :
    moveCursor limit editor line column = some (editor.moveCursor line column) := by
  have hplaced := placeCursor_of_fits (Editor.inStep_ensureLoaded h line) hline column
  simp only [moveCursor, ensureLoaded_eq h, hplaced, Option.bind_eq_bind, Option.bind_some]
  exact scrollToCursor_of_fits hview

/-- The cursor can be moved to any line and column, as far as slices and differences go. -/
theorem moveCursor_eq (h : editor.buffer.InStep) (line column : Nat) :
    moveCursor none editor line column = some (editor.moveCursor line column) :=
  moveCursor_of_fits h fits_none (viewFits_none _ _ _)

/-- The cursor can jump to any line and column, as far as slices and differences go. -/
theorem jumpTo_eq (h : editor.buffer.InStep) (line column : Nat) :
    jumpTo editor line column = some (editor.jumpTo line column) := by
  apply moveCursor_eq
  exact h

/-- What follows on an edit can be done if the new buffer is in step. -/
theorem afterEdit_eq (h : buffer.InStep) (editor : Editor) (line column : Nat) :
    afterEdit editor buffer line column = some (editor.afterEdit buffer line column) := by
  apply jumpTo_eq
  exact h

end TextEditor.Guarded
