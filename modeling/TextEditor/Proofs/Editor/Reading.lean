import TextEditor.Editor.Reach
import TextEditor.Proofs.Stream.Answers

/-!
# Reading step by step

The editor reads its stream in two ways: as far as a line and a margin after it, and to its end.
Both take no more steps than they are allowed; as reading lines leaves fewer such times, they never
run out of steps before they are done.

Main statements: `loadsRest_finishLoading` and `loadsTowards_ensureLoaded`, with
`finishLoading_induction` and `ensureLoaded_induction`.
-/

namespace TextEditor.Editor

variable {editor after : Editor} {loader : Loader} {n : Nat}

/-- A source that is left to read is that of a loader which is not finished. -/
theorem loader_of_unfinished? (h : editor.unfinished? = some loader) :
    editor.loader = some loader ∧ loader.isFinished = false := by
  obtain ⟨hloader, hgoing⟩ := Option.filter_eq_some_iff.1 h
  exact ⟨hloader, by simpa using hgoing⟩

/-- Reading the rest of the stream, as a sequence of reads: lines come until the source is at its
end, has none to give when it is asked for some, or fails. -/
inductive LoadsRest : Editor → Except EditorError Unit × Editor → Prop where
  | finished {editor : Editor} (hloader : editor.unfinished? = none) :
      LoadsRest editor (.ok (), editor)
  | more {editor : Editor} {loader : Loader} {n added : Nat}
      {outcome : Except EditorError Unit × Editor} (hloader : editor.unfinished? = some loader)
      (hresult : (loader.appendMore editor.buffer n).result = .ok (added + 1))
      (hrest : LoadsRest (editor.absorb (loader.appendMore editor.buffer n)) outcome) :
      LoadsRest editor outcome
  | ended {editor : Editor} {loader : Loader} {n : Nat} (hn : 1 ≤ n)
      (hloader : editor.unfinished? = some loader)
      (hresult : (loader.appendMore editor.buffer n).result = .ok 0) :
      LoadsRest editor (.ok (), { editor.absorb (loader.appendMore editor.buffer n) with
        loader := some (loader.appendMore editor.buffer n).loader.close })
  | failed {editor : Editor} {loader : Loader} {n : Nat} {error : EditorError}
      (hloader : editor.unfinished? = some loader)
      (hresult : (loader.appendMore editor.buffer n).result = .error error) :
      LoadsRest editor (.error error, editor.absorb (loader.appendMore editor.buffer n))

/-- The steps that reading to the end is allowed are enough. -/
theorem loadsRest_loadRest {budget : Nat}
    (hbudget : (editor.loader.map Loader.pending).getD 0 < budget) :
    LoadsRest editor (editor.loadRest budget) := by
  induction budget generalizing editor with
  | zero => exact absurd hbudget (Nat.not_lt_zero _)
  | succ budget ih =>
      unfold loadRest
      cases hloader : editor.unfinished? with
      | none => exact .finished hloader
      | some loader =>
          simp only
          split
          · next hresult =>
              apply LoadsRest.more hloader hresult
              apply ih
              -- what is left to come is bounded by the step that has been used
              have hlt := Loader.pending_appendMore_lt hresult
              rw [(loader_of_unfinished? hloader).1] at hbudget
              exact Nat.lt_of_lt_of_le hlt (Nat.le_of_lt_succ hbudget)
          · next hresult => exact .ended (Nat.le_max_right _ 1) hloader hresult
          · next hresult => exact .failed hloader hresult

/-- Reading to the end is such a sequence, as the budget for it is enough. -/
theorem loadsRest_finishLoading (editor : Editor) : LoadsRest editor editor.finishLoading :=
  loadsRest_loadRest (Nat.lt_succ_self _)

/-- Reading towards a line, as a sequence of reads: lines come until the line and the margin after
it are loaded, or the source is at its end, has none to give, or fails. -/
inductive LoadsTowards (line : Nat) : Editor → Editor → Prop where
  | loaded {editor : Editor} (h : editor.hasLoaded line = true) : LoadsTowards line editor editor
  | finished {editor : Editor} (h : editor.unfinished? = none) : LoadsTowards line editor editor
  | more {editor after : Editor} {loader : Loader} {added : Nat}
      (hshort : editor.hasLoaded line = false) (hloader : editor.unfinished? = some loader)
      (hresult : (loader.appendMore editor.buffer editor.settings.chunkLines).result =
        .ok (added + 1))
      (hrest : LoadsTowards line
        (editor.absorb (loader.appendMore editor.buffer editor.settings.chunkLines)) after) :
      LoadsTowards line editor after
  | stopped {editor : Editor} {loader : Loader} (hshort : editor.hasLoaded line = false)
      (hloader : editor.unfinished? = some loader)
      (hresult : ∀ added, (loader.appendMore editor.buffer editor.settings.chunkLines).result ≠
        .ok (added + 1)) :
      LoadsTowards line editor
        (editor.absorb (loader.appendMore editor.buffer editor.settings.chunkLines))

/-- A stream that can give nothing more is not being read. -/
theorem unfinished?_of_pending (h : (editor.loader.map Loader.pending).getD 0 = 0) :
    editor.unfinished? = none := by
  cases hloader : editor.unfinished? with
  | none => rfl
  | some loader =>
      obtain ⟨hkept, hgoing⟩ := loader_of_unfinished? hloader
      obtain ⟨source, hsource⟩ := Option.isSome_iff_exists.1 (Option.isNone_eq_false_iff.1 hgoing)
      rw [hkept, Option.map_some, Option.getD_some, Loader.pending, hsource] at h
      cases source <;> cases h

/-- The steps that reading towards a line is allowed are enough. -/
theorem loadsTowards_loadTowards (line : Nat) {budget : Nat}
    (hbudget : (editor.loader.map Loader.pending).getD 0 ≤ budget) :
    LoadsTowards line editor (editor.loadTowards line budget) := by
  induction budget generalizing editor with
  | zero => exact .finished (unfinished?_of_pending (Nat.le_zero.1 hbudget))
  | succ budget ih =>
      unfold loadTowards
      split
      · next hloaded => exact .loaded hloaded
      · next hloaded =>
          have hshort := Bool.eq_false_iff.2 hloaded
          cases hloader : editor.unfinished? with
          | none => exact .finished hloader
          | some loader =>
              simp only
              split
              · next hresult =>
                  apply LoadsTowards.more hshort hloader hresult
                  apply ih
                  -- what is left to come is bounded by the step that has been used
                  have hlt := Loader.pending_appendMore_lt hresult
                  rw [(loader_of_unfinished? hloader).1] at hbudget
                  exact Nat.le_of_lt_succ (Nat.lt_of_lt_of_le hlt hbudget)
              · next hresult => exact .stopped hshort hloader hresult

/-- Reading towards a line is such a sequence. -/
theorem loadsTowards_ensureLoaded (editor : Editor) (line : Nat) :
    LoadsTowards line editor (editor.ensureLoaded line) := by
  unfold ensureLoaded
  split
  · next hloaded => exact .loaded hloaded
  · exact loadsTowards_loadTowards line (Nat.le_refl _)

/-- Nothing is read towards a line when there is nothing left to be read. -/
theorem ensureLoaded_of_unfinished?_eq_none (h : editor.unfinished? = none) (line : Nat) :
    editor.ensureLoaded line = editor := by
  unfold ensureLoaded
  split
  · rfl
  · cases (editor.loader.map Loader.pending).getD 0 with
    | zero => rfl
    | succ budget =>
        rw [loadTowards, h]
        exact ite_self _

section Induction

variable {P : Editor → Prop}
  (hread : ∀ {editor : Editor} {loader : Loader}, editor.unfinished? = some loader → P editor →
    ∀ n, P (editor.absorb (loader.appendMore editor.buffer n)))
include hread

/-- What each read keeps, all the reads towards a line keep. -/
theorem loadTowards_induction (h : P editor) (line budget : Nat) :
    P (editor.loadTowards line budget) := by
  induction budget generalizing editor with
  | zero => exact h
  | succ budget ih =>
      unfold loadTowards
      split
      · exact h
      · cases hloader : editor.unfinished? with
        | none => exact h
        | some loader =>
            simp only
            split
            · exact ih (hread hloader h _)
            · exact hread hloader h _

/-- What every read keeps is kept by reading towards a line. -/
theorem ensureLoaded_induction (h : P editor) (line : Nat) : P (editor.ensureLoaded line) := by
  unfold ensureLoaded
  split
  · exact h
  · exact loadTowards_induction hread h line _

/-- What each read keeps, and letting go of a source that has no lines to give, all the reads to the
end keep. -/
theorem finishLoading_induction
    (hclose : ∀ {editor : Editor} {loader : Loader} {n : Nat}, 1 ≤ n →
      editor.unfinished? = some loader →
      (loader.appendMore editor.buffer n).result = .ok 0 → P editor →
        P { editor.absorb (loader.appendMore editor.buffer n) with
          loader := some (loader.appendMore editor.buffer n).loader.close })
    (h : P editor) : P editor.finishLoading.2 := by
  -- the outcome is a variable for the induction on how it comes about
  have hrest := loadsRest_finishLoading editor
  revert hrest
  generalize editor.finishLoading = outcome
  intro hrest
  induction hrest with
  | finished hloader => exact h
  | more hloader hresult hrest ih => exact ih (hread hloader h _)
  | ended hn hloader hresult => exact hclose hn hloader hresult h
  | failed hloader hresult => exact hread hloader h _

end Induction

end TextEditor.Editor
