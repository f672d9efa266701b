import TextEditor.Proofs.Buffer.FlatText
import TextEditor.Stream.Loader

/-!
# The answers of a source

A loader puts requests to its source, one after the other, until an answer says that there is
nothing to come: the last lines, a failure or, when the stream is to be read to its end, no lines.
What it keeps of the source are just the answers to these requests.

Main statements: `Reads.read` and `Reads.close_appendMore`, a loader keeps to this whatever it does;
`Reads.readWhole_iff`, what a loader that has stopped has read; and `pending_appendMore_lt`, each
time it reads lines fewer such times are left.
-/

namespace TextEditor

namespace LineSource

/-- What a source answers to requests, one after the other, each for at most so many lines. -/
def answers (source : LineSource) : List Nat → List (Except String Batch)
  | [] => []
  | n :: requests => (source.read n).1 :: (source.read n).2.answers requests

/-- The source after requests. -/
def after (source : LineSource) : List Nat → LineSource
  | [] => source
  | n :: requests => (source.read n).2.after requests

/-- One more request gets the answer of the source after the others. -/
theorem answers_concat (source : LineSource) (requests : List Nat) (n : Nat) :
    source.answers (requests ++ [n]) =
      source.answers requests ++ [((source.after requests).read n).1] := by
  induction requests generalizing source with
  | nil => rfl
  | cons m requests ih => exact congrArg _ (ih (source.read m).2)

/-- After one more request a source is what that leaves of it. -/
theorem after_concat (source : LineSource) (requests : List Nat) (n : Nat) :
    source.after (requests ++ [n]) = ((source.after requests).read n).2 := by
  induction requests generalizing source with
  | nil => rfl
  | cons m requests ih => exact ih (source.read m).2

end LineSource

/-- Whether there is more to come after an answer. -/
def goesOn : Except String Batch → Bool
  | .ok batch => !batch.atEnd
  | .error _ => false

namespace Loader

variable {loader : Loader} {source : LineSource} {buffer : LineBuffer}

/-- A loader that has been reading a source: what it keeps are the answers of the source to some
requests. All of them but the last leave more to come, and so does the last while the loader goes
on. -/
structure Reads (loader : Loader) (source : LineSource) : Prop where
  asked : ∃ requests, loader.answers = source.answers requests ∧
    ∀ rest, loader.source = some rest → rest = source.after requests
  going : loader.isFinished = false → ∀ answer ∈ loader.answers, goesOn answer = true
  /-- A loader also stops when it needs lines and there are none. -/
  stopped : loader.isFinished = true → ∃ earlier last, loader.answers = earlier ++ [last] ∧
    (∀ answer ∈ earlier, goesOn answer = true) ∧ (goesOn last = true → last = .ok ⟨[], false⟩)

/-- Whether reading has failed. -/
def hasFailed (loader : Loader) : Bool :=
  loader.answers.any fun
    | .ok _ => false
    | .error _ => true

/-- All that a source has is read: no answer was a failure, and the last came with the end of the
source. -/
def ReadWhole (loader : Loader) : Prop :=
  loader.hasFailed = false ∧
    ∃ batch, loader.answers.getLast? = some (.ok batch) ∧ batch.atEnd = true

/-- A loader that has read nothing yet. -/
theorem reads_new (source : LineSource) : (new source).Reads source where
  asked := ⟨[], rfl, fun _ h => (Option.some.inj h).symm⟩
  going _ _ hmem := nomatch hmem
  stopped h := nomatch h

/-- A loader that puts a request to its source keeps the answer, and the source if it goes on. -/
theorem loader_read {rest : LineSource} (hsource : loader.source = some rest) (n : Nat) :
    (loader.read n).2.1 =
      ⟨if goesOn (rest.read n).1 then some (rest.read n).2 else none,
        loader.answers ++ [(rest.read n).1]⟩ := by
  unfold Loader.read
  simp only [hsource]
  rcases rest.read n with ⟨answer, rest'⟩
  cases answer with
  | error reason => rfl
  | ok batch => cases hend : batch.atEnd <;> simp [goesOn, hend]

/-- One more request adds its answer to those that the loader keeps. -/
theorem Reads.answers_concat {rest : LineSource} (h : loader.Reads source)
    (hsource : loader.source = some rest) (n : Nat) :
    ∃ requests, loader.answers ++ [(rest.read n).1] = source.answers requests ∧
      (rest.read n).2 = source.after requests := by
  obtain ⟨requests, hanswers, hrest⟩ := h.asked
  refine ⟨requests ++ [n], ?_, ?_⟩
  · rw [LineSource.answers_concat, ← hanswers, ← hrest rest hsource]
  · rw [LineSource.after_concat, ← hrest rest hsource]

/-- A loader may stop after an answer that leaves nothing to come, or that has no lines. -/
theorem Reads.stop {rest : LineSource} (h : loader.Reads source)
    (hsource : loader.source = some rest) {n : Nat}
    (hlast : goesOn (rest.read n).1 = true → (rest.read n).1 = .ok ⟨[], false⟩) :
    Loader.Reads ⟨none, loader.answers ++ [(rest.read n).1]⟩ source where
  asked := by
    obtain ⟨requests, hanswers, -⟩ := h.answers_concat hsource n
    exact ⟨requests, hanswers, fun _ hnone => nomatch hnone⟩
  going hgoing := nomatch hgoing
  stopped _ := ⟨_, _, rfl, h.going (by rw [isFinished, hsource]; rfl), hlast⟩

/-- A loader that reads stops if there is nothing to come, and else goes on. -/
theorem Reads.read (h : loader.Reads source) (n : Nat) : (loader.read n).2.1.Reads source := by
  cases hsource : loader.source with
  | none =>
      have hsame : (loader.read n).2.1 = loader := by rw [Loader.read, hsource]
      rw [hsame]
      exact h
  | some rest =>
      rw [loader_read hsource]
      split
      · next hgoes =>
          obtain ⟨requests, hanswers, hafter⟩ := h.answers_concat hsource n
          refine ⟨⟨requests, hanswers, ?_⟩, ?_, fun hstop => nomatch hstop⟩
          · intro _ hkept
            rw [← Option.some.inj hkept, hafter]
          · intro _ answer hmem
            rcases List.mem_append.1 hmem with hearlier | hlast
            · exact h.going (by rw [isFinished, hsource]; rfl) answer hearlier
            · rw [List.mem_singleton.1 hlast]
              exact hgoes
      · next hgoes => exact h.stop hsource fun hgoes' => absurd hgoes' hgoes

/-- A loader that has stopped has read all of the source unless reading failed, provided that no
lines at all came only with the end of the source. -/
theorem Reads.readWhole_iff (h : loader.Reads source) (hstopped : loader.isFinished = true)
    (hlines : ∀ batch, .ok batch ∈ loader.answers → batch.lines = [] → batch.atEnd = true) :
    loader.ReadWhole ↔ loader.hasFailed = false := by
  constructor
  · exact fun hwhole => hwhole.1
  · intro hfailed
    obtain ⟨earlier, last, hanswers, -, hempty⟩ := h.stopped hstopped
    have hmem : last ∈ loader.answers := by
      rw [hanswers]
      exact List.mem_append_right _ (List.mem_singleton_self last)
    have hlast : loader.answers.getLast? = some last := by rw [hanswers, List.getLast?_concat]
    refine ⟨hfailed, ?_⟩
    -- the last answer is no failure, and if it left more to come it had no lines
    cases last with
    | error reason => exact absurd rfl (List.any_eq_false.1 hfailed _ hmem)
    | ok batch =>
        refine ⟨batch, hlast, ?_⟩
        cases hend : batch.atEnd with
        | true => rfl
        | false =>
            have hnone := Except.ok.inj (hempty (by rw [goesOn, hend]; rfl))
            rw [← hend]
            exact hlines batch hmem (by rw [hnone])

/-! ## Reading into a buffer -/

/-- What becomes of a loader does not depend on the buffer that it reads into. -/
@[simp] theorem loader_appendMore (loader : Loader) (buffer : LineBuffer) (n : Nat) :
    (loader.appendMore buffer n).loader = (loader.read n).2.1 := by
  unfold appendMore
  rcases loader.read n with ⟨result, next, records⟩
  cases result with
  | error error => rfl
  | ok answer => cases answer <;> rfl

/-- What becomes of a loader does not depend on the buffer whose lines it replaces. -/
@[simp] theorem loader_loadInitial (loader : Loader) (buffer : LineBuffer) (n : Nat) :
    (loader.loadInitial buffer n).loader = (loader.read n).2.1 := by
  unfold loadInitial
  rcases loader.read n with ⟨result, next, records⟩
  cases result with
  | error error => rfl
  | ok answer => cases answer <;> rfl

/-- Every text is at least one line. -/
theorem eq_nil_of_flattenLines_eq_nil {texts : List Text} (h : Text.flattenLines texts = []) :
    texts = [] := by
  cases texts with
  | nil => rfl
  | cons text texts =>
      rw [Text.flattenLines, List.flatMap_cons] at h
      exact absurd (List.append_eq_nil_iff.1 h).1 (Text.splitLines_ne_nil text)

/-- Appending lines to a buffer makes it longer. -/
theorem appendLines_eq_zero_iff (buffer : LineBuffer) (texts : List Text) :
    (buffer.appendLines texts).1 = 0 ↔ texts = [] := by
  constructor
  · intro hzero
    have hlength := LineBuffer.length_insertLinesAfter buffer (buffer.length - 1)
      (Text.flattenLines texts)
    rw [LineBuffer.appendLines, hlength, Nat.add_sub_cancel_left] at hzero
    apply eq_nil_of_flattenLines_eq_nil
    apply eq_nil_of_flattenLines_eq_nil
    exact List.length_eq_zero_iff.1 hzero
  · rintro rfl
    simp [LineBuffer.appendLines, LineBuffer.length_insertLinesAfter, Text.flattenLines]

/-- What reading at most `n` lines comes to, by the answer of the source. -/
theorem result_appendMore {rest : LineSource} (hsource : loader.source = some rest)
    (buffer : LineBuffer) (n : Nat) :
    (loader.appendMore buffer n).result = match (rest.read n).1 with
      | .ok batch => .ok (buffer.appendLines batch.lines).1
      | .error reason => .error (.io reason) := by
  unfold appendMore Loader.read
  simp only [hsource]
  rcases rest.read n with ⟨answer, rest'⟩
  cases answer with
  | error reason => rfl
  | ok batch => rfl

/-- Reading that succeeds leaves it at whether reading has failed. -/
theorem hasFailed_appendMore {n added : Nat}
    (hresult : (loader.appendMore buffer n).result = .ok added) :
    (loader.appendMore buffer n).loader.hasFailed = loader.hasFailed := by
  rw [loader_appendMore]
  cases hsource : loader.source with
  | none => rw [Loader.read, hsource]
  | some rest =>
      rw [result_appendMore hsource] at hresult
      rw [loader_read hsource, hasFailed, List.any_append]
      cases hanswer : (rest.read n).1 with
      | error reason =>
          rw [hanswer] at hresult
          cases hresult
      | ok batch => exact Bool.or_false _

/-- A loader that gained no lines may stop. -/
theorem Reads.close_appendMore (h : loader.Reads source) (hgoing : loader.isFinished = false)
    {n : Nat} (hnone : (loader.appendMore buffer n).result = .ok 0) :
    (loader.appendMore buffer n).loader.close.Reads source := by
  obtain ⟨rest, hsource⟩ := Option.isSome_iff_exists.1 (show loader.source.isSome = true by
    rw [isFinished] at hgoing
    exact Option.isNone_eq_false_iff.1 hgoing)
  rw [loader_appendMore, loader_read hsource]
  apply h.stop hsource
  -- only an answer without lines adds none to the buffer
  intro hgoes
  rw [result_appendMore hsource] at hnone
  cases hanswer : (rest.read n).1 with
  | error reason =>
      rw [hanswer] at hnone
      cases hnone
  | ok batch =>
      rw [hanswer] at hgoes hnone
      have hlines := (appendLines_eq_zero_iff buffer batch.lines).1 (Except.ok.inj hnone)
      obtain ⟨lines, atEnd⟩ := batch
      simp only [goesOn, Bool.not_eq_true'] at hgoes hlines
      rw [hgoes, hlines]

/-- Each time a loader gains lines, fewer such times are left. -/
theorem pending_appendMore_lt {n added : Nat}
    (hadded : (loader.appendMore buffer n).result = .ok (added + 1)) :
    (loader.appendMore buffer n).loader.pending < loader.pending := by
  rw [loader_appendMore]
  cases hsource : loader.source with
  | none =>
      rw [appendMore, Loader.read, hsource] at hadded
      cases hadded
  | some rest =>
      rw [result_appendMore hsource] at hadded
      rw [loader_read hsource, pending, pending, hsource]
      rcases hread : rest.read n with ⟨answer, rest'⟩
      rw [hread] at hadded
      cases answer with
      | error reason => cases hadded
      | ok batch =>
          have hlines : batch.lines ≠ [] := by
            intro hnil
            have hzero := (appendLines_eq_zero_iff buffer batch.lines).2 hnil
            rw [Except.ok.inj hadded] at hzero
            cases hzero
          have hlt := LineSource.pending_lt_of_read hread hlines
          simp only [Option.map_some, Option.getD_some]
          split
          · exact hlt
          · exact Nat.lt_of_le_of_lt (Nat.zero_le _) hlt

end Loader

end TextEditor
