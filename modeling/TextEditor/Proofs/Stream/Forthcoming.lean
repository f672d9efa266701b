import TextEditor.Proofs.Stream.Answers

/-!
# Sources that bring lines

A source is asked for lines until enough of them have come. If it brings at least one each time,
unless it is at its end or fails, asking goes on until there are enough or there is nothing more to
come. All byte readers are such sources, also those that fail.

Main statements: `LineSource.forthcoming_reader`, and `Forthcoming.isFinished_appendMore` on a
loader that gains no lines.
-/

namespace TextEditor

variable {source : LineSource} {n : Nat}

/-- A source that brings lines, or fails, each time it is asked for some and is not at its end. -/
def LineSource.Forthcoming (source : LineSource) : Prop :=
  ∀ requests : List Nat, (∀ n ∈ requests, 1 ≤ n) → .ok ⟨[], false⟩ ∉ source.answers requests

/-- A source that brings lines does not answer a request by none while it goes on. -/
theorem LineSource.Forthcoming.answer_ne (h : source.Forthcoming) (hn : 1 ≤ n) :
    (source.read n).1 ≠ .ok ⟨[], false⟩ := by
  intro hanswer
  refine h [n] (List.forall_mem_singleton.2 hn) ?_
  rw [answers, hanswer]
  exact List.mem_cons_self

/-- A source that brings lines goes on to do so after each request. -/
theorem LineSource.Forthcoming.read (h : source.Forthcoming) (hn : 1 ≤ n) :
    (source.read n).2.Forthcoming := fun requests hpos hmem =>
  h (n :: requests) (List.forall_mem_cons.2 ⟨hn, hpos⟩) (List.mem_cons_of_mem _ hmem)

/-- A byte reader that gives no line of those that it is asked for is at its end. -/
theorem ByteReader.atEnd_of_lines_eq_nil {reader rest : ByteReader} {batch : Batch} (hn : 1 ≤ n)
    (h : reader.readLines n = .ok (batch, rest)) (hlines : batch.lines = []) :
    batch.atEnd = true := by
  obtain ⟨n, rfl⟩ := Nat.exists_eq_add_of_le' hn
  simp only [readLines, bind, Except.bind] at h
  split at h
  · cases h
  · split at h
    · cases h
      rfl
    · split at h
      · cases h
      · cases h
        cases hlines

/-- Every byte reader brings lines until it is at its end or fails. -/
theorem LineSource.forthcoming_reader (reader : ByteReader) :
    (LineSource.reader reader).Forthcoming := by
  intro requests hpos hmem
  induction requests generalizing reader with
  | nil => cases hmem
  | cons n requests ih =>
      obtain ⟨hn, hrest⟩ := List.forall_mem_cons.1 hpos
      simp only [answers, LineSource.read] at hmem
      split at hmem
      · next batch next hread =>
          rcases List.mem_cons.1 hmem with heq | hmem
          · obtain rfl := Except.ok.inj heq
            cases ByteReader.atEnd_of_lines_eq_nil hn hread rfl
          · exact ih next hrest hmem
      · rcases List.mem_cons.1 hmem with heq | hmem
        · cases heq
        · exact ih reader hrest hmem

namespace Loader

variable {loader : Loader} {buffer : LineBuffer}

/-- A loader whose source, unless it has been let go of, brings lines. -/
def Forthcoming (loader : Loader) : Prop :=
  ∀ source, loader.source = some source → source.Forthcoming

/-- A finished loader has no source that could fail to bring lines. -/
theorem forthcoming_of_isFinished (h : loader.isFinished = true) : loader.Forthcoming := by
  intro source hsource
  rw [isFinished, hsource] at h
  cases h

/-- A loader that brings lines does so after each request. -/
theorem Forthcoming.read (h : loader.Forthcoming) (hn : 1 ≤ n) :
    (loader.read n).2.1.Forthcoming := by
  cases hsource : loader.source with
  | none =>
      have hsame : (loader.read n).2.1 = loader := by rw [Loader.read, hsource]
      rw [hsame]
      exact h
  | some source =>
      rw [loader_read hsource]
      intro rest hrest
      simp only at hrest
      split at hrest
      · rw [← Option.some.inj hrest]
        exact (h source hsource).read hn
      · cases hrest

/-- Such a loader gains no lines only when it is finished by that. -/
theorem Forthcoming.isFinished_appendMore (h : loader.Forthcoming) (hn : 1 ≤ n)
    (hresult : ∀ added, (loader.appendMore buffer n).result ≠ .ok (added + 1)) :
    (loader.appendMore buffer n).loader.isFinished = true := by
  rw [loader_appendMore]
  cases hsource : loader.source with
  | none =>
      rw [Loader.read, hsource]
      exact Option.isNone_iff_eq_none.2 hsource
  | some source =>
      rw [loader_read hsource, isFinished]
      rw [result_appendMore hsource] at hresult
      cases hanswer : (source.read n).1 with
      | error reason => rfl
      | ok batch =>
          rw [hanswer] at hresult
          -- the batch is empty, so it is the last
          have hlines : batch.lines = [] := by
            apply (appendLines_eq_zero_iff buffer batch.lines).1
            refine Nat.eq_zero_of_not_pos fun hpos => ?_
            obtain ⟨added, hadded⟩ := Nat.exists_eq_add_of_le' hpos
            exact hresult added (congrArg Except.ok hadded)
          have hend : batch.atEnd = true := by
            refine Classical.byContradiction fun hmore => (h source hsource).answer_ne hn ?_
            rw [hanswer, ← hlines, ← Bool.eq_false_iff.2 hmore]
          rw [goesOn, hend]
          rfl

end Loader

end TextEditor
