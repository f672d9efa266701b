import TextEditor.Proofs.Stream.Unread

/-!
# What is still to come from a reader

A byte reader gives lines until it is at its end or fails. Which lines these are, and why it fails,
does not depend on how many of them it is asked for at a time; but a batch is lost if reading fails
before it is complete.

Main statements: `coming_of_line` and its two companions, by which what is to come is found one line
after the other; `readLines_cases`, what any request comes to; and `appendMore_cases`, the same for
a loader that reads bytes into a buffer.
-/

namespace TextEditor

namespace ByteReader

variable {reader rest : ByteReader} {bytes : List UInt8} {reason : String} {n : Nat}

/-- The lines that a reader gives and why it fails after them, if it does; at most `budget` lines
are looked for. -/
def comingWithin : Nat → ByteReader → List Text × Option String
  | 0, _ => ([], none)
  | budget + 1, reader =>
      match reader.readLine with
      | .error reason => ([], some reason)
      | .ok (bytes, rest) =>
          if bytes.isEmpty then ([], none)
          else
            let (lines, failure) := rest.comingWithin budget
            (Text.ofBytes (dropTerminator bytes) :: lines, failure)

/-- The lines that a reader has still to give, and why it fails after them, if it does. -/
def coming (reader : ByteReader) : List Text × Option String :=
  reader.comingWithin (reader.pending + 1)

/-! ## One line after the other -/

/-- No more lines are to come than there are bytes. -/
theorem comingWithin_eq {budget : Nat} (h : reader.pending < budget) :
    reader.comingWithin budget = reader.coming := by
  unfold coming
  have hsame : ∀ (first second : Nat) (reader : ByteReader), reader.pending < first →
      reader.pending < second → reader.comingWithin first = reader.comingWithin second := by
    intro first
    induction first with
    | zero => exact fun _ _ hlt => absurd hlt (Nat.not_lt_zero _)
    | succ first ih =>
        intro second reader hfirst hsecond
        obtain ⟨second, rfl⟩ := Nat.exists_eq_add_of_lt (Nat.zero_lt_of_lt hsecond)
        simp only [Nat.zero_add] at hsecond ⊢
        simp only [comingWithin]
        split
        · rfl
        · next bytes rest hline =>
            split
            · rfl
            · next hbytes =>
                have hused := length_of_readLine hline
                have hpos : 0 < bytes.length :=
                  List.length_pos_iff.2 fun hnil => hbytes (List.isEmpty_iff.2 hnil)
                rw [ih second rest (by omega) (by omega)]
  exact hsame _ _ reader h (Nat.lt_succ_self _)

/-- If the next line cannot be read, none is to come, for that reason. -/
theorem coming_of_error (h : reader.readLine = .error reason) :
    reader.coming = ([], some reason) := by
  rw [coming, comingWithin, h]

/-- If the next line is empty, none is to come, and nothing fails. -/
theorem coming_of_end (h : reader.readLine = .ok ([], rest)) : reader.coming = ([], none) := by
  rw [coming, comingWithin, h]
  rfl

/-- After a line there is to come what is to come from the rest. -/
theorem coming_of_line (h : reader.readLine = .ok (bytes, rest)) (hbytes : bytes ≠ []) :
    reader.coming = (Text.ofBytes (dropTerminator bytes) :: rest.coming.1, rest.coming.2) := by
  have hused := length_of_readLine h
  have hpos : 0 < bytes.length := List.length_pos_iff.2 hbytes
  have hrest : rest.comingWithin reader.pending = rest.coming := comingWithin_eq (by omega)
  rw [coming, comingWithin, h]
  simp only [List.isEmpty_eq_false_iff.2 hbytes, Bool.false_eq_true, if_false, hrest]

/-- What is to come goes by the next line. -/
theorem coming_congr {other : ByteReader} (h : reader.readLine = other.readLine) :
    reader.coming = other.coming := by
  cases hline : reader.readLine with
  | error reason => rw [coming_of_error hline, coming_of_error (h.symm.trans hline)]
  | ok answer =>
      obtain ⟨bytes, rest⟩ := answer
      have hother := h.symm.trans hline
      by_cases hbytes : bytes = []
      · subst hbytes
        rw [coming_of_end hline, coming_of_end hother]
      · rw [coming_of_line hline hbytes, coming_of_line hother hbytes]

/-! ## Requests -/

/-- Looking whether there are more bytes does not change what is to come. -/
theorem fill_cases (reader : ByteReader) :
    (∃ reason, reader.coming = ([], some reason) ∧ reader.fill = .error reason) ∨
      (∃ filled, reader.coming = ([], none) ∧ reader.fill = .ok filled ∧
        filled.buffered.isEmpty = true) ∨
      ∃ filled, filled.coming = reader.coming ∧ reader.fill = .ok filled ∧
        filled.buffered.isEmpty = false := by
  obtain ⟨buffered, blocks, failure⟩ := reader
  cases buffered with
  | cons b bytes => exact .inr (.inr ⟨_, rfl, rfl, rfl⟩)
  | nil =>
      cases blocks with
      | nil =>
          cases failure with
          | some reason => exact .inl ⟨reason, coming_of_error rfl, rfl⟩
          | none => exact .inr (.inl ⟨_, coming_of_end rfl, rfl, rfl⟩)
      | cons block blocks =>
          cases block with
          | nil => exact .inr (.inl ⟨_, coming_of_end rfl, rfl, rfl⟩)
          | cons b block =>
              exact .inr (.inr ⟨⟨b :: block, blocks, failure⟩, coming_congr rfl, rfl, rfl⟩)

/-- A request for lines fails if reading does before all of them have come; it brings the last lines
if there are no more than it is for, and else as many as that. -/
theorem readLines_cases (reader : ByteReader) (n : Nat) :
    (∃ reason, reader.coming.2 = some reason ∧ reader.coming.1.length ≤ n ∧
        reader.readLines n = .error reason) ∨
      (∃ rest, reader.coming.2 = none ∧ reader.coming.1.length ≤ n ∧
        reader.readLines n = .ok (⟨reader.coming.1, true⟩, rest)) ∨
      ∃ rest, n ≤ reader.coming.1.length ∧
        reader.readLines n = .ok (⟨reader.coming.1.take n, false⟩, rest) ∧
        rest.coming = (reader.coming.1.drop n, reader.coming.2) := by
  induction n generalizing reader with
  | zero =>
      simp only [readLines, bind, Except.bind]
      rcases fill_cases reader with ⟨reason, hcoming, hfill⟩ | ⟨filled, hcoming, hfill, hempty⟩ |
        ⟨filled, hcoming, hfill, hempty⟩
      · rw [hcoming, hfill]
        exact .inl ⟨reason, rfl, Nat.le_refl 0, rfl⟩
      · rw [hcoming, hfill]
        exact .inr (.inl ⟨filled, rfl, Nat.le_refl 0, by simp only [hempty]; rfl⟩)
      · rw [hfill]
        exact .inr (.inr ⟨filled, Nat.zero_le _, by simp only [hempty]; rfl, hcoming⟩)
  | succ n ih =>
      simp only [readLines, bind, Except.bind]
      cases hline : reader.readLine with
      | error reason =>
          rw [coming_of_error hline]
          exact .inl ⟨reason, rfl, Nat.zero_le _, rfl⟩
      | ok answer =>
          obtain ⟨bytes, next⟩ := answer
          by_cases hbytes : bytes = []
          · subst hbytes
            rw [coming_of_end hline]
            exact .inr (.inl ⟨next, rfl, Nat.zero_le _, rfl⟩)
          · rw [coming_of_line hline hbytes]
            simp only [List.isEmpty_eq_false_iff.2 hbytes, Bool.false_eq_true, if_false]
            rcases ih next with ⟨reason, hfailure, hle, hread⟩ | ⟨rest, hnone, hle, hread⟩ |
              ⟨rest, hle, hread, hrest⟩
            · exact .inl ⟨reason, hfailure, Nat.succ_le_succ hle, by rw [hread]⟩
            · exact .inr (.inl ⟨rest, hnone, Nat.succ_le_succ hle, by rw [hread]; rfl⟩)
            · exact .inr (.inr ⟨rest, Nat.succ_le_succ hle, by rw [hread]; rfl, hrest⟩)

end ByteReader

namespace Loader

variable {loader : Loader}

/-- A loader that is finished, or reads from a byte reader, whether that fails or not. -/
def ReadsBytes (loader : Loader) : Prop :=
  ∀ source, loader.source = some source → ∃ reader, source = .reader reader

/-- The lines that a loader of a byte reader has still to bring, and why reading fails after them,
if it does. -/
def coming (loader : Loader) : List Text × Option String :=
  match loader.source with
  | some (.reader reader) => reader.coming
  | _ => ([], none)

/-- A finished loader has no lines to come. -/
theorem coming_of_isFinished (h : loader.isFinished = true) : loader.coming = ([], none) := by
  rw [coming, Option.isNone_iff_eq_none.1 h]

/-- A finished loader has no source to read anything but bytes from. -/
theorem readsBytes_of_isFinished (h : loader.isFinished = true) : loader.ReadsBytes := by
  intro source hsource
  rw [Option.isNone_iff_eq_none.1 h] at hsource
  cases hsource

/-- The next of the lines that are to come have been put at the end of a buffer. -/
structure Brings (loader : Loader) (buffer : LineBuffer) (lines : List Text) (loading : Loading) :
    Prop where
  result : loading.result = .ok (buffer.appendLines lines).1
  buffer : loading.buffer = (buffer.appendLines lines).2
  readsBytes : loading.loader.ReadsBytes
  coming : loader.coming = (lines ++ loading.loader.coming.1, loading.loader.coming.2)

/-- A request to a loader of a byte reader fails, if reading is to fail, or brings the next lines;
and if it asks for some and gets none, there are none. -/
theorem appendMore_cases (h : loader.ReadsBytes) (hgoing : loader.isFinished = false)
    (buffer : LineBuffer) (n : Nat) :
    (∃ reason, loader.coming.2 = some reason ∧
        (loader.appendMore buffer n).result = .error (.io reason) ∧
        (loader.appendMore buffer n).buffer = buffer ∧
        (loader.appendMore buffer n).loader.isFinished = true) ∨
      ∃ lines, loader.Brings buffer lines (loader.appendMore buffer n) ∧
        (1 ≤ n → lines = [] → loader.coming = ([], none)) := by
  obtain ⟨source, hsource⟩ := Option.isSome_iff_exists.1 (Option.isNone_eq_false_iff.1 hgoing)
  obtain ⟨reader, rfl⟩ := h source hsource
  have hcoming : loader.coming = reader.coming := by rw [coming, hsource]
  rw [hcoming]
  rcases reader.readLines_cases n with ⟨reason, hfailure, -, hread⟩ | ⟨rest, hnone, -, hread⟩ |
    ⟨rest, hle, hread, hrest⟩
  · left
    refine ⟨reason, hfailure, ?_⟩
    simp only [appendMore, read, hsource, LineSource.read, hread]
    exact ⟨trivial, trivial, rfl⟩
  · right
    refine ⟨reader.coming.1, ?_, fun _ hnil => Prod.ext hnil hnone⟩
    simp only [appendMore, read, hsource, LineSource.read, hread, if_true]
    exact ⟨rfl, rfl, readsBytes_of_isFinished rfl, by
      rw [hcoming, coming_of_isFinished rfl, List.append_nil, ← hnone]⟩
  · right
    refine ⟨reader.coming.1.take n, ?_, fun hn hnil => ?_⟩
    · simp only [appendMore, read, hsource, LineSource.read, hread, Bool.false_eq_true, if_false]
      refine ⟨rfl, rfl, fun source hkept => ⟨rest, (Option.some.inj hkept).symm⟩, ?_⟩
      rw [hcoming]
      simp only [coming, hrest, List.take_append_drop]
    · have hlength := congrArg List.length hnil
      rw [List.length_take_of_le hle, List.length_nil] at hlength
      omega

end Loader

end TextEditor
