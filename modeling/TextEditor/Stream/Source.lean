import TextEditor.Text.Decoding

/-!
# Sources of lines

Where the lines of a document come from. A source is read some lines at a time and says with each
batch whether anything is left. A byte reader takes its bytes in blocks of any size and cuts them at
line feeds; one carriage return before a line feed goes with it.

Main statement: `pending_lt_of_read`, each time a source gives lines fewer such times are left, so
that reading a source to its end takes finitely many steps.
-/

namespace TextEditor

/-- Some lines from a source. -/
structure Batch where
  lines : List Text
  /-- Whether the source has no more lines. -/
  atEnd : Bool
  deriving DecidableEq, Repr

/-- A reader of bytes: those of the last block that are still to be used, the blocks to come, and
why reading fails after the last of them, if it does. A block without bytes is taken for the end. -/
structure ByteReader where
  buffered : List UInt8
  blocks : List (List UInt8)
  failure : Option String
  deriving DecidableEq, Repr

namespace ByteReader

/-- Reads a block if no bytes are left of the last. -/
def fill (reader : ByteReader) : Except String ByteReader :=
  if !reader.buffered.isEmpty then .ok reader
  else match reader.blocks with
    | block :: blocks => .ok { reader with buffered := block, blocks := blocks }
    | [] => match reader.failure with
      | some reason => .error reason
      | none => .ok reader

/-- The bytes up to the first line feed, this included, and those after it. -/
def cutAfterFeed? : List UInt8 → Option (List UInt8 × List UInt8)
  | [] => none
  | b :: bytes =>
      if b = 10 then some ([b], bytes)
      else (cutAfterFeed? bytes).map fun (line, rest) => (b :: line, rest)

/-- The bytes up to the next line feed, this included, or up to the end, after those in `begun`; and
the reader after them. -/
def lineFrom (failure : Option String) (begun buffered : List UInt8) :
    List (List UInt8) → Except String (List UInt8 × ByteReader)
  | [] =>
      match cutAfterFeed? buffered, failure with
      | some (line, rest), _ => .ok (begun ++ line, ⟨rest, [], failure⟩)
      | none, some reason => .error reason
      | none, none => .ok (begun ++ buffered, ⟨[], [], failure⟩)
  | block :: blocks =>
      match cutAfterFeed? buffered with
      | some (line, rest) => .ok (begun ++ line, ⟨rest, block :: blocks, failure⟩)
      | none =>
          if block.isEmpty then .ok (begun ++ buffered, ⟨[], blocks, failure⟩)
          else lineFrom failure (begun ++ buffered) block blocks

/-- The bytes of the next line and the reader after them; no bytes at the end. -/
def readLine (reader : ByteReader) : Except String (List UInt8 × ByteReader) :=
  lineFrom reader.failure [] reader.buffered reader.blocks

/-- The bytes of a line without its terminator. -/
def dropTerminator (bytes : List UInt8) : List UInt8 :=
  if bytes.getLast? = some 10 then
    let bytes := bytes.dropLast
    if bytes.getLast? = some 13 then bytes.dropLast else bytes
  else bytes

/-- At most `n` lines, and the reader after them. After `n` lines the reader looks whether there are
more bytes. -/
def readLines : Nat → ByteReader → Except String (Batch × ByteReader)
  | 0, reader => do
      let reader ← reader.fill
      return (⟨[], reader.buffered.isEmpty⟩, reader)
  | n + 1, reader => do
      let (bytes, reader) ← reader.readLine
      if bytes.isEmpty then return (⟨[], true⟩, reader)
      let (batch, reader) ← readLines n reader
      return (⟨Text.ofBytes (dropTerminator bytes) :: batch.lines, batch.atEnd⟩, reader)

/-- Number of bytes that are still to be used. -/
def pending (reader : ByteReader) : Nat := reader.buffered.length + reader.blocks.flatten.length

/-- Nothing is lost where bytes are cut after a line feed. -/
theorem length_of_cutAfterFeed? {bytes line rest : List UInt8}
    (h : cutAfterFeed? bytes = some (line, rest)) : line.length + rest.length = bytes.length := by
  induction bytes generalizing line with
  | nil => simp [cutAfterFeed?] at h
  | cons b bytes ih =>
      by_cases hb : b = 10
      · simp only [cutAfterFeed?, hb, if_true, Option.some.injEq, Prod.mk.injEq] at h
        obtain ⟨rfl, rfl⟩ := h
        simp [Nat.add_comm]
      · simp only [cutAfterFeed?, hb, if_false, Option.map_eq_some_iff, Prod.exists] at h
        obtain ⟨first, rest', hcut, heq⟩ := h
        obtain ⟨rfl, rfl⟩ := Prod.mk.inj heq
        have := ih hcut
        simp only [List.length_cons]
        omega

/-- Reading a block uses no byte. -/
theorem pending_fill {reader filled : ByteReader} (h : reader.fill = .ok filled) :
    filled.pending = reader.pending := by
  obtain ⟨buffered, blocks, failure⟩ := reader
  cases buffered with
  | cons b bytes =>
      simp only [fill, List.isEmpty_cons, Bool.not_false, if_true, Except.ok.injEq] at h
      rw [← h]
  | nil =>
      cases blocks with
      | cons block blocks =>
          simp only [fill, List.isEmpty_nil, Bool.not_true, Bool.false_eq_true, if_false,
            Except.ok.injEq] at h
          simp [← h, pending]
      | nil =>
          cases failure with
          | some reason => simp [fill] at h
          | none =>
              simp only [fill, List.isEmpty_nil, Bool.not_true, Bool.false_eq_true, if_false,
                Except.ok.injEq] at h
              rw [← h]

/-- Nothing is lost where a line is read from blocks of bytes. -/
theorem length_of_lineFrom {failure : Option String} {begun buffered line : List UInt8}
    {blocks : List (List UInt8)} {reader : ByteReader}
    (h : lineFrom failure begun buffered blocks = .ok (line, reader)) :
    line.length + reader.pending = begun.length + buffered.length + blocks.flatten.length := by
  induction blocks generalizing begun buffered with
  | nil =>
      unfold lineFrom at h
      split at h
      · next line' rest hcut =>
          have := length_of_cutAfterFeed? hcut
          obtain ⟨rfl, rfl⟩ := Prod.mk.inj (Except.ok.inj h)
          simp only [pending, List.length_append, List.flatten_nil, List.length_nil]
          omega
      · cases h
      · obtain ⟨rfl, rfl⟩ := Prod.mk.inj (Except.ok.inj h)
        simp [pending]
  | cons block blocks ih =>
      unfold lineFrom at h
      split at h
      · next line' rest hcut =>
          have := length_of_cutAfterFeed? hcut
          obtain ⟨rfl, rfl⟩ := Prod.mk.inj (Except.ok.inj h)
          simp only [pending, List.length_append]
          omega
      · split at h
        · next hempty =>
            obtain ⟨rfl, rfl⟩ := Prod.mk.inj (Except.ok.inj h)
            simp [pending, List.isEmpty_iff.1 hempty]
        · have := ih h
          simp only [List.length_append, List.flatten_cons] at this ⊢
          omega

/-- A line uses as many bytes as it has, its terminator included. -/
theorem length_of_readLine {reader rest : ByteReader} {line : List UInt8}
    (h : reader.readLine = .ok (line, rest)) : line.length + rest.pending = reader.pending := by
  have := length_of_lineFrom h
  simp only [List.length_nil] at this
  unfold pending at this ⊢
  omega

/-- Every line read uses at least one byte. -/
theorem length_lines_add_pending_le {n : Nat} {reader rest : ByteReader} {batch : Batch}
    (h : reader.readLines n = .ok (batch, rest)) :
    batch.lines.length + rest.pending ≤ reader.pending := by
  induction n generalizing reader rest batch with
  | zero =>
      simp only [readLines, bind, Except.bind] at h
      split at h
      · cases h
      · next filled hfill =>
          obtain ⟨rfl, rfl⟩ := Prod.mk.inj (Except.ok.inj h)
          simp [pending_fill hfill]
  | succ n ih =>
      simp only [readLines, bind, Except.bind] at h
      split at h
      · cases h
      · next pair hline =>
          obtain ⟨bytes, next⟩ := pair
          have hused := length_of_readLine hline
          split at h
          · obtain ⟨rfl, rfl⟩ := Prod.mk.inj (Except.ok.inj h)
            simp only [List.length_nil]
            omega
          · next hbytes =>
              have hpos : 0 < bytes.length :=
                List.length_pos_iff.2 fun hnil => hbytes (List.isEmpty_iff.2 hnil)
              split at h
              · cases h
              · next answer hlines =>
                  obtain ⟨others, last⟩ := answer
                  have hrest : others.lines.length + last.pending ≤ next.pending := ih hlines
                  obtain ⟨rfl, rfl⟩ := Prod.mk.inj (Except.ok.inj h)
                  simp only [List.length_cons]
                  omega

/-- A reader of bytes that come in blocks of `size`, or one at a time if that is zero. -/
def ofBytes (bytes : List UInt8) (size : Nat) (failure : Option String) : ByteReader :=
  ⟨[], blocksOf bytes.length bytes, failure⟩
where
  /-- The bytes in at most `budget` blocks. -/
  blocksOf : Nat → List UInt8 → List (List UInt8)
    | 0, _ => []
    | _, [] => []
    | budget + 1, bytes =>
        bytes.take (max size 1) :: blocksOf budget (bytes.drop (max size 1))

end ByteReader

/-- A source of lines: a byte reader, a list of answers that are given whatever is asked for, a list
of lines that is handed out as asked for and followed by a failure, or any other source, known by
what it answers to each sequence of requests. Of the last kind `asked` holds the requests so far,
the latest first, and after `left` more of them the source is at its end; what a source without end
answers in the course of a run is that of such a source with `left` as large as the run is long. -/
inductive LineSource where
  | reader (reader : ByteReader)
  | scripted (answers : List (Except String Batch))
  | feed (lines : List Text) (failure : String)
  | other (answer : List Nat → Except String Batch) (asked : List Nat) (left : Nat)

namespace LineSource

/-- The answer of a source that is asked for at most `n` lines, and the source afterwards. -/
def read (n : Nat) : LineSource → Except String Batch × LineSource
  | reader r =>
      match r.readLines n with
      | .ok (batch, r) => (.ok batch, reader r)
      | .error reason => (.error reason, reader r)
  | scripted [] => (.ok ⟨[], true⟩, scripted [])
  | scripted (answer :: answers) => (answer, scripted answers)
  | feed lines failure =>
      if lines.isEmpty then (.error failure, feed lines failure)
      else (.ok ⟨lines.take n, false⟩, feed (lines.drop n) failure)
  | other answer asked 0 => (.ok ⟨[], true⟩, other answer asked 0)
  | other answer asked (left + 1) =>
      (answer (n :: asked), other answer (n :: asked) left)

/-- More than the number of times that the source can still give lines and not be at its end. -/
def pending : LineSource → Nat
  | reader r => r.pending + 1
  | scripted answers => answers.length + 1
  | feed lines _ => lines.length + 1
  | other _ _ left => left + 1

/-- Each time a source gives lines, fewer such times are left. -/
theorem pending_lt_of_read {n : Nat} {source rest : LineSource} {batch : Batch}
    (h : source.read n = (.ok batch, rest)) (hlines : batch.lines ≠ []) :
    rest.pending < source.pending := by
  have hpos : 0 < batch.lines.length := List.length_pos_iff.2 hlines
  cases source with
  | reader r =>
      simp only [read] at h
      split at h
      · next hread =>
          obtain ⟨hbatch, rfl⟩ := Prod.mk.inj h
          cases hbatch
          have := ByteReader.length_lines_add_pending_le hread
          simp only [pending]
          omega
      · cases (Prod.mk.inj h).1
  | scripted answers =>
      cases answers with
      | nil =>
          obtain ⟨hbatch, rfl⟩ := Prod.mk.inj h
          cases hbatch
          exact absurd rfl hlines
      | cons answer answers =>
          obtain ⟨rfl, rfl⟩ := Prod.mk.inj h
          simp [pending]
  | feed lines failure =>
      simp only [read] at h
      split at h
      · cases (Prod.mk.inj h).1
      · obtain ⟨hbatch, rfl⟩ := Prod.mk.inj h
        cases hbatch
        simp only [List.length_take] at hpos
        simp only [pending, List.length_drop]
        omega
  | other answer asked left =>
      cases left with
      | zero =>
          obtain ⟨hbatch, rfl⟩ := Prod.mk.inj h
          cases hbatch
          exact absurd rfl hlines
      | succ left =>
          obtain ⟨-, rfl⟩ := Prod.mk.inj h
          simp [pending]

end LineSource

end TextEditor
