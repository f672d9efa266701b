import TextEditor.Proofs.Guarded.Buffer

/-!
# Edits as splices of the whole text

Seen from outside a buffer is one text, and an edit takes a stretch out of it and puts another text
in. `BufferEdit.splice` says which, in bytes of the whole text; `BufferEdit.Tells` says what the
result of the edit tells about it, such as the position after an inserted text. Every edit makes its
splice; only a join adds to a line number before it has been moved back to a line that is there, so
that it has to be less than the largest offset.

Main statements: `InStep.run_splice`, and `reachable_splices_iff` for every edit of every buffer
that edits lead to.
-/

namespace TextEditor

variable {buffer : LineBuffer}

/-- A stretch of a text and what takes its place. -/
structure Splice where
  start : Nat
  stop : Nat
  inserted : Text
  deriving DecidableEq, Repr

/-- The text with the stretch replaced, provided that it begins and ends at boundaries in order. -/
def Splice.applyTo? (splice : Splice) (t : Text) : Option Text :=
  if splice.start ≤ splice.stop && t.isBoundary splice.start && t.isBoundary splice.stop then
    some (t.before splice.start ++ splice.inserted ++ t.after splice.stop)
  else none

namespace BufferEdit

/-- What an edit does to the whole text of a buffer. -/
def splice (edit : BufferEdit) (buffer : LineBuffer) : Splice :=
  -- the end of the line that a line number stands for
  let lineEnd (line : Nat) : Nat := buffer.offset line (buffer.lineSize (buffer.clampLine line))
  match edit with
  | insert line column text =>
      let place := buffer.offset line column
      ⟨place, place, text.normalize⟩
  | removeRange line start stop =>
      let stop := buffer.offset line stop
      ⟨min (buffer.offset line start) stop, stop, []⟩
  | replaceLine line text => ⟨buffer.offset line 0, lineEnd line, text.normalize⟩
  | splitLine line column lead =>
      let place := buffer.offset line column
      ⟨place, place, '\n' :: lead.normalize⟩
  | insertLinesAfter line texts =>
      ⟨lineEnd line, lineEnd line, texts.flatMap fun text => '\n' :: text.normalize⟩
  | joinWithNext line =>
      if line + 1 < buffer.length then ⟨lineEnd line, lineEnd line + 1, []⟩ else ⟨0, 0, []⟩
  | appendLines texts =>
      let place := buffer.serialize.size
      ⟨place, place, texts.flatMap fun text => '\n' :: text.normalize⟩
  | replaceLines texts => ⟨0, buffer.serialize.size, Text.joinLines (texts.map Text.normalize)⟩
  | replaceAll text => ⟨0, buffer.serialize.size, text.normalize⟩
  | setHighlighter _ => ⟨0, 0, []⟩

/-- What the result of an edit says of the buffers before and after it. -/
def Tells (edit : BufferEdit) (buffer : LineBuffer) (result : EditResult) (after : LineBuffer) :
    Prop :=
  match edit with
  | insert line column text =>
      -- the position is one of the new buffer, right after the inserted text
      ∃ position, result = .position position ∧ position.line < after.length ∧
        (after.line position.line).isBoundary position.column = true ∧
        after.offset position.line position.column =
          buffer.offset line column + text.normalize.size
  | removeRange .. =>
      ∃ text, result = .text text ∧
        buffer.serialize.slice? (edit.splice buffer).start (edit.splice buffer).stop = some text
  | splitLine line column _ =>
      -- the line number is that of the line after the new line feed
      ∃ index, result = .number index ∧ index < after.length ∧
        after.offset index 0 = buffer.offset line column + 1
  | joinWithNext line =>
      if line + 1 < buffer.length then
        result = .number (buffer.lineSize line) ∧
          buffer.serialize.slice? (edit.splice buffer).start (edit.splice buffer).stop = some ['\n']
      else result = .nothing ∧ after = buffer
  | appendLines _ => ∃ count, result = .number count ∧ after.length = buffer.length + count
  | _ => result = .nothing

end BufferEdit

/-! ## Splices -/

/-- Two cuts of a text into three pieces make the splice of the middle one. -/
theorem applyTo?_append_append (s t u inserted : Text) :
    Splice.applyTo? ⟨s.size, s.size + t.size, inserted⟩ (s ++ (t ++ u)) =
      some (s ++ inserted ++ u) := by
  have hstart : (s ++ (t ++ u)).isBoundary s.size = true := Text.isBoundary_append_size _ _
  have hstop : (s ++ (t ++ u)).isBoundary (s.size + t.size) = true :=
    Text.isBoundary_append_size_add (Text.isBoundary_append_size t u)
  simp only [Splice.applyTo?, hstart, hstop, Bool.and_true, Nat.le_add_right, decide_true, if_true,
    Text.before_append_size, Text.after_append_size_add, Text.after_append_size]

/-- A splice that takes nothing out puts its text at a cut in two. -/
theorem applyTo?_append (s u inserted : Text) :
    Splice.applyTo? ⟨s.size, s.size, inserted⟩ (s ++ u) = some (s ++ inserted ++ u) :=
  applyTo?_append_append s [] u inserted

/-- A splice of the whole text leaves what it puts in. -/
theorem applyTo?_whole (t inserted : Text) :
    Splice.applyTo? ⟨0, t.size, inserted⟩ t = some inserted := by
  have h := applyTo?_append_append [] t [] inserted
  simpa using h

/-- The splice that takes nothing out and puts nothing in. -/
theorem applyTo?_nothing (t : Text) : Splice.applyTo? ⟨0, 0, []⟩ t = some t :=
  applyTo?_append [] t []


/-! ## Each edit makes its splice -/

namespace LineBuffer

/-- The last of the lines goes on with `tail`. -/
theorem extendLast_append_singleton (tail : Text) (lines : List Text) (last : Text) :
    extendLast tail (lines ++ [last]) = lines ++ [last ++ tail] := by
  induction lines with
  | nil => rfl
  | cons line lines ih =>
      have hne : lines ++ [last] ≠ [] := by simp
      rw [List.cons_append, extendLast.eq_3 tail line _ hne, ih, List.cons_append]

/-- After an insertion some line begins with what ends at the position that is told: together with
the lines ahead of it this is the old text up to the insertion, and the inserted text. -/
theorem exists_lines_insert (h : buffer.InStep) (line column : Nat) (text : Text) :
    ∃ front last,
      (buffer.insert line column text).1 = ⟨front.length, last.size⟩ ∧
      (buffer.insert line column text).2.lines =
        front ++ (last ++ (buffer.line (buffer.clampLine line)).after column) ::
          buffer.lines.drop (buffer.clampLine line + 1) ∧
      front.flatMap (· ++ ['\n']) ++ last =
        buffer.textAhead (buffer.clampLine line) ++
          (buffer.line (buffer.clampLine line)).before column ++ text.normalize := by
  have hindex := h.clampLine_lt line
  have hlength := length_take_lines hindex
  by_cases hterm : text.hasTerminator = true
  · -- the first line of the text ends the line, and the last of the others begins the new one
    obtain ⟨first, mid, last, hparts, hnorm⟩ := Text.exists_splitLines_eq hterm
    have hnone : ∀ l ∈ mid ++ [last ++ (buffer.line (buffer.clampLine line)).after column],
        l.hasTerminator = false := by
      have hpart : ∀ l ∈ mid ++ [last], l.hasTerminator = false := by
        intro l hl
        apply Text.noTerminator_of_mem_splitLines (t := text)
        rw [hparts]
        exact List.mem_cons_of_mem _ hl
      intro l hl
      rcases List.mem_append.1 hl with hl | hl
      · exact hpart l (List.mem_append_left _ hl)
      · rw [List.mem_singleton.1 hl, Text.hasTerminator_append,
          Text.hasTerminator_after (h.hasTerminator_line _), Bool.or_false]
        exact hpart last (List.mem_append_right _ (List.mem_singleton.2 rfl))
    refine ⟨buffer.lines.take (buffer.clampLine line) ++
      ((buffer.line (buffer.clampLine line)).before column ++ first) :: mid, last, ?_, ?_, ?_⟩
    · rw [insert, if_neg (by simp [hterm])]
      simp [hparts, hlength]
    · rw [insert, if_neg (by simp [hterm])]
      simp only [hparts, List.headD_cons, List.tail_cons, extendLast_append_singleton]
      rw [lines_insertLinesAfter_setLine hindex, Text.flattenLines_eq_self hnone]
      simp
    · rw [hnorm, textAhead]
      simp
  · have htext : text.hasTerminator = false := by simpa using hterm
    refine ⟨buffer.lines.take (buffer.clampLine line),
      (buffer.line (buffer.clampLine line)).before column ++ text, ?_, ?_, ?_⟩
    · rw [insert, if_pos (by simp [htext]), hlength, Text.size_append]
    · rw [insert, if_pos (by simp [htext]), lines_setLine_eq hindex]
    · rw [Text.normalize_of_not_hasTerminator htext, textAhead, List.append_assoc]

/-- An inserted text stands in normal form where it is put in. -/
theorem serialize_insert (h : buffer.InStep) (line column : Nat) (text : Text) :
    (buffer.insert line column text).2.serialize =
      (buffer.textAhead (buffer.clampLine line) ++
        (buffer.line (buffer.clampLine line)).before column) ++ text.normalize ++
      ((buffer.line (buffer.clampLine line)).after column ++
        buffer.textBehind (buffer.clampLine line)) := by
  obtain ⟨front, last, -, hlines, hfront⟩ := exists_lines_insert h line column text
  rw [← hfront, serialize_of_lines_eq hlines]
  simp [textBehind]

/-- An insertion makes its splice, and tells where the inserted text ends. -/
theorem splice_insert (h : buffer.InStep) (line column : Nat) (text : Text) :
    ((BufferEdit.insert line column text).splice buffer).applyTo? buffer.serialize =
        some (buffer.insert line column text).2.serialize ∧
      (BufferEdit.insert line column text).Tells buffer
        (.position (buffer.insert line column text).1) (buffer.insert line column text).2 := by
  obtain ⟨front, last, hposition, hlines, hfront⟩ := exists_lines_insert h line column text
  constructor
  · simp only [BufferEdit.splice, offset_eq_size]
    rw [serialize_eq_cut h line column, applyTo?_append, serialize_insert h]
  · have hline := line_of_lines_eq hlines
    have hlength := length_of_lines_eq hlines
    have hboundary : ((buffer.insert line column text).2.line front.length).isBoundary last.size =
        true := by
      rw [hline]
      exact Text.isBoundary_append_size _ _
    refine ⟨_, rfl, ?_, ?_, ?_⟩
    · rw [hposition, hlength]
      exact Nat.lt_add_of_pos_right (Nat.succ_pos _)
    · rw [hposition]
      exact hboundary
    · rw [hposition, offset_of_isBoundary (by omega) hboundary, textAhead_of_lines_eq hlines,
        ← Text.size_append, hfront, Text.size_append, ← offset_eq_size]

/-- A removal takes the middle one of three pieces out of a line. -/
theorem exists_pieces_removeRange (h : buffer.InStep) (line start stop : Nat) :
    ∃ s u v, buffer.line (buffer.clampLine line) = s ++ (u ++ v) ∧
      s.size = min ((buffer.line (buffer.clampLine line)).floor start) (s.size + u.size) ∧
      s.size + u.size = (buffer.line (buffer.clampLine line)).floor stop ∧
      (buffer.removeRange line start stop).1 = u ∧
      (buffer.removeRange line start stop).2.lines =
        buffer.lines.take (buffer.clampLine line) ++ (s ++ v) ::
          buffer.lines.drop (buffer.clampLine line + 1) := by
  have hindex := h.clampLine_lt line
  have hlines := lines_eq_append hindex
  rw [removeRange]
  generalize buffer.line (buffer.clampLine line) = old at hlines ⊢
  have hstart : old.isBoundary (min (old.floor start) (old.floor stop)) = true := by
    rw [Nat.min_def]
    split
    · exact Text.isBoundary_floor old start
    · exact Text.isBoundary_floor old stop
  obtain ⟨s, u, v, hpieces, hs, hu⟩ :=
    Text.exists_pieces (Nat.min_le_right _ _) hstart (Text.isBoundary_floor old stop)
  refine ⟨s, u, v, hpieces, by omega, hu, ?_⟩
  simp only [← hu] at hs ⊢
  rw [← hs]
  split
  · next heq =>
      -- nothing stands between the ends
      have hnil : u = [] := Text.size_eq_zero_iff.1 (by omega)
      rw [hnil, List.nil_append] at hpieces
      exact ⟨hnil.symm, by rw [← hpieces]; exact hlines⟩
  · rw [hpieces, Text.between_append_append, Text.before_append_size, Text.after_append_size_add,
      Text.after_append_size]
    exact ⟨rfl, lines_setLine_eq hindex _⟩

/-- A removal takes the middle one of three pieces out of the whole text. -/
theorem exists_serialize_removeRange (h : buffer.InStep) (line start stop : Nat) :
    ∃ ahead behind,
      (BufferEdit.removeRange line start stop).splice buffer =
        ⟨ahead.size, ahead.size + (buffer.removeRange line start stop).1.size, []⟩ ∧
      buffer.serialize = ahead ++ ((buffer.removeRange line start stop).1 ++ behind) ∧
      (buffer.removeRange line start stop).2.serialize = ahead ++ behind := by
  obtain ⟨s, u, v, hpieces, hs, hu, htext, hlines⟩ := exists_pieces_removeRange h line start stop
  rw [htext]
  refine ⟨buffer.textAhead (buffer.clampLine line) ++ s,
    v ++ buffer.textBehind (buffer.clampLine line), ?_, ?_, ?_⟩
  · simp only [BufferEdit.splice, offset, Splice.mk.injEq, and_true, Text.size_append]
    omega
  · rw [serialize_eq (h.clampLine_lt line), hpieces]
    simp
  · rw [serialize_of_lines_eq hlines]
    simp [textAhead, textBehind]

/-- A removal makes its splice, and returns the text that it takes out. -/
theorem splice_removeRange (h : buffer.InStep) (line start stop : Nat) :
    ((BufferEdit.removeRange line start stop).splice buffer).applyTo? buffer.serialize =
        some (buffer.removeRange line start stop).2.serialize ∧
      (BufferEdit.removeRange line start stop).Tells buffer
        (.text (buffer.removeRange line start stop).1) (buffer.removeRange line start stop).2 := by
  obtain ⟨ahead, behind, hsplice, hold, hnew⟩ := exists_serialize_removeRange h line start stop
  constructor
  · rw [hsplice, hold, hnew, applyTo?_append_append, List.append_nil]
  · refine ⟨_, rfl, ?_⟩
    rw [hsplice, hold]
    exact Text.slice?_append_append _ _ _

/-- The whole text after a line has been replaced, by one line or by several. -/
theorem serialize_replaceLine (h : buffer.InStep) (line : Nat) (text : Text) :
    (buffer.replaceLine line text).serialize =
      buffer.textAhead (buffer.clampLine line) ++ text.normalize ++
        buffer.textBehind (buffer.clampLine line) := by
  have hindex := h.clampLine_lt line
  rw [replaceLine_eq]
  by_cases hterm : text.hasTerminator = true
  · obtain ⟨first, mid, last, hparts, -⟩ := Text.exists_splitLines_eq hterm
    have hnone : ∀ l ∈ mid ++ [last], l.hasTerminator = false := by
      intro l hl
      apply Text.noTerminator_of_mem_splitLines (t := text)
      rw [hparts]
      exact List.mem_cons_of_mem _ hl
    rw [if_pos hterm, serialize_of_lines_eq (lines_insertLinesAfter_setLine hindex _ _),
      ← Text.joinLines_splitLines, hparts, List.headD_cons, List.tail_cons,
      Text.flattenLines_eq_self hnone, Text.joinLines_cons, List.flatMap_append]
    simp [textAhead, textBehind]
  · rw [if_neg hterm, serialize_setLine hindex,
      Text.normalize_of_not_hasTerminator (by simpa using hterm), List.append_assoc]

/-- A replacement of a line makes its splice: the line goes out, and the text comes in with line
feeds as its only terminators. -/
theorem splice_replaceLine (h : buffer.InStep) (line : Nat) (text : Text) :
    ((BufferEdit.replaceLine line text).splice buffer).applyTo? buffer.serialize =
      some (buffer.replaceLine line text).serialize := by
  have hstart : buffer.offset line 0 = (buffer.textAhead (buffer.clampLine line)).size := by
    rw [offset, Text.floor_zero, Nat.add_zero]
  simp only [BufferEdit.splice, offset_lineSize, hstart]
  rw [serialize_replaceLine h, serialize_eq (h.clampLine_lt line)]
  exact applyTo?_append_append _ _ _ _

/-- Lines put in behind a line make one splice together, each with its line feed. -/
theorem splice_insertLinesAfter (h : buffer.InStep) (line : Nat) (texts : List Text) :
    ((BufferEdit.insertLinesAfter line texts).splice buffer).applyTo? buffer.serialize =
      some (buffer.insertLinesAfter line texts).serialize := by
  have hindex := h.clampLine_lt line
  have hclamp : buffer.insertLinesAfter line texts =
      buffer.insertLinesAfter (buffer.clampLine line) texts := by
    rw [insertLinesAfter, insertLinesAfter, clampLine_of_lt hindex]
  simp only [BufferEdit.splice, offset_lineSize, ← Text.size_append]
  rw [hclamp, serialize_insertLinesAfter hindex, serialize_eq hindex, ← List.append_assoc,
    applyTo?_append]
  simp

/-- A split makes its splice, a line feed and the text that leads the new line, and tells the number
of that line. -/
theorem splice_splitLine (h : buffer.InStep) (line column : Nat) (lead : Text) :
    ((BufferEdit.splitLine line column lead).splice buffer).applyTo? buffer.serialize =
        some (buffer.splitLine line column lead).2.serialize ∧
      (BufferEdit.splitLine line column lead).Tells buffer
        (.number (buffer.splitLine line column lead).1)
        (buffer.splitLine line column lead).2 := by
  have hindex := h.clampLine_lt line
  have htail := Text.hasTerminator_after (h.hasTerminator_line (buffer.clampLine line)) column
  constructor
  · simp only [BufferEdit.splice, offset_eq_size, splitLine]
    rw [serialize_insertLinesAfter_setLine hindex, serialize_eq_cut h line column, applyTo?_append]
    simp [Text.normalize_append_of_not_hasTerminator htail]
  · obtain ⟨next, rest, hnew⟩ : ∃ next rest, Text.flattenLines
        [lead ++ (buffer.line (buffer.clampLine line)).after column] = next :: rest := by
      apply List.exists_cons_of_ne_nil
      rw [Text.flattenLines, List.flatMap_singleton]
      exact Text.splitLines_ne_nil _
    -- the first new line comes right behind the front part of the old one
    have hlines : (buffer.splitLine line column lead).2.lines =
        (buffer.lines.take (buffer.clampLine line) ++
          [(buffer.line (buffer.clampLine line)).before column]) ++ next ::
            (rest ++ buffer.lines.drop (buffer.clampLine line + 1)) := by
      rw [splitLine, lines_insertLinesAfter_setLine hindex, hnew]
      simp
    have hnumber : (buffer.splitLine line column lead).1 =
        (buffer.lines.take (buffer.clampLine line) ++
          [(buffer.line (buffer.clampLine line)).before column]).length := by
      rw [List.length_append, length_take_lines hindex, List.length_singleton, splitLine]
    have hlength := length_of_lines_eq hlines
    refine ⟨_, rfl, by omega, ?_⟩
    have hfeed : '\n'.utf8Size = 1 := by decide
    rw [hnumber, offset_of_lt (by omega), textAhead_of_lines_eq hlines, offset_eq_size, textAhead]
    simp [hfeed, Nat.add_assoc]

/-- A join makes its splice, which takes out a line feed, or none if there is no next line. -/
theorem splice_joinWithNext (buffer : LineBuffer) (line : Nat) :
    ((BufferEdit.joinWithNext line).splice buffer).applyTo? buffer.serialize =
        some ((BufferEdit.joinWithNext line).run buffer).2.1.serialize ∧
      (BufferEdit.joinWithNext line).Tells buffer ((BufferEdit.joinWithNext line).run buffer).1
        ((BufferEdit.joinWithNext line).run buffer).2.1 := by
  by_cases hnext : line + 1 < buffer.length
  · have hindex : line < buffer.length := Nat.lt_of_succ_lt hnext
    let ahead := buffer.textAhead line ++ buffer.line line
    let behind := buffer.line (line + 1) ++ buffer.textBehind (line + 1)
    have hend : buffer.offset line (buffer.lineSize (buffer.clampLine line)) = ahead.size := by
      rw [offset_lineSize, clampLine_of_lt hindex, Text.size_append]
    have hsplice : (BufferEdit.joinWithNext line).splice buffer =
        ⟨ahead.size, ahead.size + Text.size ['\n'], []⟩ := by
      simp only [BufferEdit.splice, if_pos hnext, hend]
      rfl
    have hold : buffer.serialize = ahead ++ (['\n'] ++ behind) := by
      rw [serialize_eq hindex, textBehind_eq hnext]
      simp [ahead, behind]
    have hrun : (BufferEdit.joinWithNext line).run buffer =
        (.number (buffer.lineSize line), (buffer.eraseLine (line + 1)).setLine line
          (buffer.line line ++ buffer.line (line + 1)), []) := by
      rw [BufferEdit.run, joinWithNext, if_pos hnext]
    have hnew : ((BufferEdit.joinWithNext line).run buffer).2.1.serialize =
        ahead ++ [] ++ behind := by
      rw [hrun, serialize_of_lines_eq (lines_setLine_eraseLine hnext _)]
      simp [ahead, behind, textAhead, textBehind]
    constructor
    · rw [hsplice, hold, hnew]
      exact applyTo?_append_append _ _ _ _
    · rw [BufferEdit.Tells, if_pos hnext, hsplice, hrun, hold]
      exact ⟨rfl, Text.slice?_append_append _ _ _⟩
  · have hrun : (BufferEdit.joinWithNext line).run buffer = (.nothing, buffer, []) := by
      rw [BufferEdit.run, joinWithNext, if_neg hnext]
    rw [hrun]
    simp only [BufferEdit.splice, BufferEdit.Tells, if_neg hnext, applyTo?_nothing, and_self]

/-- Lines put at the end make one splice together, and are counted. -/
theorem splice_appendLines (h : buffer.InStep) (texts : List Text) :
    ((BufferEdit.appendLines texts).splice buffer).applyTo? buffer.serialize =
        some (buffer.appendLines texts).2.serialize ∧
      (BufferEdit.appendLines texts).Tells buffer (.number (buffer.appendLines texts).1)
        (buffer.appendLines texts).2 := by
  have hlast : buffer.length - 1 < buffer.length := Nat.sub_lt h.length_pos Nat.one_pos
  constructor
  · have hbehind : buffer.textBehind (buffer.length - 1) = [] := by
      rw [textBehind, Nat.sub_add_cancel h.length_pos, length, List.drop_length]
      rfl
    have hwhole : buffer.serialize =
        buffer.textAhead (buffer.length - 1) ++ buffer.line (buffer.length - 1) := by
      rw [serialize_eq hlast, hbehind, List.append_nil]
    have hflat : (Text.flattenLines texts).flatMap (fun text => '\n' :: text.normalize) =
        texts.flatMap fun text => '\n' :: text.normalize := by
      rw [← Text.flatMap_feed_flattenLines, Text.flattenLines_eq_self,
        Text.flatMap_feed_flattenLines]
      exact fun line hline => Text.noTerminator_of_mem_flattenLines hline
    have happly := applyTo?_append buffer.serialize []
      (texts.flatMap fun text => '\n' :: text.normalize)
    rw [List.append_nil, List.append_nil] at happly
    rw [BufferEdit.splice, happly, appendLines, serialize_insertLinesAfter hlast, hflat, hbehind,
      hwhole]
    simp
  · refine ⟨_, rfl, ?_⟩
    have hlength := length_insertLinesAfter buffer (buffer.length - 1) (Text.flattenLines texts)
    simp only [appendLines]
    omega

/-- The whole text of a buffer all of whose lines have been replaced. -/
theorem serialize_replaceLines (buffer : LineBuffer) (texts : List Text) :
    (buffer.replaceLines texts).serialize = Text.joinLines (texts.map Text.normalize) := by
  have hlines : (buffer.replaceLines texts).lines =
      if (Text.flattenLines texts).isEmpty then [[]] else Text.flattenLines texts := rfl
  cases texts with
  | nil => rfl
  | cons text texts =>
      obtain ⟨first, rest, hsplit⟩ := List.exists_cons_of_ne_nil (Text.splitLines_ne_nil text)
      have hflat : Text.flattenLines (text :: texts) =
          first :: (rest ++ Text.flattenLines texts) := by
        rw [Text.flattenLines, List.flatMap_cons, hsplit, List.cons_append, Text.flattenLines]
      rw [serialize, hlines, hflat, List.isEmpty_cons, if_neg Bool.false_ne_true,
        Text.joinLines_cons, List.flatMap_append, Text.flatMap_feed_flattenLines, List.map_cons,
        Text.joinLines_cons, ← Text.joinLines_splitLines text, hsplit, Text.joinLines_cons]
      simp [List.flatMap_map]

/-- The splice of all lines takes out the whole text. -/
theorem splice_replaceLines (buffer : LineBuffer) (texts : List Text) :
    ((BufferEdit.replaceLines texts).splice buffer).applyTo? buffer.serialize =
      some (buffer.replaceLines texts).serialize := by
  rw [serialize_replaceLines]
  exact applyTo?_whole _ _

/-- The whole text of a buffer made anew is the text with line feeds as its only terminators. -/
theorem serialize_replaceAll (buffer : LineBuffer) (text : Text) :
    (buffer.replaceAll text).serialize = text.normalize := by
  have hnone : (Text.splitLines text).map Text.normalize = Text.splitLines text := by
    refine (List.map_congr_left ?_).trans (List.map_id _)
    intro line hline
    exact Text.normalize_of_not_hasTerminator (Text.noTerminator_of_mem_splitLines hline)
  rw [replaceAll, serialize_replaceLines, hnone, Text.joinLines_splitLines]

/-- Every edit of a buffer whose lists are in step makes its splice of the whole text, and tells
what the splice has done. -/
theorem InStep.run_splice (hstep : buffer.InStep) (edit : BufferEdit) :
    (edit.splice buffer).applyTo? buffer.serialize = some (edit.run buffer).2.1.serialize ∧
      edit.Tells buffer (edit.run buffer).1 (edit.run buffer).2.1 := by
  cases edit with
  | insert line column text => exact splice_insert hstep line column text
  | removeRange line start stop => exact splice_removeRange hstep line start stop
  | replaceLine line text => exact ⟨splice_replaceLine hstep line text, rfl⟩
  | splitLine line column lead => exact splice_splitLine hstep line column lead
  | insertLinesAfter line texts => exact ⟨splice_insertLinesAfter hstep line texts, rfl⟩
  | joinWithNext line => exact splice_joinWithNext buffer line
  | appendLines texts => exact splice_appendLines hstep texts
  | replaceLines texts => exact ⟨splice_replaceLines buffer texts, rfl⟩
  | replaceAll text =>
      refine ⟨?_, rfl⟩
      show _ = some (buffer.replaceAll text).serialize
      rw [serialize_replaceAll]
      exact applyTo?_whole _ _
  | setHighlighter highlighter => exact ⟨applyTo?_nothing _, rfl⟩

end LineBuffer

/-- An edit makes its splice of the whole text and tells what the splice has done, with no cut,
index or sum out of range on the way. -/
structure BufferEdit.Splices (edit : BufferEdit) (buffer : LineBuffer) : Prop where
  ran : Guarded.run (some maxOffset) edit buffer = some (edit.run buffer)
  spliced : (edit.splice buffer).applyTo? buffer.serialize =
    some (edit.run buffer).2.1.serialize
  told : edit.Tells buffer (edit.run buffer).1 (edit.run buffer).2.1

namespace LineBuffer

/-- Every edit of every buffer that edits lead to makes its splice, unless it joins a line with the
next whose number is not less than the largest offset; then it does not run at all. -/
theorem reachable_splices_iff (h : buffer.Reachable) (edit : BufferEdit) :
    edit.Splices buffer ↔ Guarded.LineFits (some maxOffset) edit := by
  constructor
  · exact fun hsplices => (Guarded.run_eq_iff h.inStep).1 hsplices.ran
  · intro hfits
    obtain ⟨hspliced, htold⟩ := h.inStep.run_splice edit
    exact ⟨(Guarded.run_eq_iff h.inStep).2 hfits, hspliced, htold⟩

/-- A paste before the last line feed of a text with a two-byte character, at a column inside it. -/
theorem reachable_splices_pasted :
    let buffer := LineBuffer.ofText "né\r\n".toList (Highlighter.ofLanguage .rust)
    let edit := BufferEdit.insert 0 2 "a\r\nb\r".toList
    edit.splice buffer = ⟨1, 1, "a\nb\n".toList⟩ ∧
      (edit.splice buffer).applyTo? "né\n".toList = some "na\nb\né\n".toList ∧
      edit.Tells buffer (.position ⟨2, 0⟩) (edit.run buffer).2.1 := by
  have h := (reachable_splices_iff (.ofText "né\r\n".toList (Highlighter.ofLanguage .rust))
    (BufferEdit.insert 0 2 "a\r\nb\r".toList)).2 trivial
  exact ⟨by decide, h.spliced, h.told⟩

/-- One line has no next line, so that the splice of a join with it is none; yet where the number of
the line is the largest offset the join does not run. -/
theorem not_splices_join_largest :
    let buffer := LineBuffer.ofText "a".toList (Highlighter.ofLanguage .plainText)
    let edit := BufferEdit.joinWithNext maxOffset
    edit.splice buffer = ⟨0, 0, []⟩ ∧ edit.Tells buffer .nothing buffer ∧
      Guarded.run (some maxOffset) edit buffer = none ∧ ¬ edit.Splices buffer := by
  intro buffer edit
  have hnone : Guarded.run (some maxOffset) edit buffer = none := rfl
  refine ⟨rfl, ⟨rfl, rfl⟩, hnone, fun h => ?_⟩
  have hran := h.ran
  rw [hnone] at hran
  cases hran

end LineBuffer

end TextEditor
