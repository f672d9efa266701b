import TextEditor.Proofs.Buffer.InStep
import TextEditor.Proofs.Text.Scanning

/-!
# Writing a buffer out and reading it back

The text of a buffer is its lines joined by line feeds. No line of a buffer holds a terminator, and
there is always one line, so the lines are found again in that text; and as tokens and regions are
those of the lines, a buffer that is given its own text again stays as it is. What a buffer made of
a text is written out as differs from that text in the form of the terminators only.

Main statements: `InStep.replaceAll_serialize` and `serialize_ofText`, put together with the lines
of a text in `splitLines_round_trips`.
-/

namespace TextEditor.LineBuffer

variable {a b buffer : LineBuffer}

/-- Buffers in step are told apart by their lines and their highlighters. -/
theorem InStep.ext (ha : a.InStep) (hb : b.InStep) (hlines : a.lines = b.lines)
    (hhighlighter : a.highlighter = b.highlighter) : a = b := by
  have htokens : a.tokenLists = b.tokenLists := by
    rw [ha.tokenLists_eq, hb.tokenLists_eq, hlines, hhighlighter]
  have hregions : a.regionLists = b.regionLists := by
    rw [ha.regionLists_eq, hb.regionLists_eq, hlines, hhighlighter]
  obtain ⟨lines, tokenLists, regionLists, highlighter⟩ := a
  obtain rfl : lines = b.lines := hlines
  obtain rfl : tokenLists = b.tokenLists := htokens
  obtain rfl : regionLists = b.regionLists := hregions
  obtain rfl : highlighter = b.highlighter := hhighlighter
  rfl

/-- A buffer is given the lines of a text as they are. -/
theorem lines_replaceAll (buffer : LineBuffer) (text : Text) :
    (buffer.replaceAll text).lines = Text.splitLines text := by
  have hsame : Text.flattenLines (Text.splitLines text) = Text.splitLines text :=
    Text.flattenLines_eq_self fun _ => Text.noTerminator_of_mem_splitLines
  show (if (Text.flattenLines (Text.splitLines text)).isEmpty then [[]]
    else Text.flattenLines (Text.splitLines text)) = _
  rw [hsame, List.isEmpty_eq_false_iff.2 (Text.splitLines_ne_nil text), if_neg Bool.false_ne_true]

/-- A buffer made from a text has the lines of the text. -/
theorem lines_ofText (text : Text) (highlighter : Highlighter) :
    (ofText text highlighter).lines = Text.splitLines text := lines_replaceAll _ text

/-- The lines of a buffer are found again in its text. -/
theorem InStep.splitLines_serialize (h : buffer.InStep) :
    Text.splitLines buffer.serialize = buffer.lines :=
  Text.splitLines_joinLines h.lines_ne_nil h.noTerminator

/-- A buffer that is given its own text stays as it is. -/
theorem InStep.replaceAll_serialize (h : buffer.InStep) :
    buffer.replaceAll buffer.serialize = buffer := by
  refine InStep.ext (inStep_replaceLines buffer _) h ?_ rfl
  rw [lines_replaceAll, h.splitLines_serialize]

/-- What a buffer made of a text is written out as: the text in normal form. -/
theorem serialize_ofText (text : Text) (highlighter : Highlighter) :
    (ofText text highlighter).serialize = Text.normalize text := by
  rw [serialize, lines_ofText, Text.joinLines_splitLines]

/-- The lines of a text are those that one pass finds, none of them holds a terminator, and they are
the lines of the text that they join to. So each buffer that edits lead to has the lines of its
text, and giving it that text changes nothing; and a buffer made of a text is written out as the
text with each terminator replaced by a line feed. -/
theorem splitLines_round_trips (text : Text) (highlighter : Highlighter) (h : buffer.Reachable) :
    Text.splitLines text = Text.scanLines [] text ∧
      (∀ line ∈ Text.splitLines text, '\n' ∉ line ∧ '\r' ∉ line) ∧
      Text.splitLines (Text.joinLines (Text.splitLines text)) = Text.splitLines text ∧
      Text.splitLines buffer.serialize = buffer.lines ∧
      buffer.replaceAll buffer.serialize = buffer ∧
      (ofText text highlighter).lines = Text.splitLines text ∧
      (ofText text highlighter).serialize = Text.withFeeds text := by
  have hnone : ∀ line ∈ Text.splitLines text, line.hasTerminator = false := fun _ =>
    Text.noTerminator_of_mem_splitLines
  refine ⟨Text.splitLines_eq_scanLines text, ?_, ?_, h.inStep.splitLines_serialize,
    h.inStep.replaceAll_serialize, lines_ofText text highlighter, ?_⟩
  · exact fun line hline => Text.hasTerminator_eq_false_iff.1 (hnone line hline)
  · exact Text.splitLines_joinLines (Text.splitLines_ne_nil text) hnone
  · rw [serialize_ofText, Text.normalize_eq_withFeeds]

/-- Three terminators and one that ends the text make five lines, the same as are left in a buffer
after a paste and a cut. -/
theorem splitLines_round_trips_returns :
    Text.scanLines [] "a\r\r\n\ré\n".toList = ["a".toList, [], [], "é".toList, []] ∧
      Text.splitLines "a\r\r\n\ré\n".toList = ["a".toList, [], [], "é".toList, []] ∧
      (ofText "a\r\r\n\ré\n".toList (.ofLanguage .rust)).serialize = "a\n\n\né\n".toList ∧
      ∃ buffer : LineBuffer, buffer.lines = ["a".toList, [], [], "é".toList, []] ∧
        buffer.replaceAll "a\n\n\né\n".toList = buffer := by
  let highlighter := Highlighter.ofLanguage .rust
  let filled := (BufferEdit.insert 0 0 "a\n\r\n\nxé\n".toList).run (.empty highlighter)
  let buffer := ((BufferEdit.removeRange 3 0 1).run filled.2.1).2.1
  have hreach : buffer.Reachable := .run _ (.run _ (.empty highlighter))
  have hlines : buffer.lines = ["a".toList, [], [], "é".toList, []] := by decide +kernel
  have htext : buffer.serialize = "a\n\n\né\n".toList := by decide +kernel
  -- nothing more is computed of the buffer from here on
  clear_value buffer
  obtain ⟨hscan, -, -, -, hback, -, hfeeds⟩ :=
    splitLines_round_trips "a\r\r\n\ré\n".toList highlighter hreach
  have hpass : Text.scanLines [] "a\r\r\n\ré\n".toList = ["a".toList, [], [], "é".toList, []] := by
    decide
  rw [htext] at hback
  exact ⟨hpass, hscan.trans hpass, hfeeds.trans (by decide), buffer, hlines, hback⟩

end TextEditor.LineBuffer
