import TextEditor.Proofs.Editor.Dirty
import TextEditor.Proofs.Editor.Vertical

/-!
# Typing balanced text

With closing of pairs on, typing the first of a pair also types the second, which is stepped over
when its turn comes. So a text in which the usual pairs are balanced comes out as it was typed,
wherever the cursor is, as long as the quotes that it holds are balanced before the cursor.

Main statements: what the pairs make of one character (`action_of_plain`, `action_of_opener`,
`action_of_closer`, `action_of_even`, `action_of_odd`), one lemma for each way in which a character
is typed, `Writes.typeAll_balanced` for a balanced text, and `performAll_typing_balanced`.
-/

namespace TextEditor

variable {c opener closer quote : Char} {before after word inner rest : Text}

/-! ## Balanced texts -/

/-- A character of a text that is no terminator and belongs to none of the usual pairs. -/
def IsPlain (c : Char) : Prop :=
  isTerminator c = false ∧ ∀ pair ∈ CharPair.usual, c ≠ pair.1 ∧ c ≠ pair.2

instance (c : Char) : Decidable (IsPlain c) := inferInstanceAs (Decidable (_ ∧ _))

/-- The texts on one line in which the usual pairs are balanced. A quote stands around balanced text
in which it does not occur. -/
inductive Balanced : Text → Prop where
  | nil : Balanced []
  | plain {c : Char} {rest : Text} (hc : IsPlain c) (hrest : Balanced rest) : Balanced (c :: rest)
  | bracket {opener closer : Char} {inner rest : Text}
      (hpair : (opener, closer) ∈ CharPair.usual) (hne : opener ≠ closer)
      (hinner : Balanced inner) (hrest : Balanced rest) :
      Balanced (opener :: (inner ++ closer :: rest))
  | quoted {quote : Char} {inner rest : Text} (hpair : (quote, quote) ∈ CharPair.usual)
      (hinner : Balanced inner) (hquote : quote ∉ inner) (hrest : Balanced rest) :
      Balanced (quote :: (inner ++ quote :: rest))

/-- The usual brackets and quotes are different characters. -/
theorem quote_ne_bracket (hquote : (quote, quote) ∈ CharPair.usual)
    (hpair : (opener, closer) ∈ CharPair.usual) (hne : opener ≠ closer) :
    opener ≠ quote ∧ closer ≠ quote := by
  have hall : ∀ pair ∈ CharPair.usual, ∀ other ∈ CharPair.usual, pair.1 = pair.2 →
      other.1 ≠ other.2 → other.1 ≠ pair.1 ∧ other.2 ≠ pair.1 := by decide
  exact hall _ hquote _ hpair rfl hne

/-- In a balanced text every quote stands an even number of times. -/
theorem Balanced.count_even (h : Balanced word) (hquote : (quote, quote) ∈ CharPair.usual) :
    word.count quote % 2 = 0 := by
  induction h with
  | nil => rfl
  | plain hc _ ih =>
      rw [List.count_cons_of_ne (hc.2 _ hquote).1]
      exact ih
  | bracket hpair hne _ _ ihinner ihrest =>
      obtain ⟨hopener, hcloser⟩ := quote_ne_bracket hquote hpair hne
      rw [List.count_cons_of_ne hopener, List.count_append, List.count_cons_of_ne hcloser]
      omega
  | @quoted other inner rest _ _ hother _ ihinner ihrest =>
      by_cases hsame : other = quote
      · subst hsame
        rw [List.count_cons_self, List.count_append, List.count_cons_self,
          List.count_eq_zero_of_not_mem hother]
        omega
      · rw [List.count_cons_of_ne hsame, List.count_append, List.count_cons_of_ne hsame]
        omega

/-! ## What the usual pairs make of a character -/

namespace CharPair

/-- What the usual pairs make of a character typed between two texts. -/
def usualAction (before after : Text) (c : Char) : PairAction :=
  (usual.findSome? (·.action? before after c)).getD .insert

/-- A plain character is inserted as it is, wherever it is typed. -/
theorem action_of_plain (h : IsPlain c) (before after : Text) :
    usualAction before after c = .insert := by
  have hnone : usual.findSome? (·.action? before after c) = none := by
    rw [List.findSome?_eq_none_iff]
    intro pair hpair
    obtain ⟨hfirst, hsecond⟩ := h.2 pair hpair
    unfold action?
    simp only [hfirst, hsecond, ne_eq, not_false_eq_true, if_true, if_false, false_and, ite_self]
  rw [usualAction, hnone]
  rfl

/-- The usual pairs of two different characters are the brackets. -/
theorem bracket_cases (hpair : (opener, closer) ∈ usual) (hne : opener ≠ closer) :
    opener = '(' ∧ closer = ')' ∨ opener = '[' ∧ closer = ']' ∨ opener = '{' ∧ closer = '}' := by
  simp only [usual, List.mem_cons, Prod.mk.injEq, List.not_mem_nil, or_false] at hpair
  rcases hpair with h | h | h | ⟨rfl, rfl⟩ | ⟨rfl, rfl⟩ | ⟨rfl, rfl⟩
  · exact .inl h
  · exact .inr (.inl h)
  · exact .inr (.inr h)
  all_goals exact absurd rfl hne

/-- The usual pairs of a character with itself are the quotes. -/
theorem quote_cases (hpair : (quote, quote) ∈ usual) :
    quote = '"' ∨ quote = '\'' ∨ quote = '`' := by
  simp only [usual, List.mem_cons, Prod.mk.injEq, List.not_mem_nil, or_false, and_self] at hpair
  rcases hpair with ⟨rfl, h⟩ | ⟨rfl, h⟩ | ⟨rfl, h⟩ | hquote
  · cases h
  · cases h
  · cases h
  · exact hquote

/-- The first of a pair of brackets is typed together with the second. -/
theorem action_of_opener (hpair : (opener, closer) ∈ usual) (hne : opener ≠ closer)
    (before after : Text) : usualAction before after opener = .autoClose closer := by
  rcases bracket_cases hpair hne with ⟨rfl, rfl⟩ | ⟨rfl, rfl⟩ | ⟨rfl, rfl⟩
  all_goals rfl

/-- The second of a pair of brackets steps over itself. -/
theorem action_of_closer (hpair : (opener, closer) ∈ usual) (hne : opener ≠ closer)
    (before after : Text) : usualAction before (closer :: after) closer = .skipOver := by
  rcases bracket_cases hpair hne with ⟨rfl, rfl⟩ | ⟨rfl, rfl⟩ | ⟨rfl, rfl⟩
  all_goals rfl

/-- A quote is typed twice after an even number of its kind. -/
theorem action_of_even (hpair : (quote, quote) ∈ usual) (heven : before.count quote % 2 = 0)
    (after : Text) : usualAction before after quote = .autoClose quote := by
  rcases quote_cases hpair with rfl | rfl | rfl
  all_goals simp [usualAction, usual, action?, heven]

/-- A quote steps over itself after an odd number of its kind. -/
theorem action_of_odd (hpair : (quote, quote) ∈ usual) (hodd : before.count quote % 2 = 1)
    (after : Text) : usualAction before (quote :: after) quote = .skipOver := by
  rcases quote_cases hpair with rfl | rfl | rfl
  all_goals simp [usualAction, usual, action?, hodd]

end CharPair

/-- A text without terminators is put into its line. -/
theorem LineBuffer.lines_insert {buffer : LineBuffer} {line : Nat} (h : line < buffer.length)
    (column : Nat) {text : Text} (htext : text.hasTerminator = false) :
    (buffer.insert line column text).2.lines = buffer.lines.set line
      ((buffer.line line).before column ++ text ++ (buffer.line line).after column) := by
  rw [insert, clampLine_of_lt h]
  simp only [htext, Bool.not_false, if_true]
  exact lines_setLine ..

/-- A character typed behind a text adds its own size. -/
theorem size_append_singleton (t : Text) (c : Char) :
    Text.size (t ++ [c]) = t.size + c.utf8Size := by
  rw [Text.size_append, Text.size_cons, Text.size_nil, Nat.add_zero]

namespace Editor

variable {start editor : Editor} {front back : Text}

/-! ## Typing one character -/

/-- Text is being typed on a line of an editor that closes the usual pairs and has no more lines to
read: the line is `front ++ back`, the cursor stands between the two, and all else that matters is
as it was at the start. -/
structure Writes (start : Editor) (front back : Text) (editor : Editor) : Prop where
  pairs : start.settings.pairs = CharPair.usual
  autoClose : start.settings.autoClose = true
  inside : start.cursor.line < start.buffer.length
  mode : editor.mode = .editing
  settings : editor.settings = start.settings
  unfinished : editor.unfinished? = none
  line : editor.cursor.line = start.cursor.line
  column : editor.cursor.column = front.size
  lines : editor.buffer.lines = start.buffer.lines.set start.cursor.line (front ++ back)

namespace Writes

/-- Typing stays on a line that is loaded. -/
theorem line_lt (h : Writes start front back editor) :
    editor.cursor.line < editor.buffer.length := by
  have hinside := h.inside
  rw [LineBuffer.length] at hinside ⊢
  rwa [h.line, h.lines, List.length_set]

/-- The line that is typed on is what stands before the cursor and behind it. -/
theorem line_eq (h : Writes start front back editor) :
    editor.buffer.line editor.cursor.line = front ++ back := by
  have hinside : start.cursor.line < start.buffer.lines.length := h.inside
  rw [LineBuffer.line, LineBuffer.line?, h.lines, h.line, List.getElem?_set_self hinside]
  rfl

/-- Once the line is as it should be, the cursor is put between its two parts. -/
theorem jumpTo {before : Editor} {typed pending : Text} (h : Writes start front back editor)
    (hmode : before.mode = .editing) (hsettings : before.settings = start.settings)
    (hunfinished : before.unfinished? = none)
    (hlines : before.buffer.lines = start.buffer.lines.set start.cursor.line (typed ++ pending)) :
    Writes start typed pending (before.jumpTo start.cursor.line typed.size) := by
  have hstart : start.cursor.line < start.buffer.lines.length := h.inside
  have hinside : start.cursor.line < before.buffer.length := by
    rw [LineBuffer.length, hlines, List.length_set]
    exact hstart
  have hcursor := cursor_jumpTo_of_lt hinside typed.size
  have hstance := before.stance_jumpTo start.cursor.line typed.size
  have hsettles := settles_jumpTo (Eq.refl before.window) start.cursor.line typed.size
  have hheld := (before.untouched_jumpTo start.cursor.line typed.size).holding_eq hunfinished
  refine ⟨h.pairs, h.autoClose, h.inside, ?_, hsettles.settings_eq.trans hsettings, ?_, ?_, ?_, ?_⟩
  · exact (congrArg (·.1) hstance).trans hmode
  · have hloader : (before.jumpTo start.cursor.line typed.size).loader = before.loader :=
      congrArg (·.2.1) hheld
    rw [unfinished?, hloader]
    exact hunfinished
  · rw [hcursor]
    exact LineBuffer.clampLine_of_lt hinside
  · rw [hcursor, Cursor.place, LineBuffer.clampLine_of_lt hinside, LineBuffer.line,
      LineBuffer.line?, hlines, List.getElem?_set_self hstart]
    exact Text.floor_eq_of_isBoundary (Text.isBoundary_append_size ..)
  · exact (congrArg (·.1) hheld).trans hlines

/-- What typing a character does, if that does not take off indentation. -/
theorem insertChar_eq (h : Writes start front back editor) (hc : isTerminator c = false)
    (hstays : isClosingBracket c = false ∨ front.all isIndentChar = false) :
    editor.insertChar c =
      let typed (text : Text) : Editor :=
        editor.afterEdit (editor.buffer.insert editor.cursor.line front.size text).2
          editor.cursor.line (front.size + c.utf8Size)
      match CharPair.usualAction front back c with
      | .insert => typed [c]
      | .autoClose closer => typed [c, closer]
      | .skipOver => editor.jumpTo editor.cursor.line (front.size + c.utf8Size) := by
  have hdedents : editor.dedentsAt editor.currentLine editor.cursor.column c = false := by
    rw [dedentsAt, currentLine, h.line_eq, h.column, Text.before_append_size]
    rcases hstays with hopen | hkept
    · simp [hopen]
    · simp [hkept]
  have haction : CharPair.action editor.settings.pairs editor.currentLine front.size c =
      CharPair.usualAction front back c := by
    rw [CharPair.action, currentLine, h.line_eq, Text.before_append_size, Text.after_append_size,
      h.settings, h.pairs]
    rfl
  have hclose : editor.settings.autoClose = true := by
    rw [h.settings]
    exact h.autoClose
  rw [insertChar, hc, hdedents, h.column]
  cases husual : CharPair.usualAction front back c with
  | insert | autoClose | skipOver => simp [typeAt, hclose, haction, husual]

/-- Text that is put in at the cursor, which goes behind its first character. -/
theorem afterEdit (h : Writes start front back editor) {pending : Text}
    (htext : Text.hasTerminator (c :: pending) = false) :
    Writes start (front ++ [c]) (pending ++ back)
      (editor.afterEdit (editor.buffer.insert editor.cursor.line front.size (c :: pending)).2
        editor.cursor.line (front.size + c.utf8Size)) := by
  have hlines := LineBuffer.lines_insert h.line_lt front.size htext
  rw [h.line_eq, Text.before_append_size, Text.after_append_size, h.lines, h.line,
    List.set_set] at hlines
  rw [Editor.afterEdit, ← size_append_singleton, h.line]
  refine h.jumpTo h.mode h.settings h.unfinished ?_
  rw [hlines, List.append_assoc, List.append_assoc]
  rfl

/-- A character that no pair has a say in is typed as it is. -/
theorem insertChar_inserted (h : Writes start front back editor) (hc : isTerminator c = false)
    (hstays : isClosingBracket c = false ∨ front.all isIndentChar = false)
    (haction : CharPair.usualAction front back c = .insert) :
    Writes start (front ++ [c]) back (editor.insertChar c) := by
  have htext : Text.hasTerminator [c] = false := by simp [hc]
  rw [h.insertChar_eq hc hstays, haction]
  exact h.afterEdit htext

/-- A character that is closed at once leaves what closes it behind the cursor. -/
theorem insertChar_closed (h : Writes start front back editor) (hc : isTerminator c = false)
    (hstays : isClosingBracket c = false ∨ front.all isIndentChar = false)
    (haction : CharPair.usualAction front back c = .autoClose closer)
    (hcloser : isTerminator closer = false) :
    Writes start (front ++ [c]) (closer :: back) (editor.insertChar c) := by
  have htext : Text.hasTerminator [c, closer] = false := by simp [hc, hcloser]
  rw [h.insertChar_eq hc hstays, haction]
  exact h.afterEdit htext

/-- A character that is waiting behind the cursor is stepped over. -/
theorem insertChar_skipped (h : Writes start front (c :: back) editor)
    (hc : isTerminator c = false)
    (hstays : isClosingBracket c = false ∨ front.all isIndentChar = false)
    (haction : CharPair.usualAction front (c :: back) c = .skipOver) :
    Writes start (front ++ [c]) back (editor.insertChar c) := by
  rw [h.insertChar_eq hc hstays, haction]
  simp only
  rw [← size_append_singleton, h.line]
  refine h.jumpTo h.mode h.settings h.unfinished ?_
  rw [h.lines, List.append_assoc]
  rfl

end Writes

/-! ## Typing a text -/

/-- The editor after the characters of a text have been typed one by one. -/
def typeAll (editor : Editor) (text : Text) : Editor := text.foldl insertChar editor

/-- To type two texts in a row is to type them as one. -/
theorem typeAll_append (editor : Editor) (s t : Text) :
    editor.typeAll (s ++ t) = (editor.typeAll s).typeAll t := List.foldl_append

/-- To type a text is to type its first character and then the others. -/
theorem typeAll_cons (editor : Editor) (c : Char) (t : Text) :
    editor.typeAll (c :: t) = (editor.insertChar c).typeAll t := rfl

end Editor

/-- The usual pairs are no terminators, and their first characters close no bracket. -/
theorem CharPair.usual_spec (hpair : (opener, closer) ∈ CharPair.usual) :
    isTerminator opener = false ∧ isTerminator closer = false ∧ isClosingBracket opener = false ∧
      isIndentChar opener = false := by
  have hall : ∀ pair ∈ CharPair.usual, isTerminator pair.1 = false ∧
      isTerminator pair.2 = false ∧ isClosingBracket pair.1 = false ∧
      isIndentChar pair.1 = false := by decide
  exact hall _ hpair

/-- A plain character closes no bracket, so that it does not dedent its line. -/
theorem IsPlain.isClosingBracket_eq_false (h : IsPlain c) : isClosingBracket c = false := by
  rw [Bool.eq_false_iff]
  intro hclosing
  simp only [isClosingBracket, Bool.or_eq_true, beq_iff_eq] at hclosing
  rcases hclosing with (hbrace | hbracket) | hparenthesis
  · exact (h.2 ('{', '}') (by decide)).2 hbrace
  · exact (h.2 ('[', ']') (by decide)).2 hbracket
  · exact (h.2 ('(', ')') (by decide)).2 hparenthesis

/-- Any other character leaves the number of quotes before the cursor. -/
theorem count_append_singleton_of_ne (h : c ≠ quote) :
    (before ++ [c]).count quote = before.count quote := by
  rw [List.count_append, List.count_cons_of_ne h, List.count_nil, Nat.add_zero]

/-- A balanced text keeps the number of each quote even. -/
theorem Balanced.count_append_even (h : Balanced word)
    (hquote : (quote, quote) ∈ CharPair.usual) (heven : before.count quote % 2 = 0) :
    (before ++ word).count quote % 2 = 0 := by
  have hword := h.count_even hquote
  rw [List.count_append]
  omega

namespace Editor

variable {start editor : Editor} {front back : Text}

/-- A balanced text is typed as it is. What its brackets and quotes are closed with in advance
stands right behind the cursor when its turn comes, so the induction is on the text with anything
behind the cursor. -/
theorem Writes.typeAll_balanced (hword : Balanced word) (h : Writes start front back editor)
    (heven : ∀ quote, (quote, quote) ∈ CharPair.usual → quote ∈ word →
      front.count quote % 2 = 0) :
    Writes start (front ++ word) back (editor.typeAll word) := by
  induction hword generalizing front back editor with
  | nil =>
      rw [List.append_nil]
      exact h
  | @plain c rest hc hrest ih =>
      have htyped := h.insertChar_inserted hc.1 (.inl hc.isClosingBracket_eq_false)
        (CharPair.action_of_plain hc front back)
      rw [List.append_cons]
      refine ih htyped fun quote hquote hmem => ?_
      exact (Balanced.plain hc .nil).count_append_even hquote
        (heven quote hquote (List.mem_cons_of_mem c hmem))
  | @bracket opener closer inner rest hpair hne hinner hrest ihinner ihrest =>
      obtain ⟨hopener, hcloser, hopens, hblank⟩ := CharPair.usual_spec hpair
      have htyped := h.insertChar_closed hopener (.inl hopens)
        (CharPair.action_of_opener hpair hne front back) hcloser
      have hfilled := ihinner htyped fun quote hquote hmem => by
        rw [count_append_singleton_of_ne (quote_ne_bracket hquote hpair hne).1]
        exact heven quote hquote (by simp [hmem])
      -- the opener stands before the closer, so that no indentation is taken off
      have hkept : (front ++ [opener] ++ inner).all isIndentChar = false := by
        rw [List.all_eq_false]
        exact ⟨opener, by simp, by simp [hblank]⟩
      have hclosed := hfilled.insertChar_skipped hcloser (.inr hkept)
        (CharPair.action_of_closer hpair hne _ back)
      have hlast := ihrest hclosed fun quote hquote hmem => by
        rw [show front ++ [opener] ++ inner ++ [closer] = front ++ (opener :: (inner ++ [closer]))
          by simp]
        exact (Balanced.bracket hpair hne hinner .nil).count_append_even hquote
          (heven quote hquote (by simp [hmem]))
      rw [typeAll_cons, typeAll_append, typeAll_cons]
      simpa using hlast
  | @quoted quote inner rest hpair hinner hquote hrest ihinner ihrest =>
      obtain ⟨hterminator, -, hopens, -⟩ := CharPair.usual_spec hpair
      have hbefore : front.count quote % 2 = 0 := heven quote hpair List.mem_cons_self
      have htyped := h.insertChar_closed hterminator (.inl hopens)
        (CharPair.action_of_even hpair hbefore back) hterminator
      have hfilled := ihinner htyped fun other hother hmem => by
        have hne : quote ≠ other := by
          rintro rfl
          exact hquote hmem
        rw [count_append_singleton_of_ne hne]
        exact heven other hother (by simp [hmem])
      have hodd : (front ++ [quote] ++ inner).count quote % 2 = 1 := by
        rw [List.count_append, List.count_append, List.count_singleton_self,
          List.count_eq_zero_of_not_mem hquote]
        omega
      have hclosed := hfilled.insertChar_skipped hterminator (.inl hopens)
        (CharPair.action_of_odd hpair hodd back)
      have hlast := ihrest hclosed fun other hother hmem => by
        rw [show front ++ [quote] ++ inner ++ [quote] = front ++ (quote :: (inner ++ [quote]))
          by simp]
        exact (Balanced.quoted hpair hinner hquote .nil).count_append_even hother
          (heven other hother (by simp [hmem]))
      rw [typeAll_cons, typeAll_append, typeAll_cons]
      simpa using hlast

end Editor

/-! ## Operations -/

/-- The character that an operation types while the document is edited, if it types one. -/
def Operation.typed? : Operation → Option Char
  | .key event => event.typed?
  | .insertChar c => some c
  | _ => none

namespace Editor

variable {start editor : Editor} {front back : Text}

/-- An operation that types a character inserts it while the document is edited. -/
theorem perform_of_typed? (hmode : editor.mode = .editing) {operation : Operation}
    (h : operation.typed? = some c) : (editor.perform operation).2 = editor.insertChar c := by
  cases operation with
  | key event =>
      have htyped : event.typed? = some c := h
      have hplain : event.jumpsWords = false := by
        rw [KeyEvent.typed?] at htyped
        cases hjumps : event.jumpsWords with
        | false => rfl
        | true =>
            rw [hjumps] at htyped
            cases htyped
      have hctrl (k : Char) : event.isCtrlChar k = false := by
        rw [KeyEvent.jumpsWords, Bool.or_eq_false_iff] at hplain
        rw [KeyEvent.isCtrlChar, hplain.1, Bool.false_and]
      rw [perform, handleKey, hmode]
      simp only [editingKey, hctrl, Bool.false_eq_true, if_false]
      cases hkey : event.key with
      | char k => simp only [htyped]
      | _ =>
          rw [KeyEvent.typed?, hplain, KeyEvent.char?, hkey] at htyped
          cases htyped
  | insertChar k =>
      rw [← Option.some.inj h]
      rfl
  | _ => cases h

/-- Operations that type the characters of a word in order type the word. -/
theorem performAll_of_typed? (hmode : editor.mode = .editing) {typing : List Operation}
    (h : typing.map Operation.typed? = word.map some) :
    (editor.performAll typing).2 = editor.typeAll word := by
  induction typing generalizing editor word with
  | nil =>
      obtain rfl : word = [] := List.map_eq_nil_iff.1 h.symm
      rfl
  | cons operation typing ih =>
      cases word with
      | nil => cases h
      | cons c word =>
          rw [List.map_cons, List.map_cons, List.cons.injEq] at h
          have hfirst := perform_of_typed? hmode h.1
          have hkept : (editor.insertChar c).mode = .editing :=
            (congrArg (·.1) (editor.stance_insertChar c)).trans hmode
          rw [← hfirst] at hkept
          rw [typeAll_cons, ← hfirst]
          exact ih hkept h.2

/-- The text of the cursor's line before the cursor. -/
def textBefore (editor : Editor) : Text := editor.currentLine.before editor.cursor.column

/-- The text of the cursor's line behind the cursor. -/
def textAfter (editor : Editor) : Text := editor.currentLine.after editor.cursor.column

/-- While a document is edited that has been read to its end, text can be typed at the cursor. -/
theorem writes_self {origin : Option LineSource} (h : editor.Sound origin)
    (hmode : editor.mode = .editing) (hpairs : editor.settings.pairs = CharPair.usual)
    (hclose : editor.settings.autoClose = true) (hstream : editor.isStreaming = false) :
    Writes editor editor.textBefore editor.textAfter editor := by
  refine ⟨hpairs, hclose, h.cursor.line_lt, hmode, rfl, ?_, rfl, ?_, ?_⟩
  · simpa only [isStreaming, Option.isSome_eq_false_iff, Option.isNone_iff_eq_none] using hstream
  · exact (Text.floor_eq_of_isBoundary h.isBoundary_currentLine).symm
  · rw [textBefore, textAfter, Text.before_append_after, currentLine,
      LineBuffer.line_of_lt h.cursor.line_lt]
    exact (List.set_getElem_self h.cursor.line_lt).symm

/-- Typing balanced text inserts just that text. In any editor in which a document is being edited
that has been read to its end, with the usual pairs and closing them on, a balanced text is typed
one character at a time; every kind of quote in the text stands an even number of times before the
cursor on its line. Then the text stands where the cursor was, the cursor is behind it, and nothing
else has changed in the document. -/
theorem performAll_typing_balanced (settings : Settings) (earlier : List Operation)
    (hmode : ((new settings).performAll earlier).2.mode = .editing)
    (hpairs : ((new settings).performAll earlier).2.settings.pairs = CharPair.usual)
    (hclose : ((new settings).performAll earlier).2.settings.autoClose = true)
    (hstream : ((new settings).performAll earlier).2.isStreaming = false)
    (hword : Balanced word)
    (heven : ∀ quote, (quote, quote) ∈ CharPair.usual → quote ∈ word →
      ((new settings).performAll earlier).2.textBefore.count quote % 2 = 0)
    {typing : List Operation} (htyping : typing.map Operation.typed? = word.map some) :
    let editor := ((new settings).performAll earlier).2
    let after := (editor.performAll typing).2
    after.buffer.lines = editor.buffer.lines.set editor.cursor.line
        (editor.textBefore ++ word ++ editor.textAfter) ∧
      after.cursor.line = editor.cursor.line ∧
      after.cursor.column = editor.cursor.column + word.size ∧
      after.isStreaming = false := by
  intro editor after
  have hsound := (sound_new settings).performAll earlier
  have hself : Writes editor editor.textBefore editor.textAfter editor :=
    writes_self hsound hmode hpairs hclose hstream
  have hafter : Writes editor (editor.textBefore ++ word) editor.textAfter after := by
    have htyped : after = editor.typeAll word := performAll_of_typed? hmode htyping
    rw [htyped]
    exact hself.typeAll_balanced hword heven
  refine ⟨hafter.lines, hafter.line, ?_, ?_⟩
  · rw [hafter.column, Text.size_append, ← hself.column]
  · rw [isStreaming, hafter.unfinished]
    rfl

/-- After two blanks and before a closing bracket a call is typed with a quoted bracket in it and an
empty quote; some of its characters come as keys. No indentation is taken off. -/
theorem performAll_typing_balanced_call :
    let earlier : List Operation := [.loadText "  )".toList, .goto 1 (some 2)]
    let word : Text := ['(', '"', '[', 'é', ']', '"', ',', '\'', '\'', ')']
    let typing : List Operation :=
      (word.take 5).map (fun c => .key (.plain (.char c))) ++ (word.drop 5).map .insertChar
    let editor := ((new .usual).performAll earlier).2
    let after := (editor.performAll typing).2
    Balanced word ∧ editor.settings.autoDedent = true ∧ editor.cursor = ⟨0, 2, 2⟩ ∧
      after.cursor.column = 13 ∧ after.buffer.lines = ["  ".toList ++ word ++ ")".toList] := by
  intro earlier word typing editor after
  have hword : Balanced word :=
    .bracket (by decide) (by decide)
      (.quoted (by decide) (.bracket (by decide) (by decide) (.plain (by decide) .nil) .nil)
        (by decide) (.plain (by decide) (.quoted (by decide) .nil (by decide) .nil))) .nil
  have hmode : editor.mode = .editing := by decide +kernel
  have hpairs : editor.settings.pairs = CharPair.usual := by decide +kernel
  have hclose : editor.settings.autoClose = true := by decide +kernel
  have hdedent : editor.settings.autoDedent = true := by decide +kernel
  have hstream : editor.isStreaming = false := by decide +kernel
  have hlines : editor.buffer.lines = ["  )".toList] := by decide +kernel
  have hcursor : editor.cursor = ⟨0, 2, 2⟩ := by decide +kernel
  have hbefore : editor.textBefore = "  ".toList := by decide +kernel
  have hbehind : editor.textAfter = ")".toList := by decide +kernel
  have htyping : typing.map Operation.typed? = word.map some := by decide +kernel
  have hsize : word.size = 11 := by decide +kernel
  -- nothing more is computed from here on
  clear_value earlier word typing
  have heven (quote : Char) (hquote : (quote, quote) ∈ CharPair.usual) (_ : quote ∈ word) :
      editor.textBefore.count quote % 2 = 0 := by
    rw [hbefore]
    rcases CharPair.quote_cases hquote with rfl | rfl | rfl
    all_goals decide
  obtain ⟨hafter, -, hcolumn, -⟩ := performAll_typing_balanced .usual earlier hmode hpairs hclose
    hstream hword heven htyping
  rw [hlines, hcursor, hbefore, hbehind] at hafter
  rw [hcursor, hsize] at hcolumn
  exact ⟨hword, hdedent, hcursor, hcolumn, hafter⟩

end Editor

end TextEditor
