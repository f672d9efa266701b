import TextEditor.Text
import TextEditor.Unicode.CellRanges

/-!
# Cells

How many cells of a terminal a character or a string takes. `cellWidth` measures one character by
itself. `Text.displayWidth` measures a string as a whole, where neighbours may share cells: an emoji
put together from several characters takes two cells, and some scripts join letters into one. It
reads the string from its end and keeps in `Trailing` what the characters to the right make of the
next one to the left.
-/

namespace TextEditor

open Unicode

/-- Cells of one character: none for a control, a mark or an ignorable character, two for a wide
character, one for any other. -/
def cellWidth (c : Char) : Nat :=
  if ' ' ≤ c ∧ c ≤ '~' then 1
  else if c < ' ' then 0
  else if '\x7f' ≤ c ∧ c ≤ '\u009f' then 0
  else if c = '\u17D8' then 3
  else if zeroWidthRanges.has c then 0
  else if wideRanges.has c then 2
  else 1

/-- Whether a character takes two cells. -/
def isWide (c : Char) : Bool := cellWidth c == 2

/-- A letter that may form a ligature with what stands left of it. -/
inductive LigatureEnd where
  | lamed
  | khmerLetter
  | bugineseYa
  | bugineseYaWithVowel
  | tifinaghLetter
  | tifinaghLetterWithJoiner
  | lisuTone
  | oldTurkicI
  deriving DecidableEq, Repr

/-- What the characters right of a position make of the character left of it. -/
inductive Trailing where
  | plain
  | lineFeed
  /-- A complete emoji. -/
  | emoji
  /-- A skin tone. -/
  | tone
  /-- One flag letter. -/
  | flagLetter
  /-- Two or more flag letters. -/
  | flagLetters
  /-- A joiner before an emoji. -/
  | joiner
  /-- An enclosing keycap, a joiner and an emoji. -/
  | keycap
  /-- One, or an even or odd number of, flag letters before a joiner and an emoji. -/
  | joinedFlagLetter
  | joinedFlagsEven
  | joinedFlagsOdd
  /-- The last `letters` letters, or the last `digits` digits, of a tag before a joiner and an
  emoji. -/
  | tagLetters (letters : Nat)
  | tagDigits (digits : Nat)
  /-- A letter of the shape of alef. -/
  | alef
  /-- A letter that may close a ligature, with or without a joiner before it. -/
  | ligature (letter : LigatureEnd) (joined : Bool)
  | kiratRaiE
  | kiratRaiAi
  deriving DecidableEq, Repr

/-- Which form a variation selector asks for. -/
inductive Presentation where
  | emoji
  | text
  deriving DecidableEq, Repr

/-- The state of the measuring walk: what stands to the right, and the variation selector between,
if there is one. -/
structure Measured where
  trailing : Trailing
  selector : Option Presentation
  deriving DecidableEq, Repr

namespace Measured

/-- Nothing to the right has a bearing on the next character. -/
def plain : Measured := ⟨.plain, none⟩

/-- To the right stands `trailing`, with no variation selector between. -/
def of (trailing : Trailing) : Measured := ⟨trailing, none⟩

end Measured

/-- Width and bearing of a character that joins nothing to its right. -/
def measureAlone (c : Char) : Int × Measured :=
  let n := c.toNat
  let trailing : Trailing :=
    if n < 0xA1 then .plain
    else if emojiRanges.has c then .emoji
    else if 0x1F1E6 ≤ n ∧ n ≤ 0x1F1FF then .flagLetter
    else if 0x1F3FB ≤ n ∧ n ≤ 0x1F3FF then .tone
    else if arabicAlefRanges.has c then .alef
    else if n = 0x05DC then .ligature .lamed false
    else if khmerSubscriptRanges.has c then .ligature .khmerLetter false
    else if n = 0x1A10 then .ligature .bugineseYa false
    else if (0x2D31 ≤ n ∧ n ≤ 0x2D65) ∨ n = 0x2D6F then .ligature .tifinaghLetter false
    else if n = 0xA4FC ∨ n = 0xA4FD then .ligature .lisuTone false
    else if n = 0x10C03 then .ligature .oldTurkicI false
    else if n = 0x16D67 then .kiratRaiE
    else if n = 0x16D68 then .kiratRaiAi
    else .plain
  let selector : Option Presentation :=
    if n = 0xFE0F then some .emoji else if n = 0xFE0E then some .text else none
  (cellWidth c, ⟨trailing, selector⟩)

/-- Whether a variation selector to the right of these characters leaves them in view. -/
def Trailing.passesSelector : Trailing → Bool
  | .ligature .. | .kiratRaiE | .kiratRaiAi | .joiner | .keycap => true
  | _ => false

/-- Whether ignorable characters may stand inside the sequence that these characters end. -/
def Trailing.passesIgnorable : Trailing → Bool
  | .ligature .. | .kiratRaiE | .kiratRaiAi => true
  | _ => false

/-- Width and bearing of a character that joins the characters to its right, if it does. -/
def joinTrailing? (trailing : Trailing) (c : Char) : Option (Int × Measured) :=
  let n := c.toNat
  let isFlagLetter : Bool := 0x1F1E6 ≤ n && n ≤ 0x1F1FF
  let isTagLetter : Bool := 0xE0061 ≤ n && n ≤ 0xE007A
  let isTagDigit : Bool := 0xE0030 ≤ n && n ≤ 0xE0039
  let isTifinagh : Bool := (0x2D31 ≤ n && n ≤ 0x2D65) || n == 0x2D6F
  match trailing with
  | .plain | .lineFeed => none
  | .alef =>
      if arabicLamRanges.has c then some (0, .plain)
      else if zeroWidthRanges.has c && !opaqueZeroWidthRanges.has c then some (0, .of .alef)
      else none
  | .ligature letter joined =>
      if n = 0x200D then some (0, .of (.ligature letter true))
      else if ignorableRanges.has c then some (0, .of trailing)
      else match letter, joined with
        | .lamed, true => if n = 0x05D0 then some (0, .plain) else none
        | .khmerLetter, _ => if n = 0x17D2 then some (-1, .plain) else none
        | .bugineseYa, true =>
            if n = 0x1A17 then some (0, .of (.ligature .bugineseYaWithVowel false)) else none
        | .bugineseYaWithVowel, _ => if n = 0x1A15 then some (0, .plain) else none
        | .tifinaghLetter, joined =>
            if n = 0x2D7F then some (1, .of (.ligature .tifinaghLetterWithJoiner false))
            else if joined && isTifinagh then some (0, .plain)
            else none
        | .tifinaghLetterWithJoiner, _ => if isTifinagh then some (-1, .plain) else none
        | .lisuTone, _ => if 0xA4F8 ≤ n ∧ n ≤ 0xA4FB then some (0, .plain) else none
        | .oldTurkicI, true => if n = 0x10C32 then some (0, .plain) else none
        | _, _ => none
  | .kiratRaiE =>
      if n = 0x16D63 ∨ n = 0x16D69 then some (0, .plain)
      else if n = 0x16D67 then some (0, .of .kiratRaiAi)
      else if n = 0x200D ∨ ignorableRanges.has c then some (0, .of trailing)
      else none
  | .kiratRaiAi =>
      if n = 0x16D63 then some (0, .plain)
      else if n = 0x200D ∨ ignorableRanges.has c then some (0, .of trailing)
      else none
  | .emoji => if n = 0x200D then some (0, .of .joiner) else none
  | .tone =>
      if toneBaseRanges.has c then some (0, .of .emoji)
      else if n = 0x200D then some (0, .of .joiner)
      else none
  | .flagLetter => if isFlagLetter then some (1, .of .flagLetters) else none
  | .flagLetters =>
      if isFlagLetter then some (1, .of .flagLetters)
      else if n = 0x200D then some (0, .of .joiner)
      else none
  | .joiner =>
      if n = 0x20E3 then some (0, .of .keycap)
      else if isFlagLetter then some (1, .of .joinedFlagLetter)
      else if 0x1F3FB ≤ n ∧ n ≤ 0x1F3FF then some (0, .of .tone)
      else if n = 0xE007F then some (0, .of (.tagLetters 0))
      else if emojiRanges.has c then some (0, .of .emoji)
      else none
  | .keycap => none
  | .joinedFlagLetter | .joinedFlagsOdd =>
      if isFlagLetter then some (-1, .of .joinedFlagsEven)
      else if n = 0x200D ∧ trailing = .joinedFlagsOdd then some (0, .of .joiner)
      else none
  | .joinedFlagsEven =>
      if isFlagLetter then some (3, .of .joinedFlagsOdd)
      else if n = 0x200D then some (0, .of .joiner)
      else none
  | .tagLetters letters =>
      if isTagLetter && letters < 6 then some (0, .of (.tagLetters (letters + 1)))
      else if isTagDigit && letters < 5 then some (0, .of (.tagDigits 1))
      else if n = 0x1F3F4 ∧ 3 ≤ letters then some (0, .of .emoji)
      else none
  | .tagDigits digits =>
      if isTagDigit && digits < 3 then some (0, .of (.tagDigits (digits + 1)))
      else if n = 0x1F3F4 ∧ digits = 3 then some (0, .of .emoji)
      else none

/-- Width of a character in a string, given what the characters to its right make of it, together
with what the three make of the next character to the left. A control counts one cell here, and a
carriage return before a line feed none. -/
def measure (c : Char) (right : Measured) : Int × Measured :=
  if right.selector = some .emoji ∧ emojiBaseRanges.has c then
    (if right.trailing = .joiner ∨ right.trailing = .keycap then 0 else 2, .of .emoji)
  else
    let trailing :=
      if right.selector = some .emoji && !right.trailing.passesIgnorable then .plain
      else right.trailing
    if c = '\n' then (1, .of .lineFeed)
    else if c = '\r' ∧ trailing = .lineFeed then (0, .plain)
    else if c ≤ '\u00A0' then (1, .plain)
    else if trailing = .plain ∧ right.selector ≠ some .text then measureAlone c
    else if c = '\uFE0F' then
      (0, ⟨if trailing.passesSelector then trailing else .plain, some .emoji⟩)
    else if c = '\uFE0E' then
      (0, ⟨if trailing.passesIgnorable then trailing else .plain, some .text⟩)
    else if right.selector = some .text ∧ textBaseRanges.has c then (1, .plain)
    else
      let trailing :=
        if right.selector = some .text && !trailing.passesIgnorable then .plain else trailing
      (joinTrailing? trailing c).getD (measureAlone c)

namespace Text

/-- Width of a text with the bearing of its first character on what would stand before it. -/
def measureAll (t : Text) : Int × Measured :=
  t.foldr (fun c acc => let (w, m) := measure c acc.2; (acc.1 + w, m)) (0, .plain)

/-- Cells of a string. In plain ASCII only the visible characters count. -/
def displayWidth (t : Text) : Nat :=
  if t.all (fun c => c.toNat < 0x80) then (t.filter fun c => ' ' ≤ c ∧ c ≤ '~').length
  else (measureAll t).1.toNat

end Text

end TextEditor
