import TextEditor.Text

/-!
# Reading UTF-8

Bytes become text one at a time. `DecodeState` says what the bytes of the character begun so far
allow next. A byte that cannot continue the character ends it: the bytes read of it become one
replacement character, and the byte is read again as the first of the next character.
-/

namespace TextEditor

/-- What stands between the last byte and the next. -/
inductive DecodeState where
  /-- A character boundary. -/
  | boundary
  /-- A character of which `missing` bytes are still to come, the next of them from `low` to `high`;
  `value` holds the bits read so far. -/
  | inside (missing low high value : Nat)
  deriving DecidableEq, Repr

/-- Stands for bytes that are no character. -/
def replacementChar : Char := '\uFFFD'

/-- What a byte makes of a character boundary: a character, or the bytes that have to follow. -/
def decodeFirst (b : Nat) : Option Char × DecodeState :=
  if b < 0x80 then (some (Char.ofNat b), .boundary)
  else if 0xC2 ≤ b ∧ b ≤ 0xDF then (none, .inside 1 0x80 0xBF (b % 0x20))
  else if b = 0xE0 then (none, .inside 2 0xA0 0xBF (b % 0x10))
  else if b = 0xED then (none, .inside 2 0x80 0x9F (b % 0x10))
  else if 0xE1 ≤ b ∧ b ≤ 0xEF then (none, .inside 2 0x80 0xBF (b % 0x10))
  else if b = 0xF0 then (none, .inside 3 0x90 0xBF (b % 0x08))
  else if 0xF1 ≤ b ∧ b ≤ 0xF3 then (none, .inside 3 0x80 0xBF (b % 0x08))
  else if b = 0xF4 then (none, .inside 3 0x80 0x8F (b % 0x08))
  else (some replacementChar, .boundary)

/-- The characters that one byte completes, and the state after it. -/
def decodeByte (state : DecodeState) (b : Nat) : Text × DecodeState :=
  match state with
  | .boundary => let (c, next) := decodeFirst b; (c.toList, next)
  | .inside missing low high value =>
      if low ≤ b ∧ b ≤ high then
        let value := value * 0x40 + b % 0x40
        if missing ≤ 1 then ([Char.ofNat value], .boundary)
        else ([], .inside (missing - 1) 0x80 0xBF value)
      else let (c, next) := decodeFirst b; (replacementChar :: c.toList, next)

/-- The text of the bytes after a state. -/
def decodeFrom : DecodeState → List UInt8 → Text
  | .boundary, [] => []
  | .inside .., [] => [replacementChar]
  | state, b :: bytes =>
      let (chars, next) := decodeByte state b.toNat
      chars ++ decodeFrom next bytes

/-- The text of a sequence of bytes, with one replacement character for each longest run of bytes
that begins a character and does not complete it, and for each byte that begins none. -/
def Text.ofBytes (bytes : List UInt8) : Text := decodeFrom .boundary bytes

end TextEditor
