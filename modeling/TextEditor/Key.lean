import TextEditor.Text.Words

/-!
# Keys

A key event is a key with the modifiers held down. Keys that stand for a character type it, unless
control or alt turn them into a chord.
-/

namespace TextEditor

/-- A key of the keyboard. -/
inductive Key where
  | backspace
  | enter
  | left
  | right
  | up
  | down
  | home
  | lineEnd
  | pageUp
  | pageDown
  | tab
  | delete
  | escape
  | char (c : Char)
  deriving DecidableEq, Repr

/-- A key pressed with some modifiers. -/
structure KeyEvent where
  key : Key
  shift : Bool := false
  alt : Bool := false
  ctrl : Bool := false
  deriving DecidableEq, Repr

namespace KeyEvent

/-- A key without modifiers. -/
def plain (key : Key) : KeyEvent := { key := key }

/-- The key that a terminal sends as one byte. -/
def ofByte? (byte : Nat) : Option KeyEvent :=
  if byte = 0x09 then some (plain .tab)
  else if byte = 0x0A ∨ byte = 0x0D then some (plain .enter)
  else if byte = 0x1B then some (plain .escape)
  else if byte = 0x08 ∨ byte = 0x7F then some (plain .backspace)
  else if 0x01 ≤ byte ∧ byte ≤ 0x1A then
    some { key := .char (Char.ofNat ('a'.toNat + byte - 1)), ctrl := true }
  else if 0x20 ≤ byte ∧ byte ≤ 0x7E then some (plain (.char (Char.ofNat byte)))
  else none

/-- The character of a key that stands for one. -/
def char? (event : KeyEvent) : Option Char :=
  match event.key with
  | .char c => some c
  | _ => none

/-- Whether control or alt is held, which makes the arrows go by words. -/
def jumpsWords (event : KeyEvent) : Bool := event.ctrl || event.alt

/-- Whether the event is control with a letter, in either case. -/
def isCtrlChar (event : KeyEvent) (c : Char) : Bool :=
  event.ctrl && event.char?.any fun k => asciiLower k == asciiLower c

/-- The character that the event types, if it types one. -/
def typed? (event : KeyEvent) : Option Char := if event.jumpsWords then none else event.char?

end KeyEvent

end TextEditor
