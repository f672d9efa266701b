import TextEditor.Text
import TextEditor.Unicode.WordChars

/-!
# Words and letter case

Trimming, splitting into words and comparing without regard to ASCII case. Words are separated by
white space of any script; case is folded for the ASCII letters only.
-/

namespace TextEditor

open Unicode

/-- The lower-case form of an ASCII letter; any other character as it is. -/
def asciiLower (c : Char) : Char := c.toLower

/-- The upper-case form of an ASCII letter; any other character as it is. -/
def asciiUpper (c : Char) : Char := c.toUpper

namespace Text

/-- The text with its ASCII letters in lower case. -/
def toAsciiLower (t : Text) : Text := t.map asciiLower

/-- The text with its ASCII letters in upper case. -/
def toAsciiUpper (t : Text) : Text := t.map asciiUpper

/-- The text without the white space at its start. -/
def trimLeft (t : Text) : Text := t.dropWhile isBlank

/-- The text without the white space at its end. -/
def trimRight (t : Text) : Text := (t.reverse.dropWhile isBlank).reverse

/-- The text without the white space at its ends. -/
def trim (t : Text) : Text := trimRight (trimLeft t)

/-- The pieces of a text between white space, where `begun` is the piece read so far. -/
def splitWordsFrom (begun : Text) : Text → List Text
  | [] => if begun.isEmpty then [] else [begun]
  | c :: t =>
      if isBlank c then
        if begun.isEmpty then splitWordsFrom [] t else begun :: splitWordsFrom [] t
      else splitWordsFrom (begun ++ [c]) t

/-- The words of a text: its longest pieces without white space. -/
def splitWords (t : Text) : List Text := splitWordsFrom [] t

/-- Whether a text ends in another. -/
def endsIn (t ending : Text) : Bool := ending.isSuffixOf t

/-- The text without `ending`, provided that it ends so. -/
def dropSuffix? (ending t : Text) : Option Text :=
  if t.endsIn ending then some (t.take (t.length - ending.length)) else none

/-- How often `needle`, which is not empty, occurs in a text without overlap, the next `skip`
characters left out. -/
def countFrom (needle : Text) : Nat → Text → Nat
  | _, [] => 0
  | skip + 1, _ :: t => countFrom needle skip t
  | 0, c :: t =>
      if needle.isPrefixOf (c :: t) then 1 + countFrom needle (needle.length - 1) t
      else countFrom needle 0 t

/-- How often `needle` occurs in a text, from left to right and without overlap. -/
def countOf (needle t : Text) : Nat := countFrom needle 0 t

end Text

end TextEditor
