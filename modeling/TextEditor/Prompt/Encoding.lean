import TextEditor.Text.Words

/-!
# Encodings

The encodings that a document can be saved in. Only the label is kept here; whoever writes the file
encodes the text.
-/

namespace TextEditor

/-- An encoding of text in files. -/
inductive Encoding where
  | utf8
  | ascii
  | utf16
  | latin1
  | windows1252
  deriving DecidableEq, Repr

namespace Encoding

/-- The encoding of a new document. -/
def usual : Encoding := .utf8

/-- The name of an encoding. -/
def name : Encoding → String
  | .utf8 => "utf-8"
  | .ascii => "ascii"
  | .utf16 => "utf-16"
  | .latin1 => "iso-8859-1"
  | .windows1252 => "windows-1252"

/-- The one-word name that log records use. -/
def summaryName : Encoding → String
  | .utf8 => "Utf8"
  | .ascii => "Ascii"
  | .utf16 => "Utf16"
  | .latin1 => "Latin1"
  | .windows1252 => "Windows1252"

/-- The encoding that a name in any case stands for; an unknown name stands for UTF-8. -/
def ofName (name : Text) : Encoding :=
  match String.ofList name.toAsciiLower with
  | "ascii" => .ascii
  | "unicode" | "utf-16" | "utf16" => .utf16
  | "iso-8859-1" | "latin1" => .latin1
  | "windows-1252" | "cp1252" => .windows1252
  | _ => .utf8

end Encoding

end TextEditor
