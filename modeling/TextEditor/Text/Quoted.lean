import TextEditor.Text
import TextEditor.Unicode.Escapes

/-!
# Quoted text

The form in which log records and summaries show a text: between double quotes, with the quote and
the backslash escaped, the usual controls by a letter, and every other character without a visible
form by its code point in hexadecimal.
-/

namespace TextEditor

/-- One character inside quoted text. -/
def quoteChar (c : Char) : String :=
  if c = '"' then "\\\""
  else if c = '\\' then "\\\\"
  else if c = '\n' then "\\n"
  else if c = '\r' then "\\r"
  else if c = '\t' then "\\t"
  else if c.toNat = 0 then "\\0"
  else if Unicode.isEscaped c then
    "\\u\x7b" ++ String.ofList (Nat.toDigits 16 c.toNat) ++ "\x7d"
  else String.singleton c

/-- A text between double quotes, with escapes. -/
def Text.quoted (t : Text) : String := "\"" ++ String.join (t.map quoteChar) ++ "\""

end TextEditor
