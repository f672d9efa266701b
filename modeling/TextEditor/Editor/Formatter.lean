import TextEditor.Error
import TextEditor.Text.Words

/-!
# Formatters

A formatter rewrites whole documents in the languages that it supports, or rejects them.
-/

namespace TextEditor

/-- The languages that a formatter is for, and what it makes of a document. -/
structure Formatter where
  supports : Language → Bool
  reformat : Language → Text → Except EditorError Text

namespace Formatter

/-- A function as a formatter of all languages. -/
def ofFunction (reformat : Language → Text → Except EditorError Text) : Formatter :=
  ⟨fun _ => true, reformat⟩

/-- The formatter restricted to some languages. -/
def restrict (formatter : Formatter) (languages : List Language) : Formatter :=
  { formatter with supports := fun language => languages.contains language }

/-- The formatter that rejects every document. -/
def rejecting (reason : String) : Formatter := ofFunction fun _ _ => .error (.format reason)

/-- The formatter that gives the same text for every document. -/
def constant (text : Text) : Formatter := ofFunction fun _ _ => .ok text

/-- The formatter that puts a carriage return before every line feed. -/
def withReturns : Formatter :=
  ofFunction fun _ text => .ok (text.flatMap fun c => if c = '\n' then ['\r', '\n'] else [c])

/-- The formatter that puts ASCII letters in upper case. -/
def upperCase : Formatter := ofFunction fun _ text => .ok text.toAsciiUpper

/-- The formatter that puts the name of the language and a colon before a document. -/
def tagging : Formatter :=
  ofFunction fun language text => .ok (language.id.toList ++ ':' :: text)

end Formatter

end TextEditor
