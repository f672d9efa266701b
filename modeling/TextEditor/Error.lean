import TextEditor.Language

/-!
# Errors

Everything that can go wrong, by its cause, and the sentence that tells the user.
-/

namespace TextEditor

/-- Why an operation failed. -/
inductive EditorError where
  /-- A source of lines could not be read. -/
  | io (reason : String)
  /-- A table for a language has a pattern that cannot be read. -/
  | pattern (language : Language)
  | unknownLanguage (id : Text)
  | unknownCommand (name : Text)
  /-- A formatter rejected the text. -/
  | format (reason : String)
  deriving DecidableEq, Repr

/-- The sentence that tells the user of an error. -/
def EditorError.message : EditorError → String
  | .io reason => "I/O error: " ++ reason
  | .pattern language => "invalid " ++ language.displayName ++ " grammar pattern"
  | .unknownLanguage id => "unknown language: " ++ String.ofList id
  | .unknownCommand name => "unknown command: " ++ String.ofList name
  | .format reason => "format failed: " ++ reason

end TextEditor
