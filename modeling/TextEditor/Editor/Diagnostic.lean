import TextEditor.PathName

/-!
# Diagnostics

Problems that a checker has reported. A diagnostic belongs to a document when the names of their
files agree, wherever the files are.
-/

namespace TextEditor

/-- A problem in a line of a file; lines are counted from zero. -/
structure Diagnostic where
  file : Text
  line : Nat
  message : String
  deriving DecidableEq, Repr

namespace Diagnostic

/-- Whether a diagnostic is about the file of a path. -/
def isFor (diagnostic : Diagnostic) (path : Text) : Bool :=
  match PathName.fileName? diagnostic.file, PathName.fileName? path with
  | some ours, some theirs => ours == theirs
  | _, _ => false

/-- The diagnostics about the file of a path, in order. -/
def forFile (diagnostics : List Diagnostic) (path : Text) : List Diagnostic :=
  diagnostics.filter (·.isFor path)

/-- What to say of a file while the cursor is on a line: the problem of the line or, if it has none,
the first problem of the file. -/
def status? (diagnostics : List Diagnostic) (path : Text) (line : Nat) : Option String :=
  let relevant := forFile diagnostics path
  match relevant.find? (·.line == line), relevant.head? with
  | some diagnostic, _ => some ("Error: " ++ diagnostic.message)
  | none, some diagnostic => some ("Warning: " ++ diagnostic.message)
  | none, none => none

end Diagnostic

end TextEditor
