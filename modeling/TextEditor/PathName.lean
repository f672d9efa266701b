import TextEditor.Text

/-!
# Path names

A path is a text with `/` between its parts. The file name is the last part that is neither empty
nor a dot, unless that part names the parent directory; the extension is what follows the last dot
of the file name, provided that something precedes the dot.
-/

namespace TextEditor.PathName

/-- The parts of a path between slashes, where `begun` is the part read so far. -/
def partsFrom (begun : Text) : Text → List Text
  | [] => [begun]
  | c :: t => if c = '/' then begun :: partsFrom [] t else partsFrom (begun ++ [c]) t

/-- The parts of a path that name something: neither empty nor a single dot. -/
def parts (path : Text) : List Text :=
  (partsFrom [] path).filter fun part => part ≠ [] ∧ part ≠ ['.']

/-- The last part of a path, unless the path has none or ends in the parent directory. -/
def fileName? (path : Text) : Option Text :=
  match (parts path).getLast? with
  | some part => if part = ['.', '.'] then none else some part
  | none => none

/-- What follows the last dot of a file name, provided that something precedes the dot. -/
def extensionOf? (name : Text) : Option Text :=
  let reversed := name.reverse
  let ending := reversed.takeWhile (· ≠ '.')
  let stem := (reversed.dropWhile (· ≠ '.')).drop 1
  if stem = [] then none else some ending.reverse

/-- The extension of a path's file name. -/
def extension? (path : Text) : Option Text := (fileName? path).bind extensionOf?

end TextEditor.PathName
