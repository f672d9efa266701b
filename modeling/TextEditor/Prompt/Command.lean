import TextEditor.Error
import TextEditor.Offset
import TextEditor.Prompt.Encoding
import TextEditor.Text.Quoted

/-!
# Commands

The commands of the command line. A line is read word by word: the first names the command in any
case, the next are its arguments, and what follows is ignored. A command whose arguments are missing
or are no numbers does nothing; a first word that names no command is an error.
-/

namespace TextEditor

/-- A command of the command line. -/
inductive Command where
  | quit
  | save (path : Option Text)
  /-- Go to a line, counted from one, and a byte offset in it. -/
  | goto (line : Nat) (column : Option Nat)
  | setEncoding (encoding : Encoding)
  | format
  | test
  deriving DecidableEq, Repr

namespace Command

/-- The goto command with these arguments, if they are numbers. -/
def goto? : List Text → Option Command
  | [] => none
  | [line] => (offset? line).map fun line => .goto line none
  | line :: column :: _ =>
      match offset? line, offset? column with
      | some line, some column => some (.goto line (some column))
      | _, _ => none

/-- The command that a line writes; `none` for a line that does nothing. -/
def parse (line : Text) : Except EditorError (Option Command) :=
  match line.splitWords with
  | [] => .ok none
  | name :: arguments =>
      match String.ofList name.toAsciiLower with
      | "quit" | "exit" => .ok (some .quit)
      | "save" => .ok (some (.save arguments.head?))
      | "goto" => .ok (goto? arguments)
      | "setenc" | "encode" =>
          .ok (arguments.head?.map fun encoding => .setEncoding (.ofName encoding))
      | "format" => .ok (some .format)
      | "test" => .ok (some .test)
      | _ => .error (.unknownCommand name)

/-- A one-line account of a command. -/
def summary : Command → String
  | .quit => "Quit"
  | .save none => "Save(None)"
  | .save (some path) => "Save(Some(" ++ path.quoted ++ "))"
  | .goto line none => "Goto \x7b line: " ++ toString line ++ ", col: None \x7d"
  | .goto line (some column) =>
      "Goto \x7b line: " ++ toString line ++ ", col: Some(" ++ toString column ++ ") \x7d"
  | .setEncoding encoding => "SetEncoding(" ++ encoding.summaryName ++ ")"
  | .format => "Format"
  | .test => "Test"

end Command

end TextEditor
