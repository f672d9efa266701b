import Mathlib.Data.String.Basic
import TextEditor.Prompt.Command
import TextEditor.Proofs.Text.Numerals
import TextEditor.Proofs.Text.Spacing

/-!
# What a line commands

A line is read by its words. The first names a command in any case, the next are its arguments as
far as the command has any, and no others are looked at. `Command.Reads words result` gives the
rules by which words have a result, one for each thing that can come of them.

Main statements: `parse_eq_iff`, that a line has the result its words have, `Reads.of_take`, about
the words that do not count, and `parse_reads`, which has both.
-/

namespace TextEditor

namespace Command

/-- The names of the commands, in lower case. -/
def names : List Text :=
  ["quit".toList, "exit".toList, "save".toList, "goto".toList, "setenc".toList, "encode".toList,
    "format".toList, "test".toList]

/-- A word writes an offset. -/
def WritesOffset (word : Text) (n : Nat) : Prop := word.Writes n ∧ n < 2 ^ 64

/-- The arguments of a goto command tell its line, and its column if there is a second one. -/
inductive Targets : List Text → Nat → Option Nat → Prop
  | line {first : Text} {line : Nat} : WritesOffset first line → Targets [first] line none
  | column {first second : Text} {line column : Nat} (more : List Text) :
      WritesOffset first line → WritesOffset second column →
      Targets (first :: second :: more) line (some column)

/-- `Reads words result` says that `result` is what words have as a command. -/
inductive Reads : List Text → Except EditorError (Option Command) → Prop
  | nothing : Reads [] (.ok none)
  | unknown {name : Text} (arguments : List Text) : name.toAsciiLower ∉ names →
      Reads (name :: arguments) (.error (.unknownCommand name))
  | quit {name : Text} (arguments : List Text) :
      name.toAsciiLower = "quit".toList ∨ name.toAsciiLower = "exit".toList →
      Reads (name :: arguments) (.ok (some .quit))
  | save {name : Text} : name.toAsciiLower = "save".toList →
      Reads [name] (.ok (some (.save none)))
  | saveAs {name path : Text} (more : List Text) : name.toAsciiLower = "save".toList →
      Reads (name :: path :: more) (.ok (some (.save (some path))))
  | goto {name : Text} {arguments : List Text} {line : Nat} {column : Option Nat} :
      name.toAsciiLower = "goto".toList → Targets arguments line column →
      Reads (name :: arguments) (.ok (some (.goto line column)))
  | gotoNowhere {name : Text} {arguments : List Text} : name.toAsciiLower = "goto".toList →
      (¬ ∃ line column, Targets arguments line column) → Reads (name :: arguments) (.ok none)
  | setEncoding {name encoding : Text} (more : List Text) :
      name.toAsciiLower = "setenc".toList ∨ name.toAsciiLower = "encode".toList →
      Reads (name :: encoding :: more) (.ok (some (.setEncoding (.ofName encoding))))
  | setNoEncoding {name : Text} :
      name.toAsciiLower = "setenc".toList ∨ name.toAsciiLower = "encode".toList →
      Reads [name] (.ok none)
  | format {name : Text} (arguments : List Text) : name.toAsciiLower = "format".toList →
      Reads (name :: arguments) (.ok (some .format))
  | test {name : Text} (arguments : List Text) : name.toAsciiLower = "test".toList →
      Reads (name :: arguments) (.ok (some .test))

/-! ## The arguments of a goto command -/

/-- A word is read as an offset just if it writes that offset. -/
theorem offset?_eq_some_iff_writesOffset {word : Text} {n : Nat} :
    offset? word = some n ↔ WritesOffset word n := by
  rw [offset?_eq_some_iff]
  refine and_congr_right fun _ => ?_
  unfold maxOffset
  omega

/-- A goto command comes of arguments that tell where to go, and of no others. -/
theorem goto?_eq_some_iff {arguments : List Text} {command : Command} :
    goto? arguments = some command ↔
      ∃ line column, Targets arguments line column ∧ command = .goto line column := by
  constructor
  · intro h
    match arguments with
    | [] => cases h
    | [first] =>
        obtain ⟨line, hline, rfl⟩ := Option.map_eq_some_iff.1 h
        exact ⟨line, none, .line (offset?_eq_some_iff_writesOffset.1 hline), rfl⟩
    | first :: second :: more =>
        simp only [goto?] at h
        split at h
        · next line column hline hcolumn =>
            obtain rfl := Option.some.inj h
            exact ⟨line, some column, .column more (offset?_eq_some_iff_writesOffset.1 hline)
              (offset?_eq_some_iff_writesOffset.1 hcolumn), rfl⟩
        · cases h
  · rintro ⟨line, column, htargets, rfl⟩
    cases htargets with
    | line hline => rw [goto?, offset?_eq_some_iff_writesOffset.2 hline, Option.map_some]
    | column more hline hcolumn =>
        simp only [goto?, offset?_eq_some_iff_writesOffset.2 hline,
          offset?_eq_some_iff_writesOffset.2 hcolumn]

/-- Arguments give no position just if they name none. -/
theorem goto?_eq_none_iff {arguments : List Text} :
    goto? arguments = none ↔ ¬ ∃ line column, Targets arguments line column := by
  rw [Option.eq_none_iff_forall_ne_some]
  constructor
  · rintro h ⟨line, column, htargets⟩
    exact h _ (goto?_eq_some_iff.2 ⟨line, column, htargets, rfl⟩)
  · intro h command hcommand
    obtain ⟨line, column, htargets, -⟩ := goto?_eq_some_iff.1 hcommand
    exact h ⟨line, column, htargets⟩

/-! ## Lines -/

variable {line : Text} {result : Except EditorError (Option Command)}

/-- What becomes of a line is by the rules for its words. -/
theorem reads_parse (line : Text) : Reads line.splitWords (parse line) := by
  unfold parse
  split
  · next hwords =>
      rw [hwords]
      exact .nothing
  · next name arguments hwords =>
      rw [hwords]
      split
      · next hname => exact .quit arguments (.inl (String.ofList_eq.1 hname))
      · next hname => exact .quit arguments (.inr (String.ofList_eq.1 hname))
      · next hname =>
          cases arguments with
          | nil => exact .save (String.ofList_eq.1 hname)
          | cons path more => exact .saveAs more (String.ofList_eq.1 hname)
      · next hname =>
          have hname := String.ofList_eq.1 hname
          cases hcommand : goto? arguments with
          | none => exact .gotoNowhere hname (goto?_eq_none_iff.1 hcommand)
          | some command =>
              obtain ⟨line, column, htargets, rfl⟩ := goto?_eq_some_iff.1 hcommand
              exact .goto hname htargets
      · next hname =>
          cases arguments with
          | nil => exact .setNoEncoding (.inl (String.ofList_eq.1 hname))
          | cons encoding more => exact .setEncoding more (.inl (String.ofList_eq.1 hname))
      · next hname =>
          cases arguments with
          | nil => exact .setNoEncoding (.inr (String.ofList_eq.1 hname))
          | cons encoding more => exact .setEncoding more (.inr (String.ofList_eq.1 hname))
      · next hname => exact .format arguments (String.ofList_eq.1 hname)
      · next hname => exact .test arguments (String.ofList_eq.1 hname)
      · next hquit hexit hsave hgoto hsetenc hencode hformat htest =>
          refine .unknown arguments fun hmem => ?_
          simp only [names, List.mem_cons, List.not_mem_nil, or_false] at hmem
          rcases hmem with h | h | h | h | h | h | h | h
          · exact hquit (String.ofList_eq.2 h)
          · exact hexit (String.ofList_eq.2 h)
          · exact hsave (String.ofList_eq.2 h)
          · exact hgoto (String.ofList_eq.2 h)
          · exact hsetenc (String.ofList_eq.2 h)
          · exact hencode (String.ofList_eq.2 h)
          · exact hformat (String.ofList_eq.2 h)
          · exact htest (String.ofList_eq.2 h)

/-- The rules leave a line no other result. -/
theorem parse_eq_of_reads (h : Reads line.splitWords result) : parse line = result := by
  generalize hwords : line.splitWords = words at h
  cases h with
  | nothing => simp only [parse, hwords]
  | unknown arguments hname =>
      have hreads := reads_parse line
      rw [hwords] at hreads
      generalize parse line = outcome at hreads ⊢
      cases hreads with
      | unknown => rfl
      -- every other rule is for a name of a command
      | _ => simp_all [names]
  | quit arguments hname =>
      rcases hname with hname | hname <;>
        simp only [parse, hwords, String.ofList_eq.2 hname]
  | save hname => simp only [parse, hwords, String.ofList_eq.2 hname, List.head?_nil]
  | saveAs more hname => simp only [parse, hwords, String.ofList_eq.2 hname, List.head?_cons]
  | goto hname htargets =>
      simp only [parse, hwords, String.ofList_eq.2 hname,
        goto?_eq_some_iff.2 ⟨_, _, htargets, rfl⟩]
  | gotoNowhere hname hnowhere =>
      simp only [parse, hwords, String.ofList_eq.2 hname, goto?_eq_none_iff.2 hnowhere]
  | setEncoding more hname =>
      rcases hname with hname | hname <;>
        simp only [parse, hwords, String.ofList_eq.2 hname, List.head?_cons, Option.map_some]
  | setNoEncoding hname =>
      rcases hname with hname | hname <;>
        simp only [parse, hwords, String.ofList_eq.2 hname, List.head?_nil, Option.map_none]
  | format arguments hname => simp only [parse, hwords, String.ofList_eq.2 hname]
  | test arguments hname => simp only [parse, hwords, String.ofList_eq.2 hname]

/-- A line has the result that its words have by the rules. -/
theorem parse_eq_iff : parse line = result ↔ Reads line.splitWords result := by
  constructor
  · rintro rfl
    exact reads_parse line
  · exact parse_eq_of_reads

/-- Words that have every result that other words have make the same of their lines. -/
theorem parse_eq_parse {other : Text}
    (h : ∀ result, Reads line.splitWords result → Reads other.splitWords result) :
    parse other = parse line := parse_eq_of_reads (h _ (reads_parse line))

/-! ## Words that do not count -/

/-- How many arguments a command with this name looks at. -/
def argumentCount (name : Text) : Nat :=
  if name.toAsciiLower = "goto".toList then 2
  else if name.toAsciiLower ∈ ["save".toList, "setenc".toList, "encode".toList] then 1
  else 0

variable {name other : Text} {arguments others : List Text} {target : Nat} {column : Option Nat}

/-- The command to go to a line takes two arguments at most. -/
theorem argumentCount_goto (hname : name.toAsciiLower = "goto".toList) :
    argumentCount name = 2 := if_pos hname

/-- The commands that take a name take one. -/
theorem argumentCount_of_mem
    (hname : name.toAsciiLower ∈ ["save".toList, "setenc".toList, "encode".toList]) :
    argumentCount name = 1 := by
  refine (if_neg fun hgoto => ?_).trans (if_pos hname)
  rw [hgoto] at hname
  revert hname
  decide

/-- Which position arguments name is seen from the first two. -/
theorem Targets.of_take (htake : others.take 2 = arguments.take 2)
    (h : Targets arguments target column) : Targets others target column := by
  cases h with
  | line hline =>
      match others, htake with
      | [_], rfl => exact .line hline
  | column more hline hcolumn =>
      match others, htake with
      | _ :: _ :: rest, htake =>
          obtain ⟨rfl, hrest⟩ := List.cons.inj htake
          obtain ⟨rfl, -⟩ := List.cons.inj hrest
          exact .column rest hline hcolumn

/-- Words beyond the arguments that a command looks at may be others. -/
theorem Reads.of_take
    (htake : others.take (argumentCount name) = arguments.take (argumentCount name))
    (h : Reads (name :: arguments) result) : Reads (name :: others) result := by
  cases h with
  | unknown _ hname => exact .unknown others hname
  | quit _ hname => exact .quit others hname
  | save hname =>
      rw [argumentCount_of_mem (hname ▸ List.mem_cons_self)] at htake
      match others, htake with
      | [], _ => exact .save hname
  | saveAs more hname =>
      rw [argumentCount_of_mem (hname ▸ List.mem_cons_self)] at htake
      match others, htake with
      | _ :: rest, rfl => exact .saveAs rest hname
  | goto hname htargets =>
      rw [argumentCount_goto hname] at htake
      exact .goto hname (htargets.of_take htake)
  | gotoNowhere hname hnowhere =>
      rw [argumentCount_goto hname] at htake
      refine .gotoNowhere hname ?_
      rintro ⟨target, column, htargets⟩
      exact hnowhere ⟨target, column, htargets.of_take htake.symm⟩
  | setEncoding more hname =>
      rw [argumentCount_of_mem (List.mem_cons_of_mem _ (by simpa using hname))] at htake
      match others, htake with
      | _ :: rest, rfl => exact .setEncoding rest hname
  | setNoEncoding hname =>
      rw [argumentCount_of_mem (List.mem_cons_of_mem _ (by simpa using hname))] at htake
      match others, htake with
      | [], _ => exact .setNoEncoding hname
  | format _ hname => exact .format others hname
  | test _ hname => exact .test others hname

/-- The name of a command may be in any case. -/
theorem Reads.of_toAsciiLower_eq (hname : name.toAsciiLower ∈ names)
    (hcase : other.toAsciiLower = name.toAsciiLower)
    (h : Reads (name :: arguments) result) : Reads (other :: arguments) result := by
  cases h with
  | unknown _ hunknown => exact absurd hname hunknown
  | quit _ h => exact .quit arguments (hcase ▸ h)
  | save h => exact .save (hcase.trans h)
  | saveAs more h => exact .saveAs more (hcase.trans h)
  | goto h htargets => exact .goto (hcase.trans h) htargets
  | gotoNowhere h hnowhere => exact .gotoNowhere (hcase.trans h) hnowhere
  | setEncoding more h => exact .setEncoding more (hcase ▸ h)
  | setNoEncoding h => exact .setNoEncoding (hcase ▸ h)
  | format _ h => exact .format arguments (hcase.trans h)
  | test _ h => exact .test arguments (hcase.trans h)

/-- A line is read by its words, and what becomes of it is what the rules have for them. Words
beyond the arguments that a command looks at do not count, and neither does the case of its name. -/
theorem parse_reads (line : Text) :
    (∀ words, line.splitWords = words ↔ Text.Spaced words line) ∧
      (∀ result, parse line = result ↔ Reads line.splitWords result) ∧
      (∀ other : Text, other.splitWords = line.splitWords → parse other = parse line) ∧
      (∀ (other name : Text) (arguments others : List Text),
        line.splitWords = name :: arguments → other.splitWords = name :: others →
        others.take (argumentCount name) = arguments.take (argumentCount name) →
        parse other = parse line) ∧
      ∀ (other name otherName : Text) (arguments : List Text),
        line.splitWords = name :: arguments → other.splitWords = otherName :: arguments →
        name.toAsciiLower ∈ names → otherName.toAsciiLower = name.toAsciiLower →
        parse other = parse line := by
  refine ⟨fun words => Text.splitWords_eq_iff, fun result => parse_eq_iff, ?_, ?_, ?_⟩
  · intro other hwords
    refine parse_eq_parse fun result hreads => ?_
    rwa [hwords]
  · intro other name arguments others hline hother htake
    refine parse_eq_parse fun result hreads => ?_
    rw [hline] at hreads
    rw [hother]
    exact hreads.of_take htake
  · intro other name otherName arguments hline hother hname hcase
    refine parse_eq_parse fun result hreads => ?_
    rw [hline] at hreads
    rw [hother]
    exact hreads.of_toAsciiLower_eq hname hcase

end Command

end TextEditor
