import TextEditor.Buffer.Edit
import TextEditor.Error
import TextEditor.Stream.Source

/-!
# Loading a buffer from a source

A loader brings the lines of a source into a buffer, the first in place of what the buffer holds and
the others at its end, and keeps what the source has answered. It lets go of its source when that is
at its end or fails, and is finished from then on.
-/

namespace TextEditor

/-- A source that is being read, and its answers so far, the latest last. -/
structure Loader where
  source : Option LineSource
  answers : List (Except String Batch)

/-- What loading comes to: the number of lines that the buffer gained, or why reading failed; the
loader and the buffer afterwards; and the records of what has been done. -/
structure Loading where
  result : Except EditorError Nat
  loader : Loader
  buffer : LineBuffer
  records : List LogRecord

namespace Loader

/-- A loader that has read nothing. -/
def new (source : LineSource) : Loader := ⟨some source, []⟩

/-- The number of lines read. -/
def linesLoaded (loader : Loader) : Nat :=
  (loader.answers.map fun
    | .ok batch => batch.lines.length
    | .error _ => 0).foldl (· + ·) 0

/-- Whether the source was at its end or failed. -/
def isFinished (loader : Loader) : Bool := loader.source.isNone

/-- The loader that lets go of its source. -/
def close (loader : Loader) : Loader := { loader with source := none }

/-- More than the number of times that lines can still come. -/
def pending (loader : Loader) : Nat := (loader.source.map LineSource.pending).getD 0

/-- The record of a source that is at its end. -/
def endRecord (loader : Loader) : LogRecord :=
  ⟨.debug, "loader", "end of source after " ++ toString loader.linesLoaded ++ " lines"⟩

/-- The record of a source that failed. -/
def failureRecord (error : EditorError) : LogRecord :=
  ⟨.warn, "loader", "read failed: " ++ error.message⟩

/-- The record of lines added to a buffer. -/
def appendRecord (added total : Nat) : LogRecord :=
  ⟨.trace, "loader",
    "appended " ++ toString added ++ " lines, " ++ toString total ++ " total"⟩

/-- The answer of the source that is asked for at most `n` lines, `none` if the loader is finished;
the loader afterwards; and the records of what has been done. -/
def read (loader : Loader) (n : Nat) :
    Except EditorError (Option Batch) × Loader × List LogRecord :=
  match loader.source with
  | none => (.ok none, loader, [])
  | some source =>
      match source.read n with
      | (.ok batch, source) =>
          let loader : Loader :=
            ⟨if batch.atEnd then none else some source, loader.answers ++ [.ok batch]⟩
          (.ok (some batch), loader, if batch.atEnd then [loader.endRecord] else [])
      | (.error reason, _) =>
          (.error (.io reason), ⟨none, loader.answers ++ [.error reason]⟩,
            [failureRecord (.io reason)])

/-- Puts at most `n` lines of the source in place of what a buffer holds. -/
def loadInitial (loader : Loader) (buffer : LineBuffer) (n : Nat) : Loading :=
  match loader.read n with
  | (.ok none, loader, records) => ⟨.ok 0, loader, buffer, records⟩
  | (.ok (some batch), loader, records) =>
      let buffer := buffer.replaceLines batch.lines
      ⟨.ok batch.lines.length, loader, buffer, records ++ [buffer.retokenized]⟩
  | (.error error, loader, records) => ⟨.error error, loader, buffer, records⟩

/-- Adds at most `n` lines of the source at the end of a buffer. -/
def appendMore (loader : Loader) (buffer : LineBuffer) (n : Nat) : Loading :=
  match loader.read n with
  | (.ok none, loader, records) => ⟨.ok 0, loader, buffer, records⟩
  | (.ok (some batch), loader, records) =>
      let (added, buffer) := buffer.appendLines batch.lines
      ⟨.ok added, loader, buffer, records ++ [appendRecord added buffer.length]⟩
  | (.error error, loader, records) => ⟨.error error, loader, buffer, records⟩

/-- A one-line account of a loader. -/
def summary (loader : Loader) : String :=
  "StreamingLoader \x7b finished: " ++ toString loader.isFinished ++ ", lines_loaded: " ++
    toString loader.linesLoaded ++ " \x7d"

end Loader

end TextEditor
