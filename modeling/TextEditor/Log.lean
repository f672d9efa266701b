/-!
# Log

The editor reports what it does in records of rising importance. A listener hears the records of at
least the level that is set; while it is not listening it hears none.
-/

namespace TextEditor

/-- Importance of a record. -/
inductive LogLevel where
  | trace
  | debug
  | info
  | warn
  | error
  deriving DecidableEq, Repr

namespace LogLevel

/-- All levels, from the least important. -/
def all : List LogLevel := [.trace, .debug, .info, .warn, .error]

/-- Place of a level among all. -/
def rank : LogLevel → Nat
  | .trace => 0
  | .debug => 1
  | .info => 2
  | .warn => 3
  | .error => 4

/-- The word for a level. -/
def name : LogLevel → String
  | .trace => "trace"
  | .debug => "debug"
  | .info => "info"
  | .warn => "warn"
  | .error => "error"

end LogLevel

/-- A record: its importance, the part of the editor that reports, and the report. -/
structure LogRecord where
  level : LogLevel
  target : String
  message : String
  deriving DecidableEq, Repr

/-- Which records are heard. -/
structure Listener where
  least : LogLevel
  listening : Bool
  deriving DecidableEq, Repr

namespace Listener

/-- Listens to all but the least important records. -/
def usual : Listener := ⟨.debug, true⟩

/-- Whether a level is high enough to be heard. -/
def admits (listener : Listener) (level : LogLevel) : Bool :=
  listener.least.rank ≤ level.rank

/-- Whether records of a level are heard: the level is high enough and the listener listens. -/
def hears (listener : Listener) (level : LogLevel) : Bool :=
  listener.listening && listener.admits level

/-- The records that are heard, in order. -/
def heard (listener : Listener) (records : List LogRecord) : List LogRecord :=
  records.filter fun record => listener.hears record.level

end Listener

end TextEditor
