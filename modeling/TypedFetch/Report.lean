/-!
# Reports

What a run tells its user: log records, and lines that are printed to the console directly.
-/

namespace TypedFetch

/-- The severity of a log record. -/
inductive LogLevel where
  | debug
  | info
  | warning
  | error
  | critical
deriving Repr, BEq, DecidableEq

namespace LogLevel

/-- The name of a level. -/
def name : LogLevel → String
  | debug => "DEBUG"
  | info => "INFO"
  | warning => "WARNING"
  | error => "ERROR"
  | critical => "CRITICAL"

/-- The rank of a level. -/
def rank : LogLevel → Nat
  | debug => 0
  | info => 1
  | warning => 2
  | error => 3
  | critical => 4

/-- All levels. -/
def all : List LogLevel := [debug, info, warning, error, critical]

end LogLevel

/-- Something that a run reports. -/
inductive Event where
  /-- A log record. -/
  | log (level : LogLevel) (message : String)
  /-- A line about success. -/
  | success (message : String)
  /-- A follow-up line, such as a suggestion. -/
  | hint (message : String)
  /-- A ruled line with a title. -/
  | rule (title : String)
  /-- A table of two columns with a title. -/
  | summary (title : String) (rows : List (String × String))
deriving Repr, BEq, DecidableEq

namespace Event

/-- The level and message of a log record. -/
def record? : Event → Option (LogLevel × String)
  | log level message => some (level, message)
  | _ => none

end Event

/-- The log records among some events. -/
def logRecords (events : List Event) : List (LogLevel × String) :=
  events.filterMap Event.record?

/-! ## Loggers -/

/-- A source of log records. -/
structure Logger where
  /-- The name; there is one logger for each. -/
  name : String
  /-- The logger stands above all others. -/
  isRoot : Bool := false
  /-- The least level that it passes on. -/
  level : LogLevel := .info
  /-- The number of places to which it writes by itself. -/
  outlets : Nat := 1
deriving Repr, BEq, DecidableEq

/-- The logger above all others, which writes nowhere by itself. -/
def Logger.root : Logger where
  name := "root"
  isRoot := true
  level := .warning
  outlets := 0

/-- The logger of a name; the empty name means the root. -/
def Logger.named (name : String) : Logger :=
  if name.isEmpty || name == Logger.root.name then .root else { name }

end TypedFetch
