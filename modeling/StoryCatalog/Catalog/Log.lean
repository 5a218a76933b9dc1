import StoryCatalog.Text.Basic

/-!
# The log of a run

What a run reports about its progress, in order. How much of it is shown is decided afterwards.
-/

namespace StoryCatalog

/-- How important an entry of the log is. -/
inductive LogLevel where
  | debug
  | info
  | warning
deriving DecidableEq, Repr

namespace LogLevel

/-- The name of a level. -/
def name : LogLevel → String
  | .debug => "DEBUG"
  | .info => "INFO"
  | .warning => "WARNING"

/-- The rank of a level among the others. -/
def rank : LogLevel → Nat
  | .debug => 0
  | .info => 1
  | .warning => 2

/-- The least level that is shown when more has been asked for this many times. -/
def threshold : Nat → LogLevel
  | 0 => .warning
  | 1 => .info
  | _ => .debug

end LogLevel

/-- The part of the program that reports. -/
inductive Reporter where
  | program
  | extraction
  | generation
  | writing
  | verification
deriving DecidableEq, Repr

/-- The name under which a part reports. -/
def Reporter.name : Reporter → String
  | .program => "storymap"
  | .extraction => "parse.stories"
  | .generation => "artifacts.generators.stories"
  | .writing => "artifacts.write"
  | .verification => "verify.verify"

/-- An entry of the log. -/
structure LogEntry where
  level : LogLevel
  reporter : Reporter
  message : Text
deriving DecidableEq, Repr

/-- A log: its entries in the order in which they were made. -/
abbrev Log := List LogEntry

/-- An entry on a line of its own. -/
def LogEntry.line (entry : LogEntry) : Text :=
  entry.level.name ++ " " ++ entry.reporter.name ++ ": " ++ entry.message ++ [CodePoint.newline]

/-- The entries of at least a level, line by line. -/
def Log.render (least : LogLevel) (log : Log) : Text :=
  (log.filter fun entry => least.rank ≤ entry.level.rank).flatMap LogEntry.line

end StoryCatalog
