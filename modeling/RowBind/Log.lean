/-!
# Log entries

What the library reports besides its results: progress for debugging, columns whose
values are dropped, and failures that nobody else will hear of.  A reader of the log may
leave out what is not urgent enough, or all of it.
-/

namespace RowBind

/-- How urgent a log entry is. -/
inductive LogLevel where
  | debug | warning | error
deriving DecidableEq, Repr

/-- One entry of the log. -/
structure LogEntry where
  level : LogLevel
  text : String
deriving DecidableEq, Repr

/-- Log entries in the order in which they were made. -/
abbrev Log := List LogEntry

/-- Debugging, warnings and errors, from the least to the most urgent. -/
def LogLevel.urgency : LogLevel → Nat
  | debug => 0
  | warning => 1
  | error => 2

/-- The entries of a level that is as urgent as the given one, or more. -/
def Log.atLeast (log : Log) (least : LogLevel) : Log :=
  log.filter fun entry => decide (least.urgency ≤ entry.level.urgency)

end RowBind
