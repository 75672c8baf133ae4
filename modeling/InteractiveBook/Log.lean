/-!
# Log lines

What a run reports besides its result. The lines of each step are computed from what the step
consumed and produced, so a step and its report can be read apart.
-/

namespace InteractiveBook

/-- How urgent a log line is. -/
inductive LogLevel where
  /-- Detail for whoever looks into a run. -/
  | debug
  /-- A milestone. -/
  | info
  /-- Something that the author may want to mend. -/
  | warn
  /-- Something that was not done. -/
  | error
  deriving DecidableEq, Repr

/-- The name of a level. -/
def LogLevel.name : LogLevel → String
  | debug => "DEBUG"
  | info => "INFO"
  | warn => "WARN"
  | error => "ERROR"

/-- How urgent a level is, in numbers. -/
def LogLevel.rank : LogLevel → Nat
  | debug => 0
  | info => 1
  | warn => 2
  | error => 3

/-- A line of the log. -/
structure LogLine where
  /-- How urgent the line is. -/
  level : LogLevel
  /-- What it says. -/
  message : String
  deriving DecidableEq, Repr

/-- The written form of a line. -/
def LogLine.text (l : LogLine) : String := l.level.name ++ " " ++ l.message

/-- What a log line is reported by. -/
inductive LogOrigin where
  /-- The compiler of books. -/
  | library
  /-- The program around it. -/
  | program
  deriving DecidableEq, Repr

/-- The name of an origin. -/
def LogOrigin.name : LogOrigin → String
  | library => "h5pbook_core"
  | program => "h5pbook_cli"

/-- The least urgent level that is shown of an origin. -/
def LogOrigin.threshold (verbose : Bool) : LogOrigin → LogLevel
  | library => if verbose then .debug else .warn
  | program => if verbose then .debug else .info

/-- A line of an origin is shown. -/
def LogOrigin.shows (o : LogOrigin) (verbose : Bool) (l : LogLine) : Bool :=
  (o.threshold verbose).rank ≤ l.level.rank

end InteractiveBook
