import InteractiveBook.CommandLine.Batch
import InteractiveBook.CommandLine.Command

/-!
# Running a command

From the arguments to what the program prints and the status with which it ends: zero when all went
well, one when a command failed, two when the arguments are faulty.
-/

namespace InteractiveBook.CommandLine

open Content

variable {m : Type → Type} [Monad m]

/-- What a run of the program shows. -/
structure Outcome where
  /-- The status with which it ends. -/
  status : Nat := 0
  /-- The lines that it prints. -/
  output : List String := []
  /-- The lines of its complaints. -/
  complaints : List String := []
  deriving DecidableEq, Repr

/-- The outcome of a command. -/
def Answer.outcome (a : Answer) : Outcome :=
  match a.failure with
  | none => { output := a.lines }
  | some f => { status := 1, output := a.lines, complaints := f.lines }

/-- The answer of a command that prints all or fails. -/
def Answer.ofResult : Except Failure (List String) → Answer
  | .ok lines => { lines }
  | .error f => { failure := some f }

/-- How the program is called. -/
def usage : String := "Usage: " ++ calledName ++ " [OPTIONS] <COMMAND>"

/-- The help of the program. -/
def helpLines : List String :=
  [usage, "", "Commands:",
    "  build    Compile a Markdown document into an .h5p package",
    "  inspect  Show which content libraries a template provides",
    "  check    Check a Markdown document's chapter and block structure",
    "  batch    Compile every Markdown document in a directory",
    "  help     Print this message or the help of the given subcommand(s)", "",
    "Options:",
    "  -v, --verbose  Verbose output",
    "  -h, --help     Print help",
    "  -V, --version  Print version"]

/-- The outcome where the arguments ask for no command. -/
def Stop.outcome : Stop → Outcome
  | fault f => { status := 2, complaints := ["error: " ++ f.message, "", usage, "",
      "For more information, try '--help'."] }
  | help => { output := helpLines }
  | version => { output := [programName ++ " " ++ programVersion] }
  | nothing => { status := 2, complaints := helpLines }

/-- Runs a command. A schedule decides in which order a batch compiles its sources. -/
def Command.run (files : FileAccess m) (schedule : List String → List String)
    (runs : Nat → IdLanes) : Command → m Answer
  | build input template output options => do
    return .ofResult (← ((fun _ => []) <$>
      CommandLine.build files input template output options (runs 0)).run)
  | inspect template json => do
    return .ofResult (← ((fun r => if json then [r.json.pretty] else templateLines r) <$>
      CommandLine.inspect files template).run)
  | check input template json => do
    return .ofResult (← ((fun r => if json then [r.json.pretty] else r.lines) <$>
      CommandLine.check files input template).run)
  | batch inputFolder template outputFolder _ options =>
    CommandLine.batch files schedule runs inputFolder template outputFolder options

/-- Runs the program with its arguments. -/
def run (files : FileAccess m) (schedule : List String → List String) (runs : Nat → IdLanes)
    (arguments : List String) : m Outcome :=
  match Call.ofArguments arguments with
  | .error stop => return stop.outcome
  | .ok call => Answer.outcome <$> call.command.run (files.showing call.verbose) schedule runs

end InteractiveBook.CommandLine
