import InteractiveBook.CommandLine.Arguments
import InteractiveBook.Compiler

/-!
# Commands

The command line names one of four commands: to build a book, to compile a folder of sources, to
inspect a template, and to check a source. This module reads the arguments as a command; nothing is
run here.
-/

namespace InteractiveBook.CommandLine

/-- What the command line asks for. -/
inductive Command where
  /-- Compile a source into a package. -/
  | build (input template : String) (output : Option String) (options : CompileOptions)
  /-- Show which libraries a template provides. -/
  | inspect (template : String) (json : Bool)
  /-- Show the chapters and blocks of a source, and what a template cannot build. -/
  | check (input : String) (template : Option String) (json : Bool)
  /-- Compile every source in a folder. -/
  | batch (inputFolder template outputFolder : String) (jobs : Nat) (options : CompileOptions)
  deriving DecidableEq, Repr

/-- What the program is called with: a command, and whether it is to report in detail. -/
structure Call where
  /-- Whether a detailed log is asked for. -/
  verbose : Bool
  /-- The command. -/
  command : Command
  deriving DecidableEq, Repr

/-- The version of the program. -/
def programVersion : String := "0.1.0"

/-- How many sources of a folder are compiled at the same time unless asked otherwise. -/
def defaultJobs : Nat := 4

/-- The compression level that a text denotes: a number of 64 bits, from zero to nine. -/
def levelComplaint (s : String) : Option String :=
  match signedNumber? s with
  | none => some (notNumber s)
  | some n =>
    if 0 ≤ n ∧ n ≤ 9 then none
    else if Text.minSigned64 ≤ n ∧ n ≤ Text.maxSigned64 then
      some "compression level must be between 0 and 9"
    else some (notNumber s)

/-- What is wrong with a number of jobs: it is written without a minus, and not zero. -/
def jobsComplaint (s : String) : Option String :=
  match signedNumber? s with
  | none => some (notNumber s)
  | some n =>
    if s.toList.head? = some '-' ∨ n > Text.maxWord64 then some (notNumber s)
    else if n < 1 then some "jobs must be at least 1"
    else none

namespace Command

/-- Asks for a detailed log. -/
def verboseOption : OptionSpec := { name := "verbose", short := some 'v' }

/-- Asks for help. -/
def helpOption : OptionSpec := { name := "help", short := some 'h', stop := some .help }

/-- Asks for the version. -/
def versionOption : OptionSpec := { name := "version", short := some 'V', stop := some .version }

/-- The template. -/
def templateOption (required : Bool) : OptionSpec :=
  { name := "template", short := some 't', value := some "TEMPLATE", required }

/-- Asks for JSON. -/
def jsonOption : OptionSpec := { name := "json" }

/-- The options of every command. -/
def generalOptions : List OptionSpec := [verboseOption, helpOption]

/-- The options of commands that compile. -/
def compileOptions : List OptionSpec :=
  [{ name := "no-tables" }, { name := "sequential" },
    { name := "compression-level", value := some "COMPRESSION_LEVEL", complaint := levelComplaint }]
    ++ generalOptions

/-- The options for building a book. -/
def buildOptions : List OptionSpec :=
  [templateOption true, { name := "output", short := some 'o', value := some "OUTPUT" }]
    ++ compileOptions

/-- The options for inspecting a template. -/
def inspectOptions : List OptionSpec := jsonOption :: generalOptions

/-- The options for checking a source. -/
def checkOptions : List OptionSpec := templateOption false :: jsonOption :: generalOptions

/-- The options for compiling a folder. -/
def batchOptions : List OptionSpec :=
  [templateOption true,
    { name := "output-dir", short := some 'o', value := some "OUTPUT_DIR", required := true },
    { name := "jobs", short := some 'j', value := some "JOBS", complaint := jobsComplaint }]
    ++ compileOptions

/-- How to compile, as the options say. -/
def compiling (a : Arguments) : CompileOptions :=
  let o : CompileOptions :=
    { extensions := { tables := !a.has "no-tables" }, parallel := !a.has "sequential" }
  o.withLevel (((a.value? "compression-level").bind signedNumber?).getD defaultLevel)

/-- The value at a place, which reading has made sure of. -/
def valueAt (a : Arguments) (place : Nat) : String := a.positional.getD place ""

/-- The value of a required option, which reading has made sure of. -/
def valueOf (a : Arguments) (name : String) : String := (a.value? name).getD ""

/-- The names of the commands. -/
def names : List String := ["build", "inspect", "check", "batch", "help"]

/-- Help on a command is asked for by name. -/
def helpOn : List String → Stop
  | [] => .help
  | [name] => if names.contains name then .help else .fault (.unknownCommand name)
  | name :: next :: _ => .fault (.unknownCommand (if names.contains name then next else name))

/-- The call of the command of a name with its arguments, where a detailed log may have been asked for
before. -/
def ofNamed (verbose : Bool) (name : String) (arguments : List String) : Except Stop Call :=
  match name with
  | "build" => do
    let a ← Arguments.read buildOptions ["INPUT"] arguments
    return ⟨verbose || a.has "verbose",
      build (valueAt a 0) (valueOf a "template") (a.value? "output") (compiling a)⟩
  | "inspect" => do
    let a ← Arguments.read inspectOptions ["TEMPLATE"] arguments
    return ⟨verbose || a.has "verbose", inspect (valueAt a 0) (a.has "json")⟩
  | "check" => do
    let a ← Arguments.read checkOptions ["INPUT"] arguments
    return ⟨verbose || a.has "verbose",
      check (valueAt a 0) (a.value? "template") (a.has "json")⟩
  | "batch" => do
    let a ← Arguments.read batchOptions ["INPUT_DIR"] arguments
    return ⟨verbose || a.has "verbose",
      batch (valueAt a 0) (valueOf a "template") (valueOf a "output-dir")
        (((a.value? "jobs").bind signedNumber?).elim defaultJobs Int.toNat) (compiling a)⟩
  | "help" => .error (helpOn arguments)
  | _ => .error (.fault (.unknownCommand name))

/-- The call that follows the options in front. -/
def afterOptions (a : Arguments) : List String → Except Stop Call
  | [] => .error (if a.options = [] then .nothing else .fault .noCommand)
  | argument :: rest =>
    if a.trailing then
      .error (.fault (if names.contains argument then .hyphensBeforeCommand argument
        else .unknownCommand argument))
    else match argument.toList with
      | '-' :: _ :: _ => do
        let a ← a.next (versionOption :: generalOptions) 0 argument
        afterOptions a rest
      | _ => ofNamed (a.has "verbose") argument rest

end Command

/-- The call that arguments stand for. -/
def Call.ofArguments (arguments : List String) : Except Stop Call :=
  Command.afterOptions {} arguments

/-- The command that arguments ask for. -/
def Command.ofArguments (arguments : List String) : Except Stop Command :=
  (Call.ofArguments arguments).map (·.command)

end InteractiveBook.CommandLine
