import InteractiveBook.Text.Decimal
import InteractiveBook.Text.Trim

/-!
# Arguments of a command

A command takes values by position and options by name. An option is written with its long name
behind two hyphens or its short one behind a single hyphen; its value follows in the next argument or
in the same. Two hyphens alone end the options. A value that stands in an argument of its own is
checked when the next known option, or the end, is reached.
-/

namespace InteractiveBook.CommandLine

/-- What is wrong with the arguments. -/
inductive UsageFault where
  /-- Required options and values are missing. -/
  | missingArguments (labels : List String)
  /-- An argument means nothing. -/
  | unexpected (argument : String)
  /-- An option without a value is given one. -/
  | unexpectedValue (value label : String)
  /-- A value is not acceptable. -/
  | invalidValue (value label reason : String)
  /-- An option lacks its value. -/
  | missingValue (label : String)
  /-- An option is given twice. -/
  | repeated (label : String)
  /-- There is no such command. -/
  | unknownCommand (name : String)
  /-- No command is given. -/
  | noCommand
  /-- A command stands behind two hyphens. -/
  | hyphensBeforeCommand (name : String)
  deriving DecidableEq, Repr

/-- The name of the program. -/
def programName : String := "h5pbook"

/-- The name by which the program is called. -/
def calledName : String := "h5pbook-cli"

/-- The wording of a fault. -/
def UsageFault.message : UsageFault → String
  | missingArguments labels =>
    "the following required arguments were not provided:" ++ String.join (labels.map ("\n  " ++ ·))
  | unexpected argument => "unexpected argument '" ++ argument ++ "' found"
  | unexpectedValue value label =>
    "unexpected value '" ++ value ++ "' for '" ++ label ++ "' found; no more were expected"
  | invalidValue value label reason =>
    "invalid value '" ++ value ++ "' for '" ++ label ++ "': " ++ reason
  | missingValue label => "a value is required for '" ++ label ++ "' but none was supplied"
  | repeated label => "the argument '" ++ label ++ "' cannot be used multiple times"
  | unknownCommand name => "unrecognized subcommand '" ++ name ++ "'"
  | noCommand => "'" ++ calledName ++ "' requires a subcommand but one was not provided"
  | hyphensBeforeCommand name =>
    "subcommand '" ++ name ++ "' exists; to use it, remove the '--' before it"

/-- Why reading the arguments ends before their end. -/
inductive Stop where
  /-- They are faulty. -/
  | fault (fault : UsageFault)
  /-- They ask for help. -/
  | help
  /-- They ask for the version. -/
  | version
  /-- There are none. -/
  | nothing
  deriving DecidableEq, Repr

/-- An option. -/
structure OptionSpec where
  /-- The long name. -/
  name : String
  /-- The short name. -/
  short : Option Char := none
  /-- What the value is called, if the option has one. -/
  value : Option String := none
  /-- The option has to be given. -/
  required : Bool := false
  /-- What is wrong with a value, if anything. -/
  complaint : String → Option String := fun _ => none
  /-- What reading ends with when the option is given, if it ends there. -/
  stop : Option Stop := none

/-- The option as messages show it. -/
def OptionSpec.label (o : OptionSpec) : String :=
  "--" ++ o.name ++ match o.value with
    | some v => " <" ++ v ++ ">"
    | none => ""

/-- The arguments that were read, the latest first. -/
structure Arguments where
  /-- The values by position. -/
  positional : List String := []
  /-- The options with their values; an option without a value has the empty one. -/
  options : List (String × String) := []
  /-- The last option, while its value is missing or not yet checked. -/
  pending : Option (OptionSpec × Option String) := none
  /-- Only values by position follow. -/
  trailing : Bool := false

namespace Arguments

/-- The value of an option. -/
def value? (a : Arguments) (name : String) : Option String :=
  (a.options.find? fun o => o.1 = name).map (·.2)

/-- An option was given. -/
def has (a : Arguments) (name : String) : Bool := (a.value? name).isSome

/-- An option is given, with its value. -/
def record (a : Arguments) (o : OptionSpec) (value : String) : Except Stop Arguments :=
  if a.has o.name then .error (.fault (.repeated o.label))
  else match o.complaint value with
    | some reason => .error (.fault (.invalidValue value o.label reason))
    | none => .ok { a with options := (o.name, value) :: a.options }

/-- The last option is complete. -/
def settle (a : Arguments) : Except Stop Arguments :=
  match a.pending with
  | none => .ok a
  | some (o, none) => .error (.fault (.missingValue o.label))
  | some (o, some value) => { a with pending := none }.record o value

/-- An option is given, perhaps with a value in the same argument. -/
def giveOption (a : Arguments) (o : OptionSpec) (value : Option String) :
    Except Stop Arguments :=
  match o.value, value with
  | none, some v => .error (.fault (.unexpectedValue v o.label))
  | none, none => do
    let a ← a.settle
    match o.stop with
    | some stop => throw stop
    | none => a.record o ""
  | some _, some v => do (← a.settle).record o v
  | some _, none => do return { (← a.settle) with pending := some (o, none) }

/-- A group of short names behind one hyphen; the last may have a value. -/
def giveShort (specs : List OptionSpec) (a : Arguments) :
    List Char → Except Stop Arguments
  | [] => .ok a
  | c :: cs =>
    match specs.find? fun o => o.short = some c with
    | none => .error (.fault (.unexpected (String.ofList ['-', c])))
    | some o =>
      if o.value.isNone then do (← a.giveOption o none).giveShort specs cs
      else match cs with
        | [] => a.giveOption o none
        | '=' :: v => a.giveOption o (some (String.ofList v))
        | v => a.giveOption o (some (String.ofList v))

/-- A value by position, of which there are at most so many. -/
def givePositional (most : Nat) (a : Arguments) (value : String) : Except Stop Arguments :=
  if a.positional.length < most then do
    let a ← a.settle
    return { a with positional := value :: a.positional }
  else .error (.fault (.unexpected value))

/-- One more argument. -/
def next (specs : List OptionSpec) (most : Nat) (a : Arguments) (argument : String) :
    Except Stop Arguments :=
  if a.trailing then a.givePositional most argument
  else match argument.toList with
    | ['-', '-'] => .ok { a with trailing := true }
    | '-' :: '-' :: long =>
      let name := String.ofList (long.takeWhile (· ≠ '='))
      let value := match long.dropWhile (· ≠ '=') with
        | [] => none
        | _ :: v => some (String.ofList v)
      match specs.find? fun o => o.name = name with
      | none => .error (.fault (.unexpected ("--" ++ name)))
      | some o => a.giveOption o value
    | '-' :: c :: cs => a.giveShort specs (c :: cs)
    | _ => match a.pending with
      | some (o, none) => .ok { a with pending := some (o, some argument) }
      | _ => a.givePositional most argument

/-- The required options and values that are not given. -/
def missing (specs : List OptionSpec) (names : List String) (a : Arguments) : List String :=
  (specs.filter fun o => o.required && !a.has o.name).map OptionSpec.label
    ++ (names.drop a.positional.length).map fun name => "<" ++ name ++ ">"

/-- The arguments of a command that takes values by position, all of them required. -/
def read (specs : List OptionSpec) (names arguments : List String) : Except Stop Arguments := do
  let a ← arguments.foldlM (next specs names.length) {}
  let a ← a.settle
  match a.missing specs names with
  | [] => return { a with positional := a.positional.reverse }
  | labels => throw (.fault (.missingArguments labels))

end Arguments

/-- The number that a text denotes: decimal digits, perhaps with a sign. -/
def signedNumber? (s : String) : Option Int :=
  let digits := fun cs : List Char =>
    if cs ≠ [] ∧ cs.all Char.isDigit = true then some (Text.decimalValue cs : Int) else none
  match s.toList with
  | '-' :: cs => (digits cs).map fun n => -n
  | '+' :: cs => digits cs
  | cs => digits cs

/-- The complaint about a text that is no number. -/
def notNumber (s : String) : String := "'" ++ s ++ "' is not a valid number"

end InteractiveBook.CommandLine
