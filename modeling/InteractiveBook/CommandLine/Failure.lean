import InteractiveBook.CommandLine.Files
import InteractiveBook.Error
import InteractiveBook.Text.Trim

/-!
# Failures of commands

A command that fails says what it could not do, and then the causes, each one the cause of the one
before it.
-/

namespace InteractiveBook.CommandLine

/-- Why a source file cannot be read. -/
inductive ReadFault where
  /-- The system refuses. -/
  | file (fault : FileFault)
  /-- The bytes are no text. -/
  | notText
  deriving DecidableEq, Repr

/-- The wording of a fault. -/
def ReadFault.message : ReadFault → String
  | file fault => fault.message
  | notText => "stream did not contain valid UTF-8"

/-- Why a command fails. -/
inductive Failure where
  /-- The template cannot be used. -/
  | template (path : String) (cause : BookError)
  /-- The source cannot be read. -/
  | source (path : String) (cause : ReadFault)
  /-- The source cannot be compiled. -/
  | compile (path : String) (cause : BookError)
  /-- The source that was to be checked has no chapters. -/
  | check (path : String) (cause : BookError)
  /-- There is no room for the package next to its path. -/
  | temporary (folder : String) (cause : FileFault)
  /-- The package cannot be written next to its path. -/
  | unwritten (path : String) (cause : FileFault)
  /-- The package cannot take its path. -/
  | output (path : String) (cause : FileFault)
  /-- The folder of the packages cannot be created. -/
  | outputFolder (path : String) (cause : FileFault)
  /-- The folder of the sources cannot be listed. -/
  | inputFolder (path : String) (cause : FileFault)
  /-- So many sources of a folder were not compiled. -/
  | batch (errors : Nat)
  deriving DecidableEq, Repr

namespace Failure

/-- What the command could not do. -/
def message : Failure → String
  | template path _ => "Failed to load template: " ++ path
  | source path _ => "Failed to read input file: " ++ path
  | compile path _ => "Failed to compile " ++ path
  | check path _ => "Check failed for " ++ path
  | temporary folder _ => "Failed to create temporary file in " ++ folder
  | unwritten path _ => "Failed to write output file: " ++ path
  | output path _ => "Failed to write output file: " ++ path
  | outputFolder path _ => "Failed to create output directory: " ++ path
  | inputFolder path _ => "Failed to read input directory: " ++ path
  | batch errors => "Batch build completed with " ++ toString errors ++ " errors"

/-- The causes, each one the cause of the one before it. -/
def causes : Failure → List String
  | template _ cause => [cause.message, cause.cause]
  | source _ cause => [cause.message]
  | compile _ cause => [cause.message, cause.cause]
  | check _ _ => []
  | temporary _ cause => [cause.message]
  | unwritten _ cause => [cause.message]
  | output _ cause => ["failed to persist temporary file: " ++ cause.message, cause.message]
  | outputFolder _ cause => [cause.message]
  | inputFolder _ cause => [cause.message]
  | batch _ => []

/-- The failure of one source of several, on one line. The source is named elsewhere. -/
def oneLine (f : Failure) : String :=
  Text.join ": " (match f with
    | source _ _ | compile _ _ => f.causes
    | _ => f.message :: f.causes)

/-- What is said before the failure itself. -/
def notes : Failure → List String
  | check _ cause => ["Invalid source: " ++ cause.cause]
  | _ => []

/-- A cause behind a mark; where it has several lines, the others are indented as far. -/
def indented (mark cause : String) : List String :=
  match Text.splitOnChar '\n' cause.toList with
  | [] => [mark]
  | first :: rest => (mark ++ String.ofList first) :: rest.map fun l =>
    String.ofList (List.replicate mark.length ' ' ++ l)

/-- The causes as lines; several of them are numbered. -/
def causeLines : List String → List String
  | [] => []
  | [cause] => "" :: "Caused by:" :: indented "    " cause
  | causes => "" :: "Caused by:" :: causes.zipIdx.flatMap fun (cause, n) =>
    indented ("    " ++ toString n ++ ": ") cause

/-- The failure as lines. -/
def lines (f : Failure) : List String :=
  f.notes ++ ("Error: " ++ f.message) :: causeLines f.causes

end Failure

end InteractiveBook.CommandLine
