import InteractiveBook.CommandLine.Build
import InteractiveBook.Text.Unicode.CaseFold

/-!
# Compiling a folder

Every source in a folder becomes a package of its own. Sources whose packages would have the same
name are reported and left alone, all of them, and count as errors. The others are compiled one by
one in an order that a schedule decides; a source that fails does not keep the others from being
compiled.
-/

namespace InteractiveBook.CommandLine

open Content Package

variable {m : Type → Type} [Monad m]

/-- The extensions of source files. -/
def sourceExtensions : List String := ["md", "markdown", "txt"]

/-- A path is that of a source: its extension is one of these, in letters of any case. -/
def isSource (path : String) : Bool :=
  match Text.extension? path with
  | some e => sourceExtensions.contains (Text.Unicode.foldCase (String.ofList e))
  | none => false

/-- The paths of the sources among the names in a folder, sorted. -/
def sourcePaths (folder : String) (names : List String) : List String :=
  ((names.map (Text.childPath folder)).filter isSource).mergeSort fun p q => p ≤ q

/-- The name of the package of a file in a folder: that of the file, as it is shown, with another
extension. -/
def Naming.packageName (n : Naming) (path : String) : String :=
  let shown := ((Text.lastName? path).map fun name => n.shown (String.ofList (Text.stem name))).getD ""
  (if shown = "" then "book" else shown) ++ "." ++ packageExtension

/-- Groups of sources, each with the name of their packages, and one more source: it joins the group
of its name, or makes up one. The names are in ascending order. -/
def joinGroup (name path : String) : List (String × List String) → List (String × List String)
  | [] => [(name, [path])]
  | (other, group) :: rest =>
    if name = other then (other, group ++ [path]) :: rest
    else if name < other then (name, [path]) :: (other, group) :: rest
    else (other, group) :: joinGroup name path rest

/-- Sources in groups, one for each name that a package of theirs has. -/
def groupByOutput (n : Naming) (sources : List String) : List (String × List String) :=
  sources.foldl (fun groups path => joinGroup (n.packageName path) path groups) []

/-- Sources divided by the names of their packages. -/
structure OutputSplit where
  /-- The sources whose packages have names of their own, sorted. -/
  unique : List String
  /-- The other names of packages, each with the sources that share it. -/
  conflicts : List (String × List String)
  deriving DecidableEq, Repr

/-- Separates the sources whose packages have names of their own from those that share one. -/
def splitOutputConflicts (n : Naming) (sources : List String) : OutputSplit :=
  let groups := groupByOutput n sources
  { unique := ((groups.filter fun g => g.2.length = 1).flatMap (·.2)).mergeSort fun p q => p ≤ q
    conflicts := groups.filter fun g => g.2.length ≠ 1 }

/-- How many sources share the name of their package with others. -/
def OutputSplit.conflicting (s : OutputSplit) : Nat :=
  s.conflicts.foldl (fun count c => count + c.2.length) 0

/-- The report of sources that are left alone. -/
def conflictLine (name : String) (sources : List String) : LogLine :=
  ⟨.error, "Skipping " ++ toString sources.length ++ " sources that would all write " ++ name ++ ": "
    ++ listNames sources⟩

/-- How a batch ends. -/
structure BatchCount where
  /-- How many sources were compiled. -/
  successes : Nat := 0
  /-- How many were not. -/
  errors : Nat := 0
  deriving DecidableEq, Repr

/-- One more source is done. -/
def BatchCount.add (c : BatchCount) : Except Failure Unit → BatchCount
  | .ok () => { c with successes := c.successes + 1 }
  | .error _ => { c with errors := c.errors + 1 }

/-- The path of the package of a source in a folder of packages. -/
def outputPath (n : Naming) (outputFolder path : String) : String :=
  Text.childPath outputFolder (n.packageName path)

/-- The report of a source that was worked on. -/
def resultLine (output path : String) : Except Failure Unit → LogLine
  | .ok () => ⟨.info, "Compiled " ++ Text.quoted path ++ " -> " ++ Text.quoted output⟩
  | .error f => ⟨.error, "Failed to compile " ++ Text.quoted path ++ ": " ++ f.oneLine⟩

/-- Compiles a source into a package in a folder. -/
def compileInto (files : FileAccess m) (c : Compiler) (outputFolder path : String)
    (lanes : IdLanes) : ExceptT Failure m Unit := do
  let source ← readSource files path
  files.report .library (c.compileLog source lanes)
  match c.compile source lanes with
  | .error e => throw (.compile path e)
  | .ok bytes => writePackage files (outputPath files.naming outputFolder path) bytes

/-- Compiles sources one after the other, each with identifiers of its own. -/
def compileAll (files : FileAccess m) (c : Compiler) (outputFolder : String) (runs : Nat → IdLanes)
    (count : BatchCount) : List (String × Nat) → m BatchCount
  | [] => pure count
  | (path, n) :: rest => do
    let result ← (compileInto files c outputFolder path (runs n)).run
    files.report .program [resultLine (outputPath files.naming outputFolder path) path result]
    compileAll files c outputFolder runs (count.add result) rest

/-- What a command prints, and why it fails if it does. -/
structure Answer where
  /-- The lines that it prints. -/
  lines : List String := []
  /-- The failure, if it fails. -/
  failure : Option Failure := none
  deriving DecidableEq, Repr

/-- The answer of a batch that came to its end. -/
def BatchCount.answer (c : BatchCount) : Answer where
  lines := ["", "Batch build complete:", "  Success: " ++ toString c.successes,
    "  Errors:  " ++ toString c.errors]
  failure := if c.errors = 0 then none else some (.batch c.errors)

/-- Compiles the sources that a batch has found. Those that share the name of their package are
reported and counted as errors. -/
def batchOver (files : FileAccess m) (schedule : List String → List String)
    (runs : Nat → IdLanes) (template outputFolder : String) (options : CompileOptions)
    (sources : List String) : m Answer := do
  let split := splitOutputConflicts files.naming sources
  files.report .program (split.conflicts.map fun g => conflictLine g.1 g.2)
  match ← (loadTemplate files template).run with
  | .error f => return { failure := some f }
  | .ok t =>
    let c := Compiler.ofTemplate t options
    files.report .library c.log
    let count ← compileAll files c outputFolder runs { errors := split.conflicting }
      (schedule split.unique).zipIdx
    return count.answer

/-- Compiles every source in a folder. -/
def batch (files : FileAccess m) (schedule : List String → List String) (runs : Nat → IdLanes)
    (inputFolder template outputFolder : String) (options : CompileOptions) : m Answer := do
  match ← files.createFolders outputFolder with
  | .error fault => return { failure := some (.outputFolder outputFolder fault) }
  | .ok () => match ← files.listFolder inputFolder with
    | .error fault => return { failure := some (.inputFolder inputFolder fault) }
    | .ok names => match sourcePaths inputFolder names with
      | [] => return { lines := ["No Markdown files found in " ++ inputFolder] }
      | sources => do
        let a ← batchOver files schedule runs template outputFolder options sources
        return { a with lines := ("Found " ++ toString sources.length ++ " files to compile")
          :: a.lines }

end InteractiveBook.CommandLine
