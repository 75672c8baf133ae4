import InteractiveBook.CommandLine.Failure
import InteractiveBook.CommandLine.Report
import InteractiveBook.Compiler

/-!
# Commands on one source or template

Each of these commands reads what it needs, computes its result, and only then writes it. A package
is put in place in one step, when all of its bytes exist, so a command that fails leaves the path of
its package as it was.
-/

namespace InteractiveBook.CommandLine

open Content Library Package Source

variable {m : Type → Type} [Monad m]

/-- The template in a file. -/
def loadTemplate (files : FileAccess m) (path : String) : ExceptT Failure m Template := do
  match ← files.readFile path with
  | .error fault => throw (.template path (.io fault.message))
  | .ok bytes => match Template.ofBytes bytes with
    | .error fault => throw (.template path (.template fault))
    | .ok t =>
      files.report .library t.loadedLog
      return t

/-- The warning of libraries that a template lacks. -/
def lackingLog (table : LibraryTable) : List LogLine :=
  match table.unavailable with
  | [] => []
  | types => [⟨.warn, "Template lacks libraries for: "
      ++ Text.join ", " (types.map ContentType.displayName)⟩]

/-- The text in a file. -/
def readText (files : FileAccess m) (path : String) : m (Except ReadFault String) := do
  match ← files.readFile path with
  | .error fault => return .error (.file fault)
  | .ok bytes => match Text.decodeUtf8 bytes with
    | .error _ => return .error .notText
    | .ok s => return .ok s

/-- The source in a file. -/
def readSource (files : FileAccess m) (path : String) : ExceptT Failure m String := do
  match ← (readText files path : m (Except ReadFault String)) with
  | .error fault => throw (.source path fault)
  | .ok s => return s

/-- The folder in which a file is written before it takes its path. -/
def temporaryFolder (path : String) : String :=
  if Text.parentPath path = "" then "." else Text.parentPath path

/-- The failure of a command whose package cannot be put in place. -/
def writeFailure (path : String) : ReplaceFault → Failure
  | .noTemporary fault => .temporary (temporaryFolder path) fault
  | .notWritten fault => .unwritten path fault
  | .notMoved fault => .output path fault

/-- Puts a package in place. -/
def writePackage (files : FileAccess m) (path : String) (bytes : ByteArray) :
    ExceptT Failure m Unit := do
  match ← files.replaceFile (temporaryFolder path) path bytes with
  | .error fault => throw (writeFailure path fault)
  | .ok () => return ()

/-- The path of the package of a source unless another is asked for. -/
def packagePath (input : String) : String :=
  Text.childPath (Text.parentPath input) (packageName input)

/-- Compiles a source into a package. -/
def build (files : FileAccess m) (input template : String) (output : Option String)
    (options : CompileOptions) (lanes : IdLanes) : ExceptT Failure m Unit := do
  let c := Compiler.ofTemplate (← loadTemplate files template) options
  files.report .library c.log
  files.report .program (lackingLog c.libraries)
  let source ← readSource files input
  files.report .library (c.compileLog source lanes)
  match c.compile source lanes with
  | .error e => throw (.compile input e)
  | .ok bytes => writePackage files (output.getD (packagePath input)) bytes

/-- The report of a template. -/
def inspect (files : FileAccess m) (template : String) : ExceptT Failure m TemplateReport := do
  let t ← loadTemplate files template
  files.report .library (resolutionLog t.libraries)
  return t.report

/-- What a source consists of, and what a template cannot build of it. -/
def check (files : FileAccess m) (input : String) (template : Option String) :
    ExceptT Failure m CheckReport := do
  let source ← readSource files input
  files.report .library (Compiler.decodeLog source)
  match outlineSource source with
  | .error e => throw (.check input e)
  | .ok chapters => match template with
    | none => return ⟨chapters, []⟩
    | some path => do
      let t ← loadTemplate files path
      files.report .library (resolutionLog t.libraries)
      return ⟨chapters, fallbacks chapters t.libraries⟩

end InteractiveBook.CommandLine
