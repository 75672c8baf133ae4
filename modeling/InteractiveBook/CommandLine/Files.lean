import InteractiveBook.Log

/-!
# Access to the system

What the commands need of the system: to read a file, to list and create folders, to put a finished
file in place at once, and to report what they do. Commands are written against this interface, so
that they run on a disk as well as on a tree of files in memory.
-/

namespace InteractiveBook.CommandLine

/-- Why the system refuses an operation on a file. -/
inductive FileFault where
  /-- There is nothing of that name. -/
  | notFound
  /-- A folder was expected. -/
  | notFolder
  /-- A file was expected. -/
  | isFolder
  /-- Something of that name exists already. -/
  | alreadyExists
  /-- The name stands for a folder in use. -/
  | busy
  /-- Another reason, in the words of the system. -/
  | other (message : String)
  deriving DecidableEq, Repr

/-- The wording of a fault. -/
def FileFault.message : FileFault → String
  | notFound => "No such file or directory (os error 2)"
  | notFolder => "Not a directory (os error 20)"
  | isFolder => "Is a directory (os error 21)"
  | alreadyExists => "File exists (os error 17)"
  | busy => "Device or resource busy (os error 16)"
  | other message => message

/-- Why a file cannot be put in place. -/
inductive ReplaceFault where
  /-- No temporary file can be made in the folder. -/
  | noTemporary (fault : FileFault)
  /-- The temporary file cannot be filled. -/
  | notWritten (fault : FileFault)
  /-- The temporary file cannot take the name. -/
  | notMoved (fault : FileFault)
  deriving DecidableEq, Repr

/-- How names of files are shown. A name whose bytes are no UTF-8 goes under a text of its own; what
is shown of it has replacement characters for the bytes, so different names may be shown alike. -/
structure Naming where
  /-- What is shown of a name. -/
  shown : String → String := id
  /-- No slash comes from where there was none. -/
  unslashed : ∀ name : String, '/' ∉ name.toList → '/' ∉ (shown name).toList := by exact fun _ h => h

/-- The operations of the system that commands use. -/
structure FileAccess (m : Type → Type) where
  /-- How names are shown. -/
  naming : Naming := {}
  /-- The bytes of a file. -/
  readFile : String → m (Except FileFault ByteArray)
  /-- The names of what is in a folder. -/
  listFolder : String → m (Except FileFault (List String))
  /-- Creates a folder with those above it, unless it exists. -/
  createFolders : String → m (Except FileFault Unit)
  /-- Writes a temporary file in a folder, then moves it to a path in one step. -/
  replaceFile : (folder path : String) → ByteArray → m (Except ReplaceFault Unit)
  /-- Reports lines of the log. -/
  report : LogOrigin → List LogLine → m Unit

/-- The same access, with only those lines reported that are to be shown. -/
def FileAccess.showing {m : Type → Type} (files : FileAccess m) (verbose : Bool) : FileAccess m :=
  { files with report := fun o lines => files.report o (lines.filter (o.shows verbose)) }

end InteractiveBook.CommandLine
