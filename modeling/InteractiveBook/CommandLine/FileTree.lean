import InteractiveBook.CommandLine.Files
import InteractiveBook.Text.Path

/-!
# A tree of files in memory

A file system as a list of places with what is there. A path is followed part by part from the root,
which is also the folder that relative paths begin in; every part but the last has to be a folder.
What the tree itself allows, the system may still refuse.
-/

namespace InteractiveBook.CommandLine

/-- The names that lead from the root to a file or folder. -/
abbrev Place := List String

/-- What is at a place. -/
inductive FileNode where
  /-- A file with its bytes. -/
  | file (data : ByteArray)
  /-- A folder. -/
  | folder

/-- Files are compared by their bytes. -/
instance : DecidableEq FileNode
  | .file a, .file b => decidable_of_iff (a.data = b.data)
    ⟨fun h => by obtain ⟨_⟩ := a; obtain ⟨_⟩ := b; simp_all, fun h => by simp_all⟩
  | .file _, .folder => isFalse nofun
  | .folder, .file _ => isFalse nofun
  | .folder, .folder => isTrue rfl

/-- What the system refuses for reasons that the tree knows nothing of: a right that is lacking, a
disk that is full, a name that is too long. A run puts no more than one file at a path, so what it
will meet there can be told beforehand. -/
structure Refusals where
  /-- Why the file of a path is not read. -/
  reading : String → Option FileFault := fun _ => none
  /-- Why no file is put in place at a path. -/
  writing : String → Option ReplaceFault := fun _ => none

/-- Files and folders with their places. -/
structure FileTree where
  /-- The places that are taken; the root is always a folder. -/
  nodes : List (Place × FileNode) := []
  /-- What the system refuses. -/
  refusals : Refusals := {}

namespace FileTree

/-- What is at a place. -/
def node? (t : FileTree) (p : Place) : Option FileNode :=
  if p = [] then some .folder else (t.nodes.find? fun n => n.1 = p).map (·.2)

/-- The tree with something at a place, instead of what was there. -/
def put (t : FileTree) (p : Place) (n : FileNode) : FileTree :=
  if t.nodes.any fun old => old.1 = p then
    { t with nodes := t.nodes.map fun old => if old.1 = p then (p, n) else old }
  else { t with nodes := t.nodes ++ [(p, n)] }

/-- Follows the parts of a path from a place; only the last part may be missing. -/
def follow (t : FileTree) (p : Place) : List (List Char) → Except FileFault Place
  | [] => .ok p
  | part :: rest =>
    match t.node? p with
    | none => .error .notFound
    | some (.file _) => .error .notFolder
    | some .folder =>
      if part = [] ∨ part = ['.'] then t.follow p rest
      else if part = ['.', '.'] then t.follow p.dropLast rest
      else t.follow (p ++ [String.ofList part]) rest

/-- The place that a path leads to. The empty path leads nowhere. -/
def place? (t : FileTree) (path : String) : Except FileFault Place :=
  if path = "" then .error .notFound else t.follow [] (Text.pathParts path)

/-- The bytes of a file. -/
def readFile (t : FileTree) (path : String) : Except FileFault ByteArray := do
  match t.node? (← t.place? path) with
  | none => throw .notFound
  | some .folder => throw .isFolder
  | some (.file data) => match t.refusals.reading path with
    | some fault => throw fault
    | none => return data

/-- The names of what is in a folder. -/
def listFolder (t : FileTree) (path : String) : Except FileFault (List String) := do
  let p ← t.place? path
  match t.node? p with
  | none => throw .notFound
  | some (.file _) => throw .notFolder
  | some .folder => return (t.nodes.filter fun n => n.1.dropLast = p).filterMap fun n => n.1.getLast?

/-- Creates the folders that the parts of a path lead through. A path that ends in the single point
leads to a folder that exists. -/
def createFrom (t : FileTree) (p : Place) : List (List Char) → Except FileFault FileTree
  | [] => .ok t
  | part :: rest =>
    if part = [] ∨ part = ['.'] then t.createFrom p rest
    else if part = ['.', '.'] then t.createFrom p.dropLast rest
    else
      let p := p ++ [String.ofList part]
      match t.node? p with
      | none =>
        if rest.contains ['.'] ∧ rest.all (fun r => r = [] ∨ r = ['.']) = true then .error .notFound
        else (t.put p .folder).createFrom p rest
      | some .folder => t.createFrom p rest
      | some (.file _) => .error (if rest.all (· = []) then .alreadyExists else .notFolder)

/-- The tree with a folder and those above it. -/
def createFolders (t : FileTree) (path : String) : Except FileFault FileTree :=
  t.createFrom [] (Text.pathParts path)

/-- Why a finished file cannot be moved to a path, or the place that it moves to. The folder that
the last name is in has to exist; a name with a slash behind it asks for a folder, and the root
is always in use. -/
def target? (t : FileTree) (path : String) : Except FileFault Place := do
  let parts := Text.pathParts path
  let named := (parts.reverse.dropWhile (· = [])).reverse
  if path = "" then throw .notFound
  match named.getLast? with
  | none => throw .busy
  | some name =>
    let folder ← t.follow [] named.dropLast
    match t.node? folder with
    | none => throw .notFound
    | some (.file _) => throw .notFolder
    | some .folder =>
      if name = ['.'] ∨ name = ['.', '.'] then throw .busy
      if named.length < parts.length then throw .notFolder
      let p := folder ++ [String.ofList name]
      match t.node? p with
      | some .folder => throw .isFolder
      | _ => return p

/-- The tree with a file put in place by way of a folder. -/
def replaceFile (t : FileTree) (folder path : String) (data : ByteArray) :
    Except ReplaceFault FileTree := do
  let p ← (t.place? folder).mapError .noTemporary
  match t.node? p with
  | none => throw (.noTemporary .notFound)
  | some (.file _) => throw (.noTemporary .notFolder)
  | some .folder => match t.refusals.writing path with
    | some fault => throw fault
    | none => do
      let p ← (t.target? path).mapError .notMoved
      return t.put p (.file data)

/-- An operation that may change the tree, or leaves it as it was. -/
def update {ε : Type} (f : FileTree → Except ε FileTree) : StateM FileTree (Except ε Unit) :=
  fun t => match f t with
    | .ok new => (.ok (), new)
    | .error e => (.error e, t)

/-- Access to the files of a tree, where nothing is reported. -/
def access (naming : Naming := {}) : FileAccess (StateM FileTree) where
  naming := naming
  report _ _ := pure ()
  readFile path := fun t => (t.readFile path, t)
  listFolder path := fun t => (t.listFolder path, t)
  createFolders path := update fun t => t.createFolders path
  replaceFile folder path data := update fun t => t.replaceFile folder path data

end FileTree

end InteractiveBook.CommandLine
