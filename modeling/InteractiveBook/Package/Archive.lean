import InteractiveBook.Error
import InteractiveBook.Text.Trim
import InteractiveBook.Zip.Writer

/-!
# The working copy of a package

A package is held in memory as a list of entries in archive order, with no name twice. Files can be
written and folders added; explicit folder entries can be removed without touching the files
below them. The finished copy becomes the bytes of an archive.
-/

namespace InteractiveBook.Package

/-- An entry of a package, its data uncompressed. -/
structure ArchiveEntry where
  /-- The name of the entry. -/
  name : String
  /-- The data of the entry. -/
  data : ByteArray
  /-- Whether the entry is an explicit folder. -/
  isFolder : Bool

/-- Entries are compared by all that they hold. -/
instance : DecidableEq ArchiveEntry := fun a b =>
  decidable_of_iff (a.name = b.name ∧ a.data.data = b.data.data ∧ a.isFolder = b.isFolder)
    ⟨fun h => by
      obtain ⟨_, ⟨_⟩, _⟩ := a; obtain ⟨_, ⟨_⟩, _⟩ := b; simp_all, fun h => by simp [h]⟩

/-- A folder entry that marks nothing but the folder: no data, and a name that ends in a slash. -/
def ArchiveEntry.isFolderMarker (e : ArchiveEntry) : Bool :=
  e.isFolder && e.name.toList.getLast? == some '/' && e.data.size == 0

/-- A package in memory, its entries in archive order. -/
structure Archive where
  /-- The entries. -/
  entries : List ArchiveEntry
  deriving DecidableEq

namespace Archive

/-- The package without entries. -/
def empty : Archive := ⟨[]⟩

/-- The fault of an entry that cannot be read. -/
def readFault (f : Zip.Fault) : BookError := .package (.archiveRead f.message)

/-- The fault of a package that cannot be written. -/
def writeFault (f : Zip.Fault) : BookError := .package (.archiveWrite f.message)

/-- The entry of a package that an archive holds. -/
def loadEntry (bytes : ByteArray) (e : Zip.Entry) : Except Zip.Fault ArchiveEntry := do
  let data ← e.read bytes
  return ⟨e.name, data, e.isFolder⟩

/-- The package that the bytes of an archive hold, every entry of it read. -/
def ofBytes (bytes : ByteArray) : Except BookError Archive :=
  match Zip.entries bytes >>= fun es => es.mapM (loadEntry bytes) with
  | .ok entries => .ok ⟨entries⟩
  | .error f => .error (readFault f)

/-- The number of entries. -/
def size (a : Archive) : Nat := a.entries.length

/-- Whether there is an entry of a name. -/
def contains (a : Archive) (name : String) : Bool := a.entries.any fun e => e.name = name

/-- The data of the file of a name; a folder has none. -/
def read? (a : Archive) (name : String) : Option ByteArray :=
  (a.entries.find? fun e => e.name = name ∧ e.isFolder = false).map (·.data)

/-- The entries with a file written: the first entry of its name is replaced where it stands, and
a new name goes to the end. -/
def writeEntries (name : String) (data : ByteArray) : List ArchiveEntry → List ArchiveEntry
  | [] => [⟨name, data, false⟩]
  | e :: rest =>
    if e.name = name then ⟨name, data, false⟩ :: rest else e :: writeEntries name data rest

/-- The package with a file written. -/
def writeFile (a : Archive) (name : String) (data : ByteArray) : Archive :=
  ⟨writeEntries name data a.entries⟩

/-- The name of a folder entry ends in a slash. -/
def markerName (name : String) : String :=
  if name.toList.getLast? = some '/' then name else name ++ "/"

/-- The package with an explicit folder, unless an entry has its name already. -/
def addFolder (a : Archive) (name : String) : Archive :=
  if a.contains (markerName name) then a
  else ⟨a.entries ++ [⟨markerName name, ByteArray.empty, true⟩]⟩

/-- The names of the files. -/
def fileNames (a : Archive) : List String :=
  (a.entries.filter fun e => !e.isFolder).map (·.name)

/-- Whether an entry is an explicit folder below a start of names. -/
def isRemoved (start : String) (e : ArchiveEntry) : Bool :=
  Text.beginsWith start.toList e.name.toList && e.isFolderMarker

/-- The names of the explicit folders below a start of names. -/
def foldersBelow (a : Archive) (start : String) : List String :=
  (a.entries.filter (isRemoved start)).map (·.name)

/-- The package without the explicit folders below a start of names. -/
def withoutFolders (a : Archive) (start : String) : Archive :=
  ⟨a.entries.filter fun e => !isRemoved start e⟩

/-- How many different texts a list has. -/
def distinctCount (names : List String) : Nat := names.eraseDups.length

/-- Removes the explicit folders below a start of names and gives their names. The files must be
the same afterwards. -/
def removeFolders (a : Archive) (start : String) : Except BookError (List String × Archive) :=
  let repaired := a.withoutFolders start
  if a.fileNames.all (repaired.fileNames.contains ·)
      && distinctCount a.fileNames == distinctCount repaired.fileNames then
    .ok (a.foldersBelow start, repaired)
  else .error (.package (.repairInvariant
    (toString (distinctCount a.fileNames) ++ " files before repair, "
      ++ toString (distinctCount repaired.fileNames) ++ " after")))

/-- The entry in the form in which it is written. -/
def newEntry (e : ArchiveEntry) : Zip.NewEntry := ⟨e.name, e.isFolder, e.data⟩

/-- The bytes of the package as an archive, its files compressed at a level. -/
def toBytes (a : Archive) (level : Int) (z : Zip.Deflater := .stored) :
    Except BookError ByteArray :=
  match Zip.write z level (a.entries.map newEntry) with
  | .ok bytes => .ok bytes
  | .error f => .error (writeFault f)

end Archive

end InteractiveBook.Package
