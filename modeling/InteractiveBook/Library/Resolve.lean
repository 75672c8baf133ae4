import InteractiveBook.Library.Table
import InteractiveBook.Log

/-!
# Choosing the library for each content type

A content type is provided by the first of its machine names that resolves. A name resolves to the
version of the first dependency of that name, or else to the highest version among the library
folders of that name at the top of the template.
-/

namespace InteractiveBook.Library

/-- The library folder that an entry of the template lies in, if it lies in one. -/
def folderOfEntry? (entry : String) : Option LibraryId :=
  let top := entry.toList.takeWhile (· ≠ '/')
  if entry.toList.contains '/' then LibraryId.ofFolder? (String.ofList top) else none

/-- The libraries that the folders of a template hold. -/
def installedLibraries (entries : List String) : List LibraryId :=
  entries.filterMap folderOfEntry?

/-- The highest version among the libraries of one name. -/
def highestVersion? (name : String) (ids : List LibraryId) : Option LibraryId :=
  (ids.filter fun id => id.name = name).foldl
    (fun best? id => match best? with
      | none => some id
      | some best => if id.le best then some best else some id) none

/-- The library that a machine name resolves to. -/
def resolveName? (dependencies installed : List LibraryId) (name : String) : Option LibraryId :=
  (dependencies.find? fun id => id.name = name).or (highestVersion? name installed)

/-- The library that provides a content type. -/
def resolveType? (dependencies installed : List LibraryId) (t : ContentType) : Option LibraryId :=
  t.machineNames.findSome? (resolveName? dependencies installed)

/-- The table of a template, from the dependencies of its manifest and the names of its
entries. -/
def resolveLibraries (dependencies : List LibraryId) (entries : List String) : LibraryTable :=
  let installed := installedLibraries entries
  LibraryTable.ofEntries
    (ContentType.all.map fun t => (t, resolveType? dependencies installed t))

/-- What the log says of one resolved content type. -/
def resolutionLine (t : ContentType) : Option LibraryId → LogLine
  | some id => ⟨.debug, "Resolved " ++ t.displayName ++ " to " ++ id.text⟩
  | none => ⟨.warn, "No library found for " ++ t.displayName ++ " (tried "
      ++ Text.join ", " t.machineNames ++ "); its blocks will fall back to text"⟩

/-- What the log says of a resolved table: a line for each content type, in the fixed order. -/
def resolutionLog (table : LibraryTable) : List LogLine :=
  ContentType.all.map fun t => resolutionLine t (table.get t)

end InteractiveBook.Library
