import InteractiveBook.Text.Trim

/-!
# Paths of files

A path is a text of names between slashes. Empty names and the single point, which is the folder
itself, do not count; the double point is the folder above.
-/

namespace InteractiveBook.Text

/-- The parts of a path between its slashes, empty ones included. -/
def pathParts (path : String) : List (List Char) := splitOnChar '/' path.toList

/-- The last name of a path, unless that is the folder above. -/
def lastName? (path : String) : Option (List Char) :=
  match ((pathParts path).filter fun p => p ≠ [] ∧ p ≠ ['.']).getLast? with
  | some ['.', '.'] => none
  | p => p

/-- A name cut at its last point into what comes before and the extension. A point in front of the
name begins no extension. -/
def cutExtension (name : List Char) : List Char × Option (List Char) :=
  let extension := (name.reverse.takeWhile (· ≠ '.')).reverse
  let front := name.take (name.length - extension.length - 1)
  if name.contains '.' ∧ front ≠ [] ∧ name ≠ ['.', '.'] then (front, some extension)
  else (name, none)

/-- A name without its extension. -/
def stem (name : List Char) : List Char := (cutExtension name).1

/-- The extension of the last name of a path. -/
def extension? (path : String) : Option (List Char) :=
  (lastName? path).bind fun name => (cutExtension name).2

/-- A reversed path without the slashes that it begins with, and without folders themselves. -/
def dropSlashes : List Char → List Char
  | '/' :: rest => dropSlashes rest
  | '.' :: '/' :: rest => dropSlashes rest
  | rest => rest

/-- The path of the folder that holds what a path leads to; empty for a single name. -/
def parentPath (path : String) : String :=
  let folder := (dropSlashes (path.toList.reverse)).dropWhile (· ≠ '/')
  let above := (dropSlashes folder).reverse
  if above = [] ∧ folder ≠ [] then "/" else String.ofList above

/-- The path of a name in a folder. -/
def childPath (folder name : String) : String :=
  if folder = "" ∨ folder.toList.getLast? = some '/' then folder ++ name
  else folder ++ "/" ++ name

end InteractiveBook.Text
