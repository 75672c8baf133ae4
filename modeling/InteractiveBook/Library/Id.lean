import InteractiveBook.Text.Trim
import InteractiveBook.Text.Decimal

/-!
# Library versions

An installed library is known by its machine name and its major and minor version. Inside a
template it lives in a folder named after these three.
-/

namespace InteractiveBook.Library

/-- A library with its version. -/
structure LibraryId where
  /-- The machine name. -/
  name : String
  /-- The major version. -/
  major : Nat
  /-- The minor version. -/
  minor : Nat
  deriving DecidableEq, Repr

namespace LibraryId

/-- The written form: the name, a space and the two versions with a point between them. -/
def text (id : LibraryId) : String := id.name ++ " " ++ toString id.major ++ "." ++ toString id.minor

/-- Libraries are ordered by name, then by major, then by minor version. -/
def le (a b : LibraryId) : Bool :=
  if a.name = b.name then
    if a.major = b.major then a.minor ≤ b.minor else a.major ≤ b.major
  else decide (a.name < b.name)

/-- The characters that a folder name may use for the machine name. -/
def isNameChar (c : Char) : Bool := c.isAlphanum || c == '_' || c == '.' || c == '-'

/-- The name of the folder that holds a library. -/
def folder (id : LibraryId) : String :=
  id.name ++ "-" ++ toString id.major ++ "." ++ toString id.minor

/-- A list of characters cut at its last separator. -/
def cutAtLast? (sep : Char) (cs : List Char) : Option (List Char × List Char) :=
  match cs.reverse.dropWhile (· ≠ sep) with
  | [] => none
  | _ :: front => some (front.reverse, (cs.reverse.takeWhile (· ≠ sep)).reverse)

/-- The library that a folder name denotes: a name, a hyphen, and the two versions with a point
between them. The name reaches to the last hyphen. -/
def ofFolder? (folder : String) : Option LibraryId := do
  let (name, version) ← cutAtLast? '-' folder.toList
  if name = [] ∨ name.all isNameChar = false then none
  else
    let (major, minor) ← cutAtLast? '.' version
    let major ← Text.word32OfDigits? major
    let minor ← Text.word32OfDigits? minor
    some ⟨String.ofList name, major, minor⟩

end LibraryId

end InteractiveBook.Library
