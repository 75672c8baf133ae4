import InteractiveBook.Json.Reading
import InteractiveBook.Library.Id

/-!
# The manifest of a package

The manifest names the main library of a package and the libraries it depends on. It is a JSON
object, or the array of the same fields in order. A version is written as a number or as text.
Fields that the compiler does not know are skipped; a known field may not be repeated.
-/

namespace InteractiveBook.Package

open Library

/-- The parts of a manifest that the compiler reads. -/
structure Manifest where
  /-- The title of the book. -/
  title : Option String
  /-- The machine name of the main library. -/
  mainLibrary : String
  /-- The libraries that the book needs, with their versions. -/
  dependencies : List LibraryId
  deriving DecidableEq, Repr

/-- What the fields of a record hold, in the order in which the record declares them: none where a
field is missing. A record is written as an object or as an array of its first fields. -/
def recordFields? (keys : List String) : Json.Tree → Option (List (Option Json.Tree))
  | .array items =>
    if items.length ≤ keys.length then
      some (items.map some ++ List.replicate (keys.length - items.length) none)
    else none
  | .object members =>
    if members.all (·.1.isSome) && keys.all (fun k => members.countP (·.1 == some k) ≤ 1) then
      some (keys.map fun k => (members.find? fun m => m.1 == some k).map (·.2))
    else none
  | _ => none

/-- The text that a tree holds. -/
def textOf? : Json.Tree → Option String
  | .string s? => s?
  | _ => none

/-- The version that a text denotes: decimal digits, perhaps with a plus sign and white space
around. -/
def versionOfText? (s : String) : Option Nat :=
  let cs := Text.trimChars s.toList
  Text.word32OfDigits? (match cs with
    | '+' :: digits => digits
    | _ => cs)

/-- The version that a tree holds, as an integer without a sign or as text. -/
def versionOf? : Json.Tree → Option Nat
  | .number n =>
    if n.negative ∨ n.fraction?.isSome ∨ n.exponent?.isSome then none
    else Text.word32OfDigits? n.whole
  | .string s? => s?.bind versionOfText?
  | _ => none

/-- A dependency: a name and two versions, all of which are needed. -/
def dependencyOf? (t : Json.Tree) : Option LibraryId :=
  match recordFields? ["machineName", "majorVersion", "minorVersion"] t with
  | some [some name, some major, some minor] => do
    some ⟨← textOf? name, ← versionOf? major, ← versionOf? minor⟩
  | _ => none

/-- A title; null is the same as none. -/
def titleOf? : Option Json.Tree → Option (Option String)
  | none => some none
  | some .null => some none
  | some t => (textOf? t).map some

/-- The dependencies; none are listed where the field is missing. -/
def dependenciesOf? : Option Json.Tree → Option (List LibraryId)
  | none => some []
  | some (.array items) => items.mapM dependencyOf?
  | some _ => none

/-- The manifest that a tree holds; the main library is needed. -/
def Manifest.ofTree? (t : Json.Tree) : Option Manifest :=
  match recordFields? ["title", "mainLibrary", "preloadedDependencies"] t with
  | some [title, some main, dependencies] => do
    some ⟨← titleOf? title, ← textOf? main, ← dependenciesOf? dependencies⟩
  | _ => none

/-- The mark that some editors put in front of a text. -/
def byteOrderMark : Char := Char.ofNat 0xfeff

/-- The manifest that a text holds, behind any byte order marks. -/
def Manifest.ofText? (s : String) : Option Manifest :=
  (Json.Tree.ofText? (String.ofList (s.toList.dropWhile (· == byteOrderMark)))).bind
    Manifest.ofTree?

end InteractiveBook.Package
