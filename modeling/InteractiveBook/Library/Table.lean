import InteractiveBook.Library.ContentType
import InteractiveBook.Library.Id

/-!
# Library tables

A table says, for each content type, which library provides it, or that none does. It also keeps
whether text is provided by the rich text library.
-/

namespace InteractiveBook.Library

/-- For each content type the library that provides it. -/
structure LibraryTable where
  /-- One entry for each content type, in the fixed order; none where no library provides it. -/
  entries : List (ContentType × Option LibraryId)
  /-- Whether text is provided by the rich text library. -/
  advancedText : Bool
  deriving DecidableEq, Repr

namespace LibraryTable

/-- The table in which no content type is provided. -/
def empty : LibraryTable := ⟨ContentType.all.map fun t => (t, none), false⟩

/-- Whether a library is the rich text library. -/
def isAdvanced (id? : Option LibraryId) : Bool :=
  match id? with
  | some id => id.name == ContentType.advancedText
  | none => false

/-- The table with another entry for one content type. -/
def insert (table : LibraryTable) (t : ContentType) (id? : Option LibraryId) : LibraryTable where
  entries := table.entries.map fun e => if e.1 = t then (t, id?) else e
  advancedText := if t = .text then isAdvanced id? else table.advancedText

/-- The library that provides a content type, if one does. -/
def get (table : LibraryTable) (t : ContentType) : Option LibraryId :=
  match table.entries.find? fun e => e.1 = t with
  | some (_, id?) => id?
  | none => none

/-- The content types that no library provides, in the fixed order. -/
def unavailable (table : LibraryTable) : List ContentType :=
  ContentType.all.filter fun t => (table.get t).isNone

/-- The table with the given entries, later ones winning. -/
def ofEntries (entries : List (ContentType × Option LibraryId)) : LibraryTable :=
  entries.foldl (fun table e => table.insert e.1 e.2) empty

end LibraryTable

end InteractiveBook.Library
