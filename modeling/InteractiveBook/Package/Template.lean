import InteractiveBook.Error
import InteractiveBook.Library.Resolve
import InteractiveBook.Package.Manifest
import InteractiveBook.Zip.Directory

/-!
# Templates

A template is an existing book whose libraries and settings a new book takes over. It is checked
before anything is built: it has to be an archive with a readable manifest whose main library is
the interactive book.
-/

namespace InteractiveBook.Package

open Library

/-- The name of the manifest in the archive. -/
def manifestName : String := "h5p.json"

/-- How the main library of every usable template begins. -/
def mainLibraryStart : String := "H5P.InteractiveBook"

/-- A template that has been checked. -/
structure Template where
  /-- The bytes of the archive. -/
  bytes : ByteArray
  /-- The manifest. -/
  manifest : Manifest
  /-- The names of the entries, in archive order. -/
  entryNames : List String

/-- The fault of an archive that cannot be read as a template. -/
def corrupt (f : Zip.Fault) : TemplateFault := .corruptTemplate f.message

/-- The entries of an archive, each with a local header where the directory says. What the data of
an entry is like is not looked at. -/
def checkedEntries (bytes : ByteArray) : Except TemplateFault (List Zip.Entry) :=
  match Zip.entries bytes with
  | .error f => .error (corrupt f)
  | .ok entries =>
    if entries.all (Zip.Entry.hasHeader bytes) then .ok entries
    else .error (corrupt .badLocalHeader)

/-- The bytes of the manifest, if there is one and it can be read. -/
def manifestBytes (bytes : ByteArray) (entries : List Zip.Entry) :
    Except TemplateFault ByteArray :=
  match entries.find? fun e => e.name = manifestName with
  | none => .error .missingManifest
  | some e => (e.read bytes).mapError corrupt

/-- The manifest that bytes hold. -/
def readManifest (raw : ByteArray) : Except TemplateFault Manifest :=
  match Text.decodeUtf8 raw with
  | .error fault => .error (.malformedManifest ("not UTF-8: " ++ fault.message))
  | .ok s => match Manifest.ofText? s with
    | some m => .ok m
    | none => .error (.malformedManifest "not a manifest")

/-- The complaint about a manifest of another kind of package. -/
def otherPackage (m : Manifest) : TemplateFault :=
  .invalidTemplate ("main library is '" ++ m.mainLibrary ++ "', expected an "
    ++ mainLibraryStart ++ " package")

/-- The main library of a manifest is the interactive book. -/
def Manifest.isBook (m : Manifest) : Bool :=
  Text.beginsWith mainLibraryStart.toList m.mainLibrary.toList

namespace Template

/-- The template that bytes hold. -/
def ofBytes (bytes : ByteArray) : Except TemplateFault Template := do
  let entries ← checkedEntries bytes
  let raw ← manifestBytes bytes entries
  let manifest ← readManifest raw
  if manifest.isBook then return ⟨bytes, manifest, entries.map (·.name)⟩
  else throw (otherPackage manifest)

/-- For each content type the library that the template has for it. -/
def libraries (t : Template) : LibraryTable :=
  resolveLibraries t.manifest.dependencies t.entryNames

/-- What the log says of a template that has been checked. -/
def loadedLog (t : Template) : List LogLine :=
  [⟨.debug, "Loaded template '" ++ t.manifest.title.getD "untitled" ++ "' with "
    ++ toString t.entryNames.length ++ " entries"⟩]

end Template

/-- What a template provides, as it is shown to authors. -/
structure TemplateReport where
  /-- The title of the template. -/
  title : Option String
  /-- The machine name of the main library. -/
  mainLibrary : String
  /-- For each content type the library that provides it. -/
  libraries : LibraryTable

/-- The report of a template. -/
def Template.report (t : Template) : TemplateReport :=
  ⟨t.manifest.title, t.manifest.mainLibrary, t.libraries⟩

/-- A library as JSON: its written form, or null where none is provided. -/
def libraryJson (id? : Option LibraryId) : Json := Json.ofOption (id?.map LibraryId.text)

/-- A table as JSON. -/
def tableJson (t : LibraryTable) : Json :=
  .object [("entries", .object (t.entries.map fun e => (e.1.key, libraryJson e.2))),
    ("advanced_text", .bool t.advancedText)]

/-- A report as JSON. -/
def TemplateReport.json (r : TemplateReport) : Json :=
  .object [("title", Json.ofOption r.title), ("main_library", .string r.mainLibrary),
    ("libraries", tableJson r.libraries), ("advanced_text", .bool r.libraries.advancedText),
    ("unavailable", .array (r.libraries.unavailable.map fun t => .string t.key))]

end InteractiveBook.Package
