import InteractiveBook.Content.Build
import InteractiveBook.Content.Json
import InteractiveBook.Json.Printer
import InteractiveBook.Json.Reading
import InteractiveBook.Log
import InteractiveBook.Package.Archive
import InteractiveBook.Text.Quoted

/-!
# Assembling a package

The package of a book is a copy of its template in which the content document has the new chapters.
An image is added when the document mentions it, explicit folders below the content root are
removed, and everything else stays as it was. The image is kept as a text in Base64: four digits
stand for three bytes, and a text ends in one or two equals signs where its last digits stand for
two bytes or one; the bits that are left over have to be zero.
-/

namespace InteractiveBook

namespace Text.Base64

/-- The value of a digit: the capital letters, the small letters, the decimal digits, the plus sign
and the slash stand for the numbers from zero to sixty-three. -/
def digit? (c : Char) : Option Nat :=
  let n := c.toNat
  if 0x41 ≤ n ∧ n ≤ 0x5a then some (n - 0x41)
  else if 0x61 ≤ n ∧ n ≤ 0x7a then some (n - 0x61 + 26)
  else if 0x30 ≤ n ∧ n ≤ 0x39 then some (n - 0x30 + 52)
  else if c = '+' then some 62
  else if c = '/' then some 63
  else none

/-- The number that digits stand for, the first one counting most. -/
def number? (digits : List Char) : Option Nat :=
  digits.foldlM (fun n c => (digit? c).map (64 * n + ·)) 0

/-- The bytes of a list of characters, four by four. -/
def decodeChars? : List Char → Option (List UInt8)
  | [] => some []
  | [a, b, '=', '='] => do
    let n ← number? [a, b]
    if n % 16 = 0 then some [UInt8.ofNat (n / 16)] else none
  | [a, b, c, '='] => do
    let n ← number? [a, b, c]
    if n % 4 = 0 then some [UInt8.ofNat (n / 1024), UInt8.ofNat (n / 4 % 256)] else none
  | a :: b :: c :: d :: rest => do
    let n ← number? [a, b, c, d]
    let bytes ← decodeChars? rest
    some (UInt8.ofNat (n / 65536) :: UInt8.ofNat (n / 256 % 256) :: UInt8.ofNat (n % 256) :: bytes)
  | _ => none

/-- The bytes that a text stands for. -/
def decode? (s : String) : Option ByteArray :=
  (decodeChars? s.toList).map fun bytes => ⟨bytes.toArray⟩

end Text.Base64

namespace Package

open Content

/-- How the names of all entries begin that belong to the content. -/
def contentRoot : String := "content/"

/-- The name of the content document. -/
def contentName : String := "content/content.json"

/-- The name of the one image that a book shows. -/
def placeholderName : String := contentRoot ++ placeholderPath

/-- The picture that stands for every image, written in Base64. -/
def placeholderText : String :=
  "iVBORw0KGgoAAAANSUhEUgAAAAEAAAABCAQAAAC1HAwC"
    ++ "AAAAC0lEQVR42mNkYAAAAAYAAjCB0C8AAAAASUVORK5CYII="

/-- The bytes of the picture: a transparent one of a single pixel. -/
def placeholderImage : ByteArray :=
  ⟨#[0x89, 0x50, 0x4e, 0x47, 0x0d, 0x0a, 0x1a, 0x0a, 0x00, 0x00, 0x00, 0x0d, 0x49, 0x48, 0x44,
    0x52, 0x00, 0x00, 0x00, 0x01, 0x00, 0x00, 0x00, 0x01, 0x08, 0x04, 0x00, 0x00, 0x00, 0xb5,
    0x1c, 0x0c, 0x02, 0x00, 0x00, 0x00, 0x0b, 0x49, 0x44, 0x41, 0x54, 0x78, 0xda, 0x63, 0x64,
    0x60, 0x00, 0x00, 0x00, 0x06, 0x00, 0x02, 0x30, 0x81, 0xd0, 0x2f, 0x00, 0x00, 0x00, 0x00,
    0x49, 0x45, 0x4e, 0x44, 0xae, 0x42, 0x60, 0x82]⟩

/-- The picture is the one that is written in Base64. -/
theorem decode?_placeholderText : Text.Base64.decode? placeholderText = some placeholderImage := by
  decide +kernel

/-- The picture as it is decoded where a package needs it. -/
def decodedPlaceholder : Except BookError ByteArray :=
  match Text.Base64.decode? placeholderText with
  | some data => .ok data
  | none => .error (.package (.serialize "placeholder image: invalid Base64"))

/-- The JSON object that bytes hold. -/
def objectOf? (data : ByteArray) : Option (List (String × Json)) :=
  match (String.fromUTF8? data).bind Json.parse? with
  | some (.object members) => some members
  | _ => none

/-- The members of the content document of a template; there are none where it has no such document
or one that is no object. -/
def contentMembers (template : Archive) : List (String × Json) :=
  ((template.read? contentName).bind objectOf?).getD []

/-- The text of the content document of a book. -/
def contentText (template : Archive) (chapters : List ContentObject) : String :=
  (Json.object (Json.insertMember "chapters"
    (Json.array (chapters.map ContentObject.json)).canonical (contentMembers template))).compact

/-- The package needs the image: the document mentions it and there is none yet. -/
def lacksPlaceholder (text : String) (a : Archive) : Bool :=
  Text.containsText placeholderPath text && !a.contains placeholderName

/-- The package with the image if it needs it. -/
def addPlaceholder (text : String) (a : Archive) : Archive :=
  if lacksPlaceholder text a then a.writeFile placeholderName placeholderImage else a

/-- The copy of a template with the document of a book, before folders are removed. -/
def withContent (template : Archive) (chapters : List ContentObject) : Archive :=
  let text := contentText template chapters
  addPlaceholder text (template.writeFile contentName text.toUTF8)

/-- Writes the document of a book to the copy of a template, and the image if it needs it. The
picture is decoded for this, and only where it is needed. -/
def writeContent (template : Archive) (chapters : List ContentObject) : Except BookError Archive :=
  let text := contentText template chapters
  let copy := template.writeFile contentName text.toUTF8
  if lacksPlaceholder text copy then decodedPlaceholder.map (copy.writeFile placeholderName)
  else .ok copy

/-- Writing the document and the image never fails. -/
theorem writeContent_eq (template : Archive) (chapters : List ContentObject) :
    writeContent template chapters = .ok (withContent template chapters) := by
  have himage : decodedPlaceholder = .ok placeholderImage := by
    unfold decodedPlaceholder
    split
    · next data hdata =>
      rw [Option.some.inj (hdata.symm.trans decode?_placeholderText)]
    · next hnone => exact absurd (hnone.symm.trans decode?_placeholderText) nofun
  rw [writeContent, withContent, addPlaceholder, himage]
  split <;> rfl

/-- The bytes of the package of a book, from the bytes of its template and its chapters. -/
def assemblePackage (template : ByteArray) (chapters : List ContentObject) (level : Int) :
    Except BookError ByteArray := do
  let template ← Archive.ofBytes template
  let copy ← writeContent template chapters
  let (_, package) ← copy.removeFolders contentRoot
  package.toBytes level

/-- Names as the log lists them. -/
def listNames (names : List String) : String :=
  "[" ++ Text.join ", " (names.map Text.quoted) ++ "]"

/-- What the log says of the document of a template that is no object. -/
def contentLog (template : Archive) : List LogLine :=
  match template.read? contentName with
  | none => []
  | some data =>
    if (objectOf? data).isSome then []
    else [⟨.warn, "Template " ++ contentName ++ " is not a JSON object, replacing it"⟩]

/-- What the log says of the image. -/
def placeholderLog (template : Archive) (chapters : List ContentObject) : List LogLine :=
  let text := contentText template chapters
  if lacksPlaceholder text (template.writeFile contentName text.toUTF8) then
    [⟨.debug, "Adding placeholder image at " ++ placeholderName⟩]
  else []

/-- What the log says of the folders that are removed. -/
def folderLog (package : Archive) : List LogLine :=
  match package.foldersBelow contentRoot with
  | [] => []
  | names => [⟨.debug, "Removed " ++ toString names.length ++ " directory entries: "
      ++ listNames names⟩]

/-- What the log says of assembling a package; it breaks off where that fails. -/
def assemblyLog (template : ByteArray) (chapters : List ContentObject) (level : Int) :
    List LogLine :=
  match Archive.ofBytes template with
  | .error _ => []
  | .ok template =>
    let package := withContent template chapters
    contentLog template ++ placeholderLog template chapters
      ++ match package.removeFolders contentRoot with
        | .error _ => []
        | .ok (_, repaired) => folderLog package
          ++ match repaired.toBytes level with
            | .error _ => []
            | .ok bytes => [⟨.info, "Assembled package: " ++ toString repaired.size
                ++ " entries, " ++ toString bytes.size ++ " bytes"⟩]

end Package

end InteractiveBook
