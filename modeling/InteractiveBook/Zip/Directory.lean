import InteractiveBook.Zip.ExtraField
import InteractiveBook.Zip.Inflate
import InteractiveBook.Text.CodePage437

/-!
# Reading an archive

An archive ends with an end record that leads to the directory; the directory has a header for
each entry, and each header leads to the entry's local header and data. The last end record that
leads to a sound directory counts. Names are UTF-8 where a flag says so and code page 437 elsewhere.
Of several headers with one name the first gives the position and the last the entry.
-/

namespace InteractiveBook.Zip

/-- The mark of a local header. -/
def localMark : Nat := 0x04034b50

/-- The mark of a directory header. -/
def headerMark : Nat := 0x02014b50

/-- The mark of an end record. -/
def endMark : Nat := 0x06054b50

/-- The mark of a wide end record. -/
def wideEndMark : Nat := 0x06064b50

/-- The mark of the record that leads to a wide end record. -/
def wideLocatorMark : Nat := 0x07064b50

/-- An entry as the directory describes it. -/
structure Entry where
  /-- The name of the entry. -/
  name : String
  /-- The compression method. -/
  method : Nat
  /-- Whether the entry is encrypted. -/
  encrypted : Bool
  /-- The checksum of the data. -/
  crc : Nat
  /-- The length of the compressed data. -/
  compressedSize : Nat
  /-- Where the local header starts. -/
  start : Nat
  /-- Whether the true method of the entry was given behind an encryption. -/
  wrapped : Bool
  deriving DecidableEq, Repr

/-- A directory is a folder when its name ends in a slash of either kind. -/
def Entry.isFolder (e : Entry) : Bool :=
  match e.name.toList.getLast? with
  | some c => c == '/' || c == '\\'
  | none => false

/-- Where the directory of an archive is and how many headers it has. -/
structure DirectoryPlace where
  /-- What has to be added to the offsets in the headers. -/
  shift : Nat
  /-- Where the first header starts. -/
  start : Nat
  /-- The number of headers. -/
  count : Nat
  deriving DecidableEq, Repr

/-- The first place of a mark from an index on and before a limit; the fuel bounds the search. -/
def findMark? (bytes : ByteArray) (mark limit : Nat) : Nat → Nat → Option Nat
  | 0, _ => none
  | fuel + 1, index =>
    if limit ≤ index then none
    else if field? bytes index 4 = some mark then some index
    else findMark? bytes mark limit fuel (index + 1)

/-- The place that a wide end record gives, if the record is sound. -/
def widePlace? (bytes : ByteArray) (locatorDisk target locator index : Nat) :
    Option DirectoryPlace := do
  let size ← field? bytes (index + 4) 8
  let madeBy ← field? bytes (index + 12) 2
  let needed ← field? bytes (index + 14) 2
  let disk ← field? bytes (index + 16) 4
  let startDisk ← field? bytes (index + 20) 4
  let countHere ← field? bytes (index + 24) 8
  let count ← field? bytes (index + 32) 8
  let start ← field? bytes (index + 48) 8
  if size < 44 ∨ size + 12 ≠ locator - index ∨ startDisk ≠ locatorDisk
      ∨ index < count * 46 + start then none
  else if count < countHere ∨ madeBy < needed ∨ disk ≠ startDisk then none
  else some ⟨index - target, start + (index - target), count⟩

/-- The place given by the first sound wide end record between two indices. -/
def findWidePlace? (bytes : ByteArray) (locatorDisk target locator : Nat) :
    Nat → Nat → Option DirectoryPlace
  | 0, _ => none
  | fuel + 1, start =>
    match findMark? bytes wideEndMark locator (locator - start) start with
    | none => none
    | some index =>
      match widePlace? bytes locatorDisk target locator index with
      | some place => some place
      | none => findWidePlace? bytes locatorDisk target locator fuel (index + 1)

/-- The record before an end record that leads to a wide one: the disk it names, the offset of
the wide record and the number of disks. -/
def wideLocator? (bytes : ByteArray) (endIndex : Nat) : Option (Nat × Nat × Nat) :=
  if endIndex < 20 ∨ field? bytes (endIndex - 20) 4 ≠ some wideLocatorMark then none
  else do
    let disk ← field? bytes (endIndex - 16) 4
    let target ← field? bytes (endIndex - 12) 8
    let disks ← field? bytes (endIndex - 4) 4
    some (disk, target, disks)

/-- The place of the directory that an end record leads to. Junk in front of the archive shifts
the first header behind its offset; an empty directory is nowhere in particular. -/
def directoryPlace? (bytes : ByteArray) (endIndex : Nat) : Option DirectoryPlace := do
  let disk ← field? bytes (endIndex + 4) 2
  let startDisk ← field? bytes (endIndex + 6) 2
  let countHere ← field? bytes (endIndex + 8) 2
  let count ← field? bytes (endIndex + 10) 2
  let start ← field? bytes (endIndex + 16) 4
  let commentLength ← field? bytes (endIndex + 20) 2
  let _ ← slice? bytes (endIndex + 22) commentLength
  let wide? := if count = 0xffff ∨ start = overflow32 then wideLocator? bytes endIndex else none
  match wide? with
  | some (locatorDisk, target, disks) =>
    let locator := endIndex - 20
    if locator ≤ target ∨ 1 < disks then none
    else findWidePlace? bytes locatorDisk target locator (locator - target) target
  | none =>
    if disk ≠ startDisk then none
    else if count = 0 then some ⟨endIndex - start, start + (endIndex - start), countHere⟩
    else if endIndex ≤ start then none
    else match findMark? bytes headerMark endIndex (endIndex - start) start with
      | some index => some ⟨index - start, index, countHere⟩
      | none => none

/-- The start of an entry's data, behind its local header. -/
def dataStart? (bytes : ByteArray) (index : Nat) : Option Nat := do
  let mark ← field? bytes index 4
  let nameLength ← field? bytes (index + 26) 2
  let extraLength ← field? bytes (index + 28) 2
  if mark = localMark then some (index + 30 + nameLength + extraLength) else none

/-- Whether an entry has a local header where the directory says. -/
def Entry.hasHeader (bytes : ByteArray) (e : Entry) : Bool := (dataStart? bytes e.start).isSome

/-- What a directory header says, without its extra fields, and where the next header starts. -/
structure Header where
  /-- The flags. -/
  flags : Nat
  /-- The checksum of the data. -/
  crc : Nat
  /-- The facts of the entry. -/
  facts : EntryFacts
  /-- The extra fields. -/
  extra : List UInt8
  /-- Where the next header starts. -/
  next : Nat

/-- Reads the directory header at an index. -/
def header? (bytes : ByteArray) (index : Nat) : Option Header := do
  let mark ← field? bytes index 4
  let flags ← field? bytes (index + 8) 2
  let method ← field? bytes (index + 10) 2
  let crc ← field? bytes (index + 16) 4
  let compressedSize ← field? bytes (index + 20) 4
  let size ← field? bytes (index + 24) 4
  let nameLength ← field? bytes (index + 28) 2
  let extraLength ← field? bytes (index + 30) 2
  let commentLength ← field? bytes (index + 32) 2
  let offset ← field? bytes (index + 42) 4
  let rawName ← slice? bytes (index + 46) nameLength
  let extra ← slice? bytes (index + 46 + nameLength) extraLength
  let comment ← slice? bytes (index + 46 + nameLength + extraLength) commentLength
  let decode := if flags.testBit 11 then Text.decodeLenient else Text.decode437
  let rawName := rawName.data.toList
  if mark = headerMark then
    some ⟨flags, crc, ⟨decode rawName, rawName, decode comment.data.toList, method,
      compressedSize, size, offset, false⟩, extra.data.toList,
      index + 46 + nameLength + extraLength + commentLength⟩
  else none

/-- The entry that a header describes; its local header lies before the directory. What that
header holds is looked at when the entry is read. -/
def entryOfHeader (place : DirectoryPlace) (h : Header) : Except Fault Entry := do
  let facts ← takeExtras (h.extra.length + 1) h.facts h.extra
  let start := facts.offset + place.shift
  if facts.method = wrappedMethod ∧ facts.unwrapped = false then throw .badExtraField
  if place.start ≤ start then throw .badDirectory
  return ⟨facts.name, facts.method, h.flags.testBit 0, h.crc, facts.compressedSize, start,
    facts.unwrapped⟩

/-- The entries of so many headers from an index on. -/
def entriesFrom (bytes : ByteArray) (place : DirectoryPlace) :
    Nat → Nat → Except Fault (List Entry)
  | 0, _ => .ok []
  | count + 1, index =>
    match header? bytes index with
    | none => .error .badDirectory
    | some h => do
      let entry ← entryOfHeader place h
      let rest ← entriesFrom bytes place count h.next
      return entry :: rest

/-- The entries with one more: an entry of the same name is replaced where it stands. -/
def addEntry (entries : List Entry) (e : Entry) : List Entry :=
  if entries.any fun old => old.name = e.name then
    entries.map fun old => if old.name = e.name then e else old
  else entries ++ [e]

/-- The entries that an end record leads to. -/
def entriesAt (bytes : ByteArray) (endIndex : Nat) : Except Fault (List Entry) :=
  match directoryPlace? bytes endIndex with
  | none => .error .badEndRecord
  | some place =>
    (entriesFrom bytes place place.count place.start).map fun es => es.foldl addEntry []

/-- The entries of the last sound end record that starts before an index. -/
def entriesBefore (bytes : ByteArray) : Nat → Except Fault (List Entry)
  | 0 => .error .noEndRecord
  | index + 1 =>
    if field? bytes index 4 = some endMark then
      match entriesAt bytes index with
      | .ok entries => .ok entries
      | .error _ => entriesBefore bytes index
    else entriesBefore bytes index

/-- The entries of an archive, in the order of its directory. -/
def entries (bytes : ByteArray) : Except Fault (List Entry) :=
  entriesBefore bytes (bytes.size - 3)

/-- The method of entries whose data is as it is. -/
def storedMethod : Nat := 0

/-- The method of deflated entries. -/
def deflatedMethod : Nat := 8

/-- The data of an entry before its checksum is compared. Compressed data that would pass the end
of the archive ends there. -/
def Entry.content (bytes : ByteArray) (e : Entry) : Except Fault ByteArray :=
  if e.encrypted ∨ e.wrapped then .error .encrypted
  else match dataStart? bytes e.start with
    | none => .error .badLocalHeader
    | some start =>
      let part := bytes.extract start (start + e.compressedSize)
      if e.method = storedMethod then .ok part
      else if e.method = deflatedMethod then
        match inflate? part with
        | some out => .ok out
        | none => .error .corruptData
      else .error .unsupportedMethod

/-- The data of an entry. -/
def Entry.read (bytes : ByteArray) (e : Entry) : Except Fault ByteArray := do
  let content ← e.content bytes
  if (crc32 content).toNat = e.crc then return content else throw .badChecksum

end InteractiveBook.Zip
