import InteractiveBook.Zip.Directory
import InteractiveBook.Zip.Deflate

/-!
# Writing an archive

An archive is the local header and data of each entry in turn, then the directory with a header
for each entry, then the end record. All times are the same fixed one, so equal entries give equal
bytes. Files are stored as they are or deflated; folders are always stored and never hold data.
-/

namespace InteractiveBook.Zip

/-- An entry to be written. -/
structure NewEntry where
  /-- The name of the entry. -/
  name : String
  /-- Whether the entry is a folder. -/
  isFolder : Bool
  /-- The data of a file; that of a folder is not written. -/
  data : ByteArray

/-- An entry in the form in which the archive holds it. -/
structure Member where
  /-- The bytes of the name. -/
  name : ByteArray
  /-- The version that a reader needs. -/
  version : Nat
  /-- The flags. -/
  flags : Nat
  /-- The compression method. -/
  method : Nat
  /-- The checksum of the data. -/
  crc : Nat
  /-- The data, compressed by the method. -/
  packed : ByteArray
  /-- The length of the data. -/
  size : Nat
  /-- The file type and permissions. -/
  mode : Nat

/-- The version that readers of stored files need. -/
def storedVersion : Nat := 10

/-- The version that readers of folders and deflated files need. -/
def fullVersion : Nat := 20

/-- The system on which the permissions are meant. -/
def hostSystem : Nat := 3

/-- The date of all entries: the first of January 1980. -/
def fixedDate : Nat := 0x0021

/-- The mode of a file that its owner may write. -/
def fileMode : Nat := 0o100644

/-- The mode of a folder that its owner may write. -/
def folderMode : Nat := 0o40755

/-- The greatest compression level. -/
def maxLevel : Int := 264

/-- The longest name in bytes. -/
def maxNameLength : Nat := 65535

/-- The name of a folder ends in a slash of either kind. -/
def folderName (name : String) : String :=
  match name.toList.getLast? with
  | some c => if c == '/' || c == '\\' then name else name ++ "/"
  | none => "/"

/-- The flags of an entry: names beyond ASCII are marked as UTF-8. -/
def flagsOf (name : String) : Nat :=
  if name.toList.all fun c => decide (c.toNat < 0x80) then 0 else 0x0800

/-- The name under which an entry is written. -/
def NewEntry.writtenName (e : NewEntry) : String :=
  if e.isFolder then folderName e.name else e.name

/-- The form in which the archive holds an entry, its file compressed at a level. -/
def NewEntry.member (z : Deflater) (level : Int) (e : NewEntry) : Except Fault Member := do
  let name := e.writtenName
  let bytes := Text.bytesOf name
  if maxNameLength < bytes.size then throw .nameTooLong
  if e.isFolder then
    return ⟨bytes, fullVersion, flagsOf name, storedMethod, 0, ByteArray.empty, 0, folderMode⟩
  else if level ≤ 0 then
    return ⟨bytes, storedVersion, flagsOf name, storedMethod, (crc32 e.data).toNat, e.data,
      e.data.size, fileMode⟩
  else if level > maxLevel then throw .badLevel
  else
    return ⟨bytes, fullVersion, flagsOf name, deflatedMethod, (crc32 e.data).toNat,
      z.deflate level e.data, e.data.size, fileMode⟩

namespace Member

/-- The fields that both headers of an entry share: flags, method, time, date, checksum, sizes, and
the lengths of the name and of the extra fields. -/
def sharedFields (m : Member) : List UInt8 :=
  littleEndian 2 m.flags ++ littleEndian 2 m.method ++ littleEndian 2 0
    ++ littleEndian 2 fixedDate ++ littleEndian 4 m.crc ++ littleEndian 4 m.packed.size
    ++ littleEndian 4 m.size ++ littleEndian 2 m.name.size ++ littleEndian 2 0

/-- The local header of an entry. -/
def localHeader (m : Member) : ByteArray :=
  pack (littleEndian 4 localMark ++ littleEndian 2 m.version ++ m.sharedFields) ++ m.name

/-- The local header and the data of an entry. -/
def localPart (m : Member) : ByteArray := m.localHeader ++ m.packed

/-- The directory header of an entry whose local header starts at an offset. -/
def directoryHeader (m : Member) (offset : Nat) : ByteArray :=
  pack (littleEndian 4 headerMark ++ littleEndian 2 (256 * hostSystem + m.version)
    ++ littleEndian 2 m.version ++ m.sharedFields ++ littleEndian 2 0 ++ littleEndian 2 0
    ++ littleEndian 2 0 ++ littleEndian 4 (m.mode * 65536) ++ littleEndian 4 offset) ++ m.name

end Member

/-- An archive in the making: the local parts and the directory headers so far. -/
structure Draft where
  /-- The local headers and data so far. -/
  locals : ByteArray
  /-- The directory headers so far. -/
  headers : ByteArray
  /-- The number of entries so far. -/
  count : Nat

/-- The archive with one more entry. -/
def Draft.add (d : Draft) (m : Member) : Draft :=
  let header := m.directoryHeader d.locals.size
  ⟨d.locals ++ m.localPart, d.headers ++ header, d.count + 1⟩

/-- The wide end record and its locator, needed when a field of the end record overflows. -/
def Draft.wideEnd (d : Draft) : ByteArray :=
  pack (littleEndian 4 wideEndMark ++ littleEndian 8 44 ++ littleEndian 2 45 ++ littleEndian 2 45
    ++ littleEndian 4 0 ++ littleEndian 4 0 ++ littleEndian 8 d.count ++ littleEndian 8 d.count
    ++ littleEndian 8 d.headers.size ++ littleEndian 8 d.locals.size
    ++ littleEndian 4 wideLocatorMark ++ littleEndian 4 0
    ++ littleEndian 8 (d.locals.size + d.headers.size) ++ littleEndian 4 1)

/-- Whether a field of the end record overflows. -/
def Draft.isWide (d : Draft) : Bool :=
  decide (0xffff < d.count) || decide (overflow32 < d.headers.size)
    || decide (overflow32 < d.locals.size)

/-- The end record. -/
def Draft.endRecord (d : Draft) : ByteArray :=
  pack (littleEndian 4 endMark ++ littleEndian 2 0 ++ littleEndian 2 0
    ++ littleEndian 2 (min d.count 0xffff) ++ littleEndian 2 (min d.count 0xffff)
    ++ littleEndian 4 (min d.headers.size overflow32)
    ++ littleEndian 4 (min d.locals.size overflow32) ++ littleEndian 2 0)

/-- The finished archive. -/
def Draft.finish (d : Draft) : ByteArray :=
  d.locals ++ d.headers ++ (if d.isWide then d.wideEnd else ByteArray.empty) ++ d.endRecord

/-- The archive of entries, its files compressed at a level: at most zero stores them. No two entries
may be written with one name. -/
def write (z : Deflater) (level : Int) (es : List NewEntry) : Except Fault ByteArray := do
  let members ← es.mapM (NewEntry.member z level)
  if (es.map NewEntry.writtenName).Nodup then
    return (members.foldl Draft.add ⟨ByteArray.empty, ByteArray.empty, 0⟩).finish
  else throw .duplicateName

end InteractiveBook.Zip
