import InteractiveBook.Proofs.Text.Utf8RoundTrip
import InteractiveBook.Zip.Writer
import Mathlib

/-!
# Reading back the headers of an entry

The local header and the directory header of a member are read back field by field. What the
directory says of a member is its entry; reading that entry gives the data that the member holds.
-/

namespace InteractiveBook.Zip

variable {bytes : ByteArray} {index : Nat}

namespace Member

/-- The numbers of a member fit the fields of its headers. -/
structure Fits (m : Member) : Prop where
  /-- The flags take two bytes. -/
  flags_lt : m.flags < 65536
  /-- The method takes two bytes. -/
  method_lt : m.method < 65536
  /-- The checksum takes four bytes. -/
  crc_lt : m.crc < 4294967296
  /-- The length of the compressed data takes four bytes. -/
  packed_lt : m.packed.size < 4294967296
  /-- The length of the data takes four bytes. -/
  size_lt : m.size < 4294967296
  /-- The length of the name takes two bytes. -/
  name_lt : m.name.size < 65536

/-- The name of a member as a reader decodes it. -/
def decodedName (m : Member) : String :=
  (if m.flags.testBit 11 then Text.decodeLenient else Text.decode437) m.name.data.toList

/-- The entry that the directory gives for a member whose local header starts at an offset. -/
def entryAt (m : Member) (offset : Nat) : Entry :=
  ⟨m.decodedName, m.method, m.flags.testBit 0, m.crc, m.packed.size, offset, false⟩

/-- What the directory header of a member says, and where the next header starts. -/
def headerAt (m : Member) (offset index : Nat) : Header :=
  ⟨m.flags, m.crc, ⟨m.decodedName, m.name.data.toList, "", m.method, m.packed.size, m.size,
    offset, false⟩, [], index + (46 + m.name.size)⟩

/-- The fields that both headers share take twenty-four bytes. -/
theorem length_sharedFields (m : Member) : m.sharedFields.length = 24 := by
  simp [sharedFields, length_littleEndian]

/-- A local header takes thirty bytes and the name. -/
theorem size_localHeader (m : Member) : m.localHeader.size = 30 + m.name.size := by
  simp [localHeader, length_sharedFields, length_littleEndian]

/-- A local part is the header and the compressed data. -/
theorem size_localPart (m : Member) :
    m.localPart.size = 30 + m.name.size + m.packed.size := by
  rw [localPart, ByteArray.size_append, size_localHeader]

/-- A directory header takes forty-six bytes and the name. -/
theorem size_directoryHeader (m : Member) (offset : Nat) :
    (m.directoryHeader offset).size = 46 + m.name.size := by
  simp [directoryHeader, length_sharedFields, length_littleEndian]

end Member

/-- An empty slice is there up to the end of the bytes. -/
theorem slice?_zero (h : index ≤ bytes.size) : slice? bytes index 0 = some ByteArray.empty := by
  rw [slice?, if_pos (by omega), Nat.add_zero, ByteArray.extract_same]

/-- The fields that both headers share, read where they stand. -/
theorem field?_sharedFields {m : Member} (hm : m.Fits) (h : Stands bytes index m.sharedFields) :
    field? bytes index 2 = some m.flags ∧
    field? bytes (index + 2) 2 = some m.method ∧
    field? bytes (index + 8) 4 = some m.crc ∧
    field? bytes (index + 12) 4 = some m.packed.size ∧
    field? bytes (index + 16) 4 = some m.size ∧
    field? bytes (index + 20) 2 = some m.name.size ∧
    field? bytes (index + 22) 2 = some 0 := by
  simp only [Member.sharedFields, stands_append, List.length_append, length_littleEndian,
    Nat.reduceAdd] at h
  obtain ⟨⟨⟨⟨⟨⟨⟨⟨hflags, hmethod⟩, -⟩, -⟩, hcrc⟩, hpacked⟩, hsize⟩, hname⟩, hextra⟩ := h
  exact ⟨hflags.field? hm.flags_lt, hmethod.field? hm.method_lt, hcrc.field? hm.crc_lt,
    hpacked.field? hm.packed_lt, hsize.field? hm.size_lt, hname.field? hm.name_lt,
    hextra.field? (by decide)⟩

/-- The directory header of a member that stands at an index is read back. -/
theorem header?_of_stands {m : Member} {offset : Nat} (hm : m.Fits) (ho : offset < 4294967296)
    (h : Stands bytes index (m.directoryHeader offset).data.toList) :
    header? bytes index = some (m.headerAt offset index) := by
  have hend := h.le_size
  rw [length_data_toList, m.size_directoryHeader] at hend
  rw [Member.directoryHeader, ByteArray.toList_data_append, pack_toList] at h
  simp only [stands_append, List.length_append, length_littleEndian, m.length_sharedFields,
    Nat.reduceAdd] at h
  obtain ⟨⟨⟨⟨⟨⟨⟨⟨⟨hmark, -⟩, -⟩, hshared⟩, hcomment⟩, -⟩, -⟩, -⟩, hoffset⟩, hname⟩ := h
  obtain ⟨hflags, hmethod, hcrc, hpacked, hsize, hlength, hextra⟩ := field?_sharedFields hm hshared
  simp only [Nat.add_assoc, Nat.reduceAdd] at hmethod hcrc hpacked hsize hlength hextra
  have hrest : slice? bytes (index + (46 + m.name.size)) 0 = some ByteArray.empty :=
    slice?_zero hend
  simp only [header?, Nat.add_assoc, Nat.add_zero, hmark.field? (n := headerMark) (by decide),
    hflags, hmethod, hcrc, hpacked, hsize, hlength, hextra,
    hcomment.field? (n := 0) (by decide), hoffset.field? ho,
    hname.slice?_of_length (length_data_toList m.name), hrest, Option.bind_eq_bind,
    Option.bind_some, if_true, Member.headerAt, Member.decodedName, pack_data_toList]
  cases m.flags.testBit 11 <;> rfl

/-- What the directory says of a member in front of the directory is its entry. -/
theorem entryOfHeader_headerAt {m : Member} {place : DirectoryPlace} {offset : Nat} (index : Nat)
    (hmethod : m.method ≠ wrappedMethod) (hshift : place.shift = 0) (ho : offset < place.start) :
    entryOfHeader place (m.headerAt offset index) = .ok (m.entryAt offset) := by
  have hextras : ∀ facts, takeExtras 1 facts [] = .ok facts := fun facts => by
    rw [takeExtras, if_pos rfl]
  simp only [entryOfHeader, Member.headerAt, List.length_nil, Nat.zero_add, hextras, hshift,
    Nat.add_zero, bind, Except.bind]
  rw [if_neg (fun h => hmethod h.1)]
  simp only [pure, Except.pure]
  rw [if_neg (by omega)]
  rfl

/-- The data of a member whose local part stands at an offset starts behind the local header. -/
theorem dataStart?_of_stands {m : Member} {offset : Nat} (hm : m.Fits)
    (h : Stands bytes offset m.localPart.data.toList) :
    dataStart? bytes offset = some (offset + (30 + m.name.size)) := by
  rw [Member.localPart, Member.localHeader, ByteArray.toList_data_append,
    ByteArray.toList_data_append, pack_toList] at h
  simp only [stands_append, List.length_append, length_littleEndian, Nat.reduceAdd] at h
  obtain ⟨⟨⟨⟨hmark, -⟩, hshared⟩, -⟩, -⟩ := h
  obtain ⟨-, -, -, -, -, hlength, hextra⟩ := field?_sharedFields hm hshared
  simp only [Nat.add_assoc, Nat.reduceAdd] at hlength hextra
  simp only [dataStart?, hmark.field? (n := localMark) (by decide), hlength, hextra,
    Option.bind_eq_bind, Option.bind_some, if_true, Nat.add_zero, Nat.add_assoc]

namespace Member

/-- The data that a member holds, by its method. -/
def unpacked? (m : Member) : Option ByteArray :=
  if m.method = storedMethod then some m.packed
  else if m.method = deflatedMethod then inflate? m.packed
  else none

/-- A member holds data that a reader gets back: it is not encrypted, it is stored or deflated, and
its checksum is right. -/
structure Holds (m : Member) (data : ByteArray) : Prop where
  /-- The member is not encrypted. -/
  plain : m.flags.testBit 0 = false
  /-- The data comes out of the compressed data. -/
  unpacked : m.unpacked? = some data
  /-- The checksum is that of the data. -/
  checked : (crc32 data).toNat = m.crc

end Member

/-- Reading the entry of a member whose local part stands where the directory says gives the data
that the member holds. -/
theorem read_entryAt {m : Member} {offset : Nat} {data : ByteArray} (hm : m.Fits)
    (hd : m.Holds data) (h : Stands bytes offset m.localPart.data.toList) :
    (m.entryAt offset).read bytes = .ok data := by
  have hpart : bytes.extract (offset + (30 + m.name.size))
      (offset + (30 + m.name.size) + m.packed.size) = m.packed := by
    have h' := h
    rw [Member.localPart, ByteArray.toList_data_append, stands_append, length_data_toList,
      m.size_localHeader] at h'
    exact h'.2.extract
  have hcontent : (m.entryAt offset).content bytes = .ok data := by
    have hu := hd.unpacked
    simp only [Entry.content, Member.entryAt, hd.plain, dataStart?_of_stands hm h, hpart,
      Bool.false_eq_true, or_self, if_false]
    rw [Member.unpacked?] at hu
    split at hu
    · rw [if_pos ‹_›]
      exact congrArg _ (Option.some.inj hu)
    · rw [if_neg ‹_›]
      split at hu
      · rw [if_pos ‹_›, hu]
      · cases hu
  simp only [Entry.read, hcontent, bind, Except.bind]
  rw [if_pos (by exact hd.checked)]
  rfl

end InteractiveBook.Zip
