import InteractiveBook.Zip.Field

/-!
# Where parts of an archive stand

A part stands at an index when its bytes are the ones from there on. Parts written one behind the
other stand one behind the other, so the fields of a written header are read off by their widths
alone and no stretch of bytes is ever evaluated.
-/

namespace InteractiveBook.Zip

/-- The bytes from an index on begin with the given ones. -/
def Stands (bytes : ByteArray) (index : Nat) (part : List UInt8) : Prop :=
  ∃ front rest, bytes.data.toList = front ++ part ++ rest ∧ front.length = index

variable {bytes : ByteArray} {index : Nat}

/-- Packed bytes are listed as they were. -/
@[simp] theorem pack_toList (part : List UInt8) : (pack part).data.toList = part := rfl

/-- Packing what bytes list gives them back. -/
@[simp] theorem pack_data_toList (b : ByteArray) : pack b.data.toList = b := rfl

/-- Bytes are as many as they list. -/
@[simp] theorem length_data_toList (b : ByteArray) : b.data.toList.length = b.size := rfl

/-- Packed bytes are as many as the list. -/
@[simp] theorem size_pack (part : List UInt8) : (pack part).size = part.length := rfl

/-- Two parts stand at an index when the second stands behind the first. -/
theorem stands_append {a b : List UInt8} :
    Stands bytes index (a ++ b) ↔ Stands bytes index a ∧ Stands bytes (index + a.length) b := by
  constructor
  · rintro ⟨front, rest, h, rfl⟩
    exact ⟨⟨front, b ++ rest, by simp [h], rfl⟩, front ++ a, rest, by simp [h], by simp⟩
  · rintro ⟨⟨front, rest, h, rfl⟩, front', rest', h', hl⟩
    have hf : front ++ a = front' ∧ rest = b ++ rest' := by
      refine List.append_inj ?_ (by simp [hl])
      rw [← h, h', List.append_assoc]
    exact ⟨front, rest', by rw [h, hf.2]; simp, rfl⟩

/-- What stands somewhere ends within the bytes. -/
theorem Stands.le_size {part : List UInt8} (h : Stands bytes index part) :
    index + part.length ≤ bytes.size := by
  obtain ⟨front, rest, h, rfl⟩ := h
  rw [← length_data_toList, h]
  simp

/-- What stands at an index is what is cut out there. -/
theorem Stands.extract {part : List UInt8} (h : Stands bytes index part) :
    bytes.extract index (index + part.length) = pack part := by
  obtain ⟨front, rest, h, rfl⟩ := h
  apply ByteArray.ext
  apply Array.ext'
  rw [ByteArray.data_extract, Array.toList_extract, h]
  simp

/-- What stands at an index is a slice. -/
theorem Stands.slice? {part : List UInt8} (h : Stands bytes index part) :
    slice? bytes index part.length = some (pack part) := by
  rw [Zip.slice?, if_pos h.le_size, h.extract]

/-- The slice of a known length that stands at an index. -/
theorem Stands.slice?_of_length {part : List UInt8} {n : Nat} (h : Stands bytes index part)
    (hn : part.length = n) : Zip.slice? bytes index n = some (pack part) := by
  rw [← hn, h.slice?]

/-- A number that stands at an index is the field there, if it fits its width. -/
theorem Stands.field? {width n : Nat} (h : Stands bytes index (littleEndian width n))
    (hn : n < Nat.pow 256 width) : field? bytes index width = some n := by
  rw [Zip.field?, h.slice?_of_length (length_littleEndian width n)]
  simp [number_littleEndian hn]

end InteractiveBook.Zip
