import InteractiveBook.Zip.Inflate
import InteractiveBook.Zip.Layout

/-!
# Deflating

Data may be compressed in any way that inflating undoes. The way of the program is to write the data
as blocks of bytes as they are, the last one marked; the compressed form is longer than the data by
five bytes for each block. Reading a block that stands at a byte gives the bytes of its part and goes
on right behind it, so the data read so far is always the start of the data that was deflated.
-/

namespace InteractiveBook.Zip

/-- A way to compress data that inflating undoes. -/
structure Deflater where
  /-- The compressed form of data at a level. -/
  deflate : Int → ByteArray → ByteArray
  /-- Inflating undoes deflating. -/
  inflate?_deflate : ∀ level data, inflate? (deflate level data) = some data

/-! ### Stored blocks -/

/-- The most bytes that one block holds. -/
def maxStored : Nat := 65535

/-- One block of at most the most bytes. -/
def storedBlock (final : Bool) (part : ByteArray) : ByteArray :=
  pack ((if final then 1 else 0) :: littleEndian 2 part.size
    ++ littleEndian 2 (maxStored - part.size)) ++ part

/-- The blocks of the data from an index on; the fuel bounds their number. -/
def storedFrom (bytes : ByteArray) : Nat → Nat → ByteArray → ByteArray
  | 0, _, out => out
  | fuel + 1, index, out =>
    if index + maxStored < bytes.size then
      storedFrom bytes fuel (index + maxStored)
        (out ++ storedBlock false (bytes.extract index (index + maxStored)))
    else out ++ storedBlock true (bytes.extract index bytes.size)

/-- Data as blocks of bytes as they are. -/
def storedBlocks (bytes : ByteArray) : ByteArray :=
  storedFrom bytes (bytes.size / maxStored + 1) 0 ByteArray.empty

variable {bytes : ByteArray} {index : Nat}

/-- The byte that stands at an index. -/
theorem Stands.getElem {b : UInt8} (h : Stands bytes index [b]) :
    ∃ hi : index < bytes.size, bytes[index] = b := by
  have hi : index < bytes.size := h.le_size
  obtain ⟨front, rest, h, rfl⟩ := h
  have hg : bytes.data.toList.get ⟨front.length, hi⟩ = b := by
    simp [h]
  exact ⟨hi, hg⟩

/-- A bit of the byte that stands at an index. -/
theorem Stands.bit? {b : UInt8} (h : Stands bytes index [b]) {k : Nat} (hk : k < 8) :
    bit? bytes (8 * index + k) = some (b.toNat >>> k &&& 1) := by
  obtain ⟨hi, hb⟩ := h.getElem
  have hd : (8 * index + k) / 8 = index := by omega
  have hm : (8 * index + k) % 8 = k := by omega
  simp only [Zip.bit?, hd, hm, hi, hb, dite_true]

/-- The mark in front of a block: one bit for the last block, and two zeros for its kind. -/
def blockMark (final : Bool) : UInt8 := if final then 1 else 0

/-- The bytes of a block: its mark, its length twice, and its part. -/
theorem storedBlock_toList (final : Bool) (part : ByteArray) :
    (storedBlock final part).data.toList = [blockMark final] ++ littleEndian 2 part.size
      ++ littleEndian 2 (maxStored - part.size) ++ part.data.toList := by
  rw [storedBlock, ByteArray.toList_data_append, pack_toList]
  rfl

/-- A block is five bytes longer than its part. -/
theorem size_storedBlock (final : Bool) (part : ByteArray) :
    (storedBlock final part).size = 5 + part.size := by
  rw [← length_data_toList, storedBlock_toList]
  simp [length_littleEndian]
  omega

/-- The length of a block and its part are read behind the mark. -/
theorem readStored?_of_stands {final : Bool} {part : ByteArray}
    (h : Stands bytes index (storedBlock final part).data.toList) (hp : part.size ≤ maxStored)
    (out : ByteArray) :
    readStored? bytes (8 * index + 3) out = some (out ++ part, 8 * (index + (5 + part.size))) := by
  have hm : maxStored = 65535 := rfl
  have hwidth : Nat.pow 256 2 = 65536 := rfl
  rw [storedBlock_toList] at h
  simp only [stands_append, List.length_append, length_littleEndian, List.length_singleton] at h
  obtain ⟨⟨⟨-, hl⟩, hi⟩, hd⟩ := h
  have hindex : (8 * index + 3 + 7) / 8 = index + 1 := by omega
  have hsum : part.size + (maxStored - part.size) = 0xffff := by omega
  simp only [readStored?, hindex, hl.field? (n := part.size) (by omega),
    hi.field? (n := maxStored - part.size) (by omega), Option.bind_eq_bind, Option.bind_some]
  simp only [Nat.add_assoc, Nat.reduceAdd] at hd ⊢
  rw [if_neg (by simp [hsum]), hd.slice?_of_length (length_data_toList part), pack_data_toList,
    Option.bind_some]

/-- Reading a block adds its part to the data and stops at the last block. -/
theorem inflateFrom?_of_stands {final : Bool} {part : ByteArray}
    (h : Stands bytes index (storedBlock final part).data.toList) (hp : part.size ≤ maxStored)
    (fuel : Nat) (out : ByteArray) :
    inflateFrom? bytes (fuel + 1) (8 * index) out =
      if final then some (out ++ part)
      else inflateFrom? bytes fuel (8 * (index + (5 + part.size))) (out ++ part) := by
  have hmark : Stands bytes index [blockMark final] := by
    rw [storedBlock_toList, List.append_assoc, List.append_assoc] at h
    exact (stands_append.1 h).1
  have hfinal : bit? bytes (8 * index) = some (if final then 1 else 0) := by
    rw [← Nat.add_zero (8 * index), hmark.bit? (by decide)]
    cases final <;> rfl
  have hkind : bits? bytes 2 (8 * index + 1) = some 0 := by
    simp only [bits?, hmark.bit? (k := 1) (by decide), Nat.add_assoc, Nat.reduceAdd,
      hmark.bit? (k := 2) (by decide)]
    cases final <;> rfl
  rw [inflateFrom?, hfinal, hkind]
  simp only [readBlock?, reduceIte, readStored?_of_stands h hp]
  cases final <;> simp

/-- Blocks are written behind the ones so far. -/
theorem storedFrom_append (data : ByteArray) (fuel start : Nat) (out : ByteArray) :
    storedFrom data fuel start out = out ++ storedFrom data fuel start ByteArray.empty := by
  induction fuel generalizing start out with
  | zero => simp [storedFrom]
  | succ fuel ih =>
    rw [storedFrom, storedFrom]
    split
    · rw [ih _ (out ++ _), ih _ (ByteArray.empty ++ _), ByteArray.empty_append,
        ByteArray.append_assoc]
    · rw [ByteArray.empty_append]

/-- The blocks from an index of the data on: a full one that is not the last, or the rest. -/
theorem storedFrom_succ (data : ByteArray) (fuel start : Nat) :
    storedFrom data (fuel + 1) start ByteArray.empty =
      if start + maxStored < data.size then
        storedBlock false (data.extract start (start + maxStored))
          ++ storedFrom data fuel (start + maxStored) ByteArray.empty
      else storedBlock true (data.extract start data.size) := by
  rw [storedFrom]
  split
  · rw [storedFrom_append, ByteArray.empty_append]
  · rw [ByteArray.empty_append]

/-- Blocks are no shorter than the data they hold. -/
theorem le_size_storedFrom (data : ByteArray) (fuel start : Nat)
    (h : data.size < start + fuel * maxStored) :
    data.size ≤ start + (storedFrom data fuel start ByteArray.empty).size := by
  have hm : maxStored = 65535 := rfl
  induction fuel generalizing start with
  | zero => omega
  | succ fuel ih =>
    rw [storedFrom_succ]
    split
    · have := ih (start + maxStored) (by rw [Nat.succ_mul] at h; omega)
      rw [ByteArray.size_append, size_storedBlock, ByteArray.size_extract]
      omega
    · rw [size_storedBlock, ByteArray.size_extract]
      omega

/-- Reading the blocks from an index of the data on, behind what was read before, gives all of the
data. -/
theorem inflateFrom?_storedFrom (data : ByteArray) (fuel start steps : Nat)
    (hs : start ≤ data.size) (hf : data.size < start + fuel * maxStored) (hn : fuel ≤ steps)
    (h : Stands bytes index (storedFrom data fuel start ByteArray.empty).data.toList) :
    inflateFrom? bytes steps (8 * index) (data.extract 0 start) = some data := by
  have hm : maxStored = 65535 := rfl
  induction fuel generalizing start steps index with
  | zero => omega
  | succ fuel ih =>
    obtain ⟨steps, rfl⟩ : ∃ n, steps = n + 1 := ⟨steps - 1, by omega⟩
    rw [storedFrom_succ] at h
    by_cases hl : start + maxStored < data.size
    · rw [if_pos hl, ByteArray.toList_data_append, stands_append] at h
      have hsize : (data.extract start (start + maxStored)).size = maxStored := by
        rw [ByteArray.size_extract]; omega
      rw [inflateFrom?_of_stands h.1 (by omega)]
      simp only [Bool.false_eq_true, if_false]
      rw [ByteArray.extract_append_extract, ← size_storedBlock false]
      have hmin : min 0 start = 0 ∧ max start (start + maxStored) = start + maxStored := by omega
      rw [hmin.1, hmin.2]
      exact ih (start + maxStored) steps (by omega) (by rw [Nat.succ_mul] at hf; omega)
        (by omega) h.2
    · rw [if_neg hl] at h
      have hsize : (data.extract start data.size).size ≤ maxStored := by
        rw [ByteArray.size_extract]; omega
      have hmin : min 0 start = 0 ∧ max start data.size = data.size := by omega
      rw [inflateFrom?_of_stands h hsize, if_pos rfl, ByteArray.extract_append_extract, hmin.1,
        hmin.2, ByteArray.extract_zero_size]

/-- Inflating blocks gives the data back. -/
theorem inflate?_storedBlocks (data : ByteArray) : inflate? (storedBlocks data) = some data := by
  have hm : maxStored = 65535 := rfl
  have hf : data.size < 0 + (data.size / maxStored + 1) * maxStored := by
    rw [hm]; omega
  have hl := le_size_storedFrom data _ 0 hf
  have hd : data.size / maxStored ≤ data.size := Nat.div_le_self _ _
  have h : Stands (storedBlocks data) 0 (storedBlocks data).data.toList := ⟨[], [], by simp, rfl⟩
  have := inflateFrom?_storedFrom data (data.size / maxStored + 1) 0
    (8 * (storedBlocks data).size + 1) (Nat.zero_le _) hf (by rw [storedBlocks]; omega) h
  rwa [ByteArray.extract_same] at this

/-- Blocks of bytes as they are, whatever the level. -/
def Deflater.stored : Deflater := ⟨fun _ => storedBlocks, fun _ => inflate?_storedBlocks⟩

end InteractiveBook.Zip
