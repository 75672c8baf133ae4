import InteractiveBook.Zip.Directory
import Mathlib.Logic.Basic

/-!
# Entries that can be read

An entry can be read when its data is intact: neither encrypted nor packed with a method that is
not supported, and equal to what was packed by its checksum.
-/

namespace InteractiveBook.Zip

/-- What the packed data of an entry stands for, by one of the two methods that are supported. -/
def Entry.Unpacks (e : Entry) (packed data : ByteArray) : Prop :=
  (e.method = storedMethod ∧ packed = data) ∨
    (e.method = deflatedMethod ∧ inflate? packed = some data)

/-- An entry whose data is sound. -/
structure Entry.Intact (bytes : ByteArray) (e : Entry) : Prop where
  /-- The entry is not encrypted. -/
  plain : e.encrypted = false
  /-- Its method is not hidden behind another one. -/
  bare : e.wrapped = false
  /-- Behind its local header stands packed data, of which the checksum is right. -/
  sound : ∃ start data, dataStart? bytes e.start = some start ∧
    e.Unpacks (bytes.extract start (start + e.compressedSize)) data ∧
      (crc32 data).toNat = e.crc

/-- The data of an entry is what stands behind its local header, unpacked. -/
theorem Entry.content_eq_ok_iff {bytes data : ByteArray} {e : Entry} :
    e.content bytes = .ok data ↔ e.encrypted = false ∧ e.wrapped = false ∧
      ∃ start, dataStart? bytes e.start = some start ∧
        e.Unpacks (bytes.extract start (start + e.compressedSize)) data := by
  rw [Entry.content]
  by_cases hplain : e.encrypted = true ∨ e.wrapped = true
  · rw [if_pos hplain]
    rcases hplain with h | h <;> simp [h]
  rw [if_neg hplain]
  simp only [not_or, Bool.not_eq_true] at hplain
  simp only [hplain.1, hplain.2, true_and]
  cases dataStart? bytes e.start with
  | none => simp
  | some start =>
    simp only [Option.some.injEq, exists_eq_left', Entry.Unpacks]
    have hmethods : storedMethod ≠ deflatedMethod := by decide
    by_cases hstored : e.method = storedMethod
    · simp [hstored, hmethods]
    · rw [if_neg hstored]
      by_cases hdeflated : e.method = deflatedMethod
      · rw [if_pos hdeflated]
        cases inflate? (bytes.extract start (start + e.compressedSize)) <;>
          simp [hdeflated, hmethods.symm]
      · simp [hstored, hdeflated]

/-- What is read is the data of the entry, if it has the checksum. -/
theorem Entry.read_eq_ok_iff {bytes data : ByteArray} {e : Entry} :
    e.read bytes = .ok data ↔ e.content bytes = .ok data ∧ (crc32 data).toNat = e.crc := by
  rw [Entry.read]
  cases e.content bytes with
  | error f => simp [bind, Except.bind]
  | ok content =>
    simp only [bind, Except.bind, Except.ok.injEq]
    split
    · next hcrc =>
      constructor
      · intro h
        obtain rfl := Except.ok.inj h
        exact ⟨rfl, hcrc⟩
      · rintro ⟨rfl, -⟩
        rfl
    · next hcrc =>
      constructor
      · intro h
        cases h
      · rintro ⟨rfl, h⟩
        exact absurd h hcrc

/-- An entry can be read exactly when it is intact. -/
theorem Entry.read_isOk_iff {bytes : ByteArray} {e : Entry} :
    (∃ data, e.read bytes = .ok data) ↔ e.Intact bytes := by
  constructor
  · rintro ⟨data, h⟩
    obtain ⟨hcontent, hcrc⟩ := Entry.read_eq_ok_iff.1 h
    obtain ⟨hplain, hbare, start, hstart, hunpacks⟩ := Entry.content_eq_ok_iff.1 hcontent
    exact ⟨hplain, hbare, start, data, hstart, hunpacks, hcrc⟩
  · rintro ⟨hplain, hbare, start, data, hstart, hunpacks, hcrc⟩
    have hcontent : e.content bytes = .ok data :=
      Entry.content_eq_ok_iff.2 ⟨hplain, hbare, start, hstart, hunpacks⟩
    exact ⟨data, Entry.read_eq_ok_iff.2 ⟨hcontent, hcrc⟩⟩

/-- Why an entry cannot be read, if it cannot. -/
def Entry.fault? (bytes : ByteArray) (e : Entry) : Option Fault :=
  match e.read bytes with
  | .ok _ => none
  | .error f => some f

/-- The fault of the first entry that cannot be read, if there is one. -/
def firstFault? (bytes : ByteArray) (es : List Entry) : Option Fault :=
  es.findSome? (Entry.fault? bytes)

/-- Nothing is wrong with entries that are intact. -/
theorem firstFault?_eq_none_iff {bytes : ByteArray} {es : List Entry} :
    firstFault? bytes es = none ↔ ∀ e ∈ es, e.Intact bytes := by
  rw [firstFault?, List.findSome?_eq_none_iff]
  refine forall₂_congr fun e _ => ?_
  rw [← Entry.read_isOk_iff, Entry.fault?]
  cases e.read bytes <;> simp

end InteractiveBook.Zip
