import InteractiveBook.Proofs.Zip.RoundTrip

/-!
# The size of an archive

The bytes that an archive takes are bounded by the names and the data of its entries: each entry
adds two headers with its name, and its data with five bytes for each block of the compressed form.
-/

namespace InteractiveBook.Zip

/-- The most bytes that the compressed form of so many bytes takes. -/
def deflatedBound (n : Nat) : Nat := n + 5 * (n / maxStored + 1)

/-- The most bytes that an entry adds to an archive. -/
def NewEntry.sizeBound (e : NewEntry) : Nat :=
  76 + 2 * (Text.bytesOf e.writtenName).size + deflatedBound e.data.size

/-- Every block that is still allowed adds its bytes of the data and five more. -/
theorem size_storedFrom_le (bytes : ByteArray) (fuel index : Nat) (out : ByteArray) :
    (storedFrom bytes fuel index out).size ≤ out.size + (bytes.size - index) + 5 * fuel := by
  induction fuel generalizing index out with
  | zero =>
    rw [storedFrom]
    omega
  | succ fuel ih =>
    rw [storedFrom]
    split
    · have hnext := ih (index + maxStored)
        (out ++ storedBlock false (bytes.extract index (index + maxStored)))
      rw [ByteArray.size_append, size_storedBlock, ByteArray.size_extract] at hnext
      omega
    · rw [ByteArray.size_append, size_storedBlock, ByteArray.size_extract]
      omega

/-- The compressed form is longer than the data by at most five bytes for each block. -/
theorem size_storedBlocks_le (data : ByteArray) :
    (storedBlocks data).size ≤ deflatedBound data.size := by
  have h := size_storedFrom_le data (data.size / maxStored + 1) 0 ByteArray.empty
  rw [ByteArray.size_empty] at h
  rw [storedBlocks, deflatedBound]
  omega

/-- The data of the member of an entry takes no more bytes than its compressed form may take. -/
theorem packed_le_of_member {level : Int} {e : NewEntry} {m : Member}
    (h : e.member .stored level = .ok m) : m.name = Text.bytesOf e.writtenName ∧
      m.packed.size ≤ deflatedBound e.data.size := by
  have hempty : ByteArray.empty.size ≤ deflatedBound e.data.size := Nat.zero_le _
  have hstored : e.data.size ≤ deflatedBound e.data.size := by
    rw [deflatedBound]
    omega
  obtain ⟨-, hcases⟩ := NewEntry.member_eq_ok_iff.1 h
  rcases hcases with ⟨-, rfl⟩ | ⟨-, -, rfl⟩ | ⟨-, -, -, rfl⟩
  · exact ⟨rfl, hempty⟩
  · exact ⟨rfl, hstored⟩
  · exact ⟨rfl, size_storedBlocks_le e.data⟩

/-- The headers and the data of the members take no more bytes than their entries may take. -/
theorem length_localsOf_headersFrom_le {level : Int} {es : List NewEntry} {ms : List Member}
    (h : List.Forall₂ (fun (e : NewEntry) m => e.member .stored level = .ok m) es ms) (offset : Nat) :
    (localsOf ms).length + (headersFrom offset ms).length ≤ (es.map NewEntry.sizeBound).sum := by
  induction h generalizing offset with
  | nil => simp [localsOf, headersFrom]
  | @cons e m es ms hem _ ih =>
    obtain ⟨hname, hpacked⟩ := packed_le_of_member hem
    have hrest := ih (offset + m.localPart.size)
    have hlocal := m.size_localPart
    have hl : (localsOf (m :: ms)).length = m.localPart.size + (localsOf ms).length := by
      simp [localsOf]
    rw [hname] at hlocal
    rw [hl, headersFrom, List.length_append, length_data_toList, m.size_directoryHeader, hname,
      List.map_cons, List.sum_cons, NewEntry.sizeBound]
    omega

/-- An archive takes no more bytes than its entries may take and ninety-eight for the end. -/
theorem size_write_le {level : Int} {es : List NewEntry} {bytes : ByteArray}
    (h : write .stored level es = .ok bytes) : bytes.size ≤ (es.map NewEntry.sizeBound).sum + 98 := by
  obtain ⟨ms, hms, -, rfl⟩ := write_eq_ok h
  obtain ⟨hl, hh, -⟩ := draftOf_spec ms
  have hbound := length_localsOf_headersFrom_le hms 0
  rw [← hl, ← hh, length_data_toList, length_data_toList] at hbound
  rw [Draft.size_finish, Draft.endIndex]
  split <;> omega

end InteractiveBook.Zip
