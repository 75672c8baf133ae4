import InteractiveBook.Proofs.Zip.Header

/-!
# Finding the directory of a written archive

The end record of a written archive is the last one that could be read, and it leads to the
directory: directly while its fields suffice, and through the wide end record where the number of
entries overflows. With exactly as many entries as the overflow mark stands for, the end record does
not say which of the two holds, so that number is left out.
-/

namespace InteractiveBook.Zip

variable {bytes : ByteArray} {index : Nat}

/-- A field that would pass the end of the bytes is absent. -/
theorem field?_eq_none {width : Nat} (h : bytes.size < index + width) :
    field? bytes index width = none := by
  rw [field?, slice?, if_neg (by omega), Option.map_none]

/-- A mark that stands at an index before the limit is found there. -/
theorem findMark?_of_field? {mark limit fuel : Nat} (hf : 0 < fuel) (hl : index < limit)
    (h : field? bytes index 4 = some mark) :
    findMark? bytes mark limit fuel index = some index := by
  cases fuel with
  | zero => omega
  | succ fuel => rw [findMark?, if_neg (by omega), if_pos h]

/-- An end record that would pass the end of the bytes leads nowhere. -/
theorem entriesAt_of_short (h : bytes.size < index + 22) :
    entriesAt bytes index = .error .badEndRecord := by
  have hc : field? bytes (index + 20) 2 = none := field?_eq_none (by omega)
  have hp : directoryPlace? bytes index = none := by
    simp [directoryPlace?, hc]
  rw [entriesAt, hp]

/-- The search for an end record passes over the last twenty-one bytes. -/
theorem entriesBefore_of_short (start steps : Nat) (h : bytes.size < start + 22) :
    entriesBefore bytes (start + steps) = entriesBefore bytes start := by
  induction steps with
  | zero => rfl
  | succ steps ih =>
    rw [← Nat.add_assoc, entriesBefore, entriesAt_of_short (by omega)]
    split <;> exact ih

/-- A sound end record without a comment at the end of the bytes is the one that counts. -/
theorem entries_of_endRecord {es : List Entry} (hs : bytes.size = index + 22)
    (hm : field? bytes index 4 = some endMark) (he : entriesAt bytes index = .ok es) :
    entries bytes = .ok es := by
  have hstart : bytes.size - 3 = index + 1 + 18 := by omega
  rw [entries, hstart, entriesBefore_of_short (index + 1) 18 (by omega), entriesBefore, if_pos hm,
    he]

namespace Draft

/-- The wide end record with its locator takes seventy-six bytes. -/
theorem size_wideEnd (d : Draft) : d.wideEnd.size = 76 := by
  simp [wideEnd, length_littleEndian]

/-- The end record takes twenty-two bytes. -/
theorem size_endRecord (d : Draft) : d.endRecord.size = 22 := by
  simp [endRecord, length_littleEndian]

/-- Where the end record of the finished archive starts. -/
def endIndex (d : Draft) : Nat :=
  d.locals.size + d.headers.size + if d.isWide then 76 else 0

/-- The finished archive ends with the end record. -/
theorem size_finish (d : Draft) : d.finish.size = d.endIndex + 22 := by
  rw [finish, endIndex]
  split <;> simp [ByteArray.size_append, size_wideEnd, size_endRecord]

/-- The end record stands at its index. -/
theorem stands_endRecord (d : Draft) : Stands d.finish d.endIndex d.endRecord.data.toList := by
  refine ⟨(d.locals ++ d.headers
    ++ (if d.isWide then d.wideEnd else ByteArray.empty)).data.toList, [], by simp [finish], ?_⟩
  rw [length_data_toList, endIndex]
  split <;> simp [ByteArray.size_append, size_wideEnd]

/-- The wide end record stands behind the directory when it is written. -/
theorem stands_wideEnd {d : Draft} (hw : d.isWide = true) :
    Stands d.finish (d.locals.size + d.headers.size) d.wideEnd.data.toList := by
  refine ⟨(d.locals ++ d.headers).data.toList, d.endRecord.data.toList, by simp [finish, hw], ?_⟩
  rw [length_data_toList, ByteArray.size_append]

/-- The directory headers stand behind the local parts. -/
theorem stands_headers (d : Draft) : Stands d.finish d.locals.size d.headers.data.toList :=
  ⟨d.locals.data.toList, (if d.isWide then d.wideEnd else ByteArray.empty).data.toList
    ++ d.endRecord.data.toList, by simp [finish], rfl⟩

/-- The local parts stand at the start. -/
theorem stands_locals (d : Draft) : Stands d.finish 0 d.locals.data.toList :=
  ⟨[], d.headers.data.toList ++ ((if d.isWide then d.wideEnd else ByteArray.empty).data.toList
    ++ d.endRecord.data.toList), by simp [finish], rfl⟩

/-- The directory of an archive in the making holds as many headers as there are entries, each of
them with its mark. -/
structure Sound (d : Draft) : Prop where
  /-- A directory with entries starts with the mark of a header. -/
  marked : 0 < d.count → Stands d.finish d.locals.size (littleEndian 4 headerMark)
  /-- A header takes at least forty-six bytes. -/
  long : 46 * d.count ≤ d.headers.size
  /-- Without entries there is nothing. -/
  bare : d.count = 0 → d.locals.size = 0 ∧ d.headers.size = 0

/-- The fields of the end record that lead to the directory. -/
theorem field?_endRecord (d : Draft) :
    field? d.finish d.endIndex 4 = some endMark ∧
    field? d.finish (d.endIndex + 4) 2 = some 0 ∧
    field? d.finish (d.endIndex + 6) 2 = some 0 ∧
    field? d.finish (d.endIndex + 8) 2 = some (min d.count 0xffff) ∧
    field? d.finish (d.endIndex + 10) 2 = some (min d.count 0xffff) ∧
    field? d.finish (d.endIndex + 16) 4 = some (min d.locals.size overflow32) ∧
    field? d.finish (d.endIndex + 20) 2 = some 0 := by
  have h := d.stands_endRecord
  have ho : overflow32 = 4294967295 := rfl
  have hshort : Nat.pow 256 2 = 65536 := rfl
  have hlong : Nat.pow 256 4 = 4294967296 := rfl
  simp only [endRecord, pack_toList, stands_append, List.length_append, length_littleEndian,
    Nat.reduceAdd] at h
  obtain ⟨⟨⟨⟨⟨⟨⟨hmark, hdisk⟩, hstart⟩, hhere⟩, hcount⟩, -⟩, hlocals⟩, hcomment⟩ := h
  exact ⟨hmark.field? (by decide), hdisk.field? (by decide), hstart.field? (by decide),
    hhere.field? (by omega), hcount.field? (by omega), hlocals.field? (by omega),
    hcomment.field? (by decide)⟩

/-- The fields of the wide end record and of its locator. -/
theorem field?_wideEnd {d : Draft} (hw : d.isWide = true) (hs : d.finish.size < 2 ^ 32)
    (hc : d.count < 2 ^ 32) :
    let i := d.locals.size + d.headers.size
    field? d.finish i 4 = some wideEndMark ∧ field? d.finish (i + 4) 8 = some 44 ∧
    field? d.finish (i + 12) 2 = some 45 ∧ field? d.finish (i + 14) 2 = some 45 ∧
    field? d.finish (i + 16) 4 = some 0 ∧ field? d.finish (i + 20) 4 = some 0 ∧
    field? d.finish (i + 24) 8 = some d.count ∧ field? d.finish (i + 32) 8 = some d.count ∧
    field? d.finish (i + 48) 8 = some d.locals.size ∧
    field? d.finish (i + 56) 4 = some wideLocatorMark ∧ field? d.finish (i + 60) 4 = some 0 ∧
    field? d.finish (i + 64) 8 = some i ∧ field? d.finish (i + 72) 4 = some 1 := by
  have h := stands_wideEnd hw
  have he := d.size_finish
  have hwide : Nat.pow 256 8 = 18446744073709551616 := rfl
  rw [endIndex] at he
  simp only [wideEnd, pack_toList, stands_append, List.length_append, length_littleEndian,
    Nat.reduceAdd] at h
  obtain ⟨⟨⟨⟨⟨⟨⟨⟨⟨⟨⟨⟨⟨hmark, hsize⟩, hmade⟩, hneeded⟩, hdisk⟩, hstart⟩, hhere⟩, hcount⟩, -⟩,
    hlocals⟩, hlocator⟩, hlocatorDisk⟩, htarget⟩, hdisks⟩ := h
  exact ⟨hmark.field? (by decide), hsize.field? (by decide), hmade.field? (by decide),
    hneeded.field? (by decide), hdisk.field? (by decide), hstart.field? (by decide),
    hhere.field? (by omega), hcount.field? (by omega), hlocals.field? (by omega),
    hlocator.field? (by decide), hlocatorDisk.field? (by decide), htarget.field? (by omega),
    hdisks.field? (by decide)⟩

/-- The place of the directory of a finished archive, its offsets not shifted. -/
def place (d : Draft) : DirectoryPlace := ⟨0, d.locals.size, d.count⟩

/-- With few entries the end record itself leads to the directory. -/
theorem directoryPlace?_finish_of_few {d : Draft} (hd : d.Sound) (hs : d.finish.size < 2 ^ 32)
    (hc : d.count < 0xffff) : directoryPlace? d.finish d.endIndex = some d.place := by
  have ho : overflow32 = 4294967295 := rfl
  have hsize := d.size_finish
  have hlong := hd.long
  have hnarrow : d.isWide = false := by
    simp only [endIndex] at hsize
    simp [isWide]
    omega
  simp only [endIndex, hnarrow, Bool.false_eq_true, if_false, Nat.add_zero] at hsize
  obtain ⟨-, hdisk, hstartDisk, hhere, hcount, hlocals, hcomment⟩ := d.field?_endRecord
  rw [show min d.count 0xffff = d.count by omega] at hhere hcount
  rw [show min d.locals.size overflow32 = d.locals.size by omega] at hlocals
  have hend : d.endIndex = d.locals.size + d.headers.size := by simp [endIndex, hnarrow]
  have hwide : ¬(d.count = 0xffff ∨ d.locals.size = overflow32) := by omega
  have hrest : slice? d.finish (d.endIndex + 22) 0 = some ByteArray.empty :=
    slice?_zero (Nat.le_of_eq d.size_finish.symm)
  simp only [directoryPlace?, hdisk, hstartDisk, hhere, hcount, hlocals, hcomment, hrest,
    Option.bind_eq_bind, Option.bind_some, if_neg hwide, ne_eq, not_true_eq_false, if_false]
  by_cases h0 : d.count = 0
  · obtain ⟨hl, hh⟩ := hd.bare h0
    rw [if_pos h0, hend, hl, hh, place, hl, h0]
  · have hfound : findMark? d.finish headerMark d.endIndex (d.endIndex - d.locals.size)
        d.locals.size = some d.locals.size :=
      findMark?_of_field? (by omega) (by omega) ((hd.marked (by omega)).field? (by decide))
    rw [if_neg h0, if_neg (by omega), hfound]
    simp [place]

/-- With many entries the end record leads to the wide one, and that to the directory. -/
theorem directoryPlace?_finish_of_many {d : Draft} (hd : d.Sound) (hs : d.finish.size < 2 ^ 32)
    (hc : 0xffff < d.count) : directoryPlace? d.finish d.endIndex = some d.place := by
  have hsize := d.size_finish
  have hlong := hd.long
  have hwide : d.isWide = true := by simp [isWide, hc]
  have hend : d.endIndex = d.locals.size + d.headers.size + 76 := by simp [endIndex, hwide]
  obtain ⟨-, hdisk, hstartDisk, hhere, hcount, hlocals, hcomment⟩ := d.field?_endRecord
  rw [show min d.count 0xffff = 0xffff by omega] at hhere hcount
  obtain ⟨hmark, hwideSize, hmade, hneeded, hwideDisk, hwideStart, hwideHere, hwideCount,
    hwideLocals, hlocator, hlocatorDisk, htarget, hdisks⟩ :=
    field?_wideEnd hwide hs (by omega)
  have hrest : slice? d.finish (d.endIndex + 22) 0 = some ByteArray.empty :=
    slice?_zero (Nat.le_of_eq d.size_finish.symm)
  have hfound : wideLocator? d.finish d.endIndex =
      some (0, d.locals.size + d.headers.size, 1) := by
    rw [wideLocator?, show d.endIndex - 20 = d.locals.size + d.headers.size + 56 by omega,
      show d.endIndex - 16 = d.locals.size + d.headers.size + 60 by omega,
      show d.endIndex - 12 = d.locals.size + d.headers.size + 64 by omega,
      show d.endIndex - 4 = d.locals.size + d.headers.size + 72 by omega,
      if_neg (by rw [hlocator]; simp; omega)]
    simp [hlocatorDisk, htarget, hdisks]
  have hplace : findWidePlace? d.finish 0 (d.locals.size + d.headers.size) (d.endIndex - 20)
      56 (d.locals.size + d.headers.size) = some d.place := by
    rw [findWidePlace?, findMark?_of_field? (by omega) (by omega) hmark]
    simp only [widePlace?, hwideSize, hmade, hneeded, hwideDisk, hwideStart, hwideHere, hwideCount,
      hwideLocals, Option.bind_eq_bind, Option.bind_some]
    rw [if_neg (by omega), if_neg (by omega)]
    simp [place]
  simp only [directoryPlace?, hdisk, hstartDisk, hhere, hcount, hlocals, hcomment, hrest, hfound,
    Option.bind_eq_bind, Option.bind_some, true_or, if_true]
  rw [if_neg (by omega), show d.endIndex - 20 - (d.locals.size + d.headers.size) = 56 by omega,
    hplace]

/-- The end record of a finished archive leads to its directory. -/
theorem directoryPlace?_finish {d : Draft} (hd : d.Sound) (hs : d.finish.size < 2 ^ 32)
    (hc : d.count ≠ 0xffff) : directoryPlace? d.finish d.endIndex = some d.place := by
  rcases Nat.lt_or_gt_of_ne hc with h | h
  · exact directoryPlace?_finish_of_few hd hs h
  · exact directoryPlace?_finish_of_many hd hs h

/-- The entries of a finished archive are those of its directory, repeated names taken together. -/
theorem entries_finish {d : Draft} (hd : d.Sound) (hs : d.finish.size < 2 ^ 32)
    (hc : d.count ≠ 0xffff) {es : List Entry}
    (he : entriesFrom d.finish d.place d.count d.locals.size = .ok es) :
    entries d.finish = .ok (es.foldl addEntry []) := by
  refine entries_of_endRecord d.size_finish d.field?_endRecord.1 ?_
  have h : entriesFrom d.finish d.place d.place.count d.place.start = .ok es := he
  rw [entriesAt, directoryPlace?_finish hd hs hc]
  simp only [h, Except.map]

end Draft

end InteractiveBook.Zip
