import InteractiveBook.Proofs.Zip.EndRecord

/-!
# Reading back a written archive

An archive that was written from entries is read back as those entries: with the names under which
they were written, in the same order, and each with the data that was written. The step is one
member, whose headers stand where the members before it end; the run goes over all of them.
-/

namespace InteractiveBook.Zip

variable {bytes : ByteArray} {index : Nat}

/-- The local parts of members in turn. -/
def localsOf (ms : List Member) : List UInt8 := ms.flatMap fun m => m.localPart.data.toList

/-- The directory headers of members whose local parts start at an offset. -/
def headersFrom : Nat → List Member → List UInt8
  | _, [] => []
  | offset, m :: ms =>
    (m.directoryHeader offset).data.toList ++ headersFrom (offset + m.localPart.size) ms

/-- The entries of members whose local parts start at an offset. -/
def entriesOf : Nat → List Member → List Entry
  | _, [] => []
  | offset, m :: ms => m.entryAt offset :: entriesOf (offset + m.localPart.size) ms

/-- Members are added behind what an archive in the making holds. -/
theorem foldl_add (d : Draft) (ms : List Member) :
    (ms.foldl Draft.add d).locals.data.toList = d.locals.data.toList ++ localsOf ms ∧
    (ms.foldl Draft.add d).headers.data.toList =
      d.headers.data.toList ++ headersFrom d.locals.size ms ∧
    (ms.foldl Draft.add d).count = d.count + ms.length := by
  induction ms generalizing d with
  | nil => simp [localsOf, headersFrom]
  | cons m ms ih =>
    obtain ⟨hl, hh, hc⟩ := ih (d.add m)
    rw [List.foldl_cons, hl, hh, hc]
    refine ⟨?_, ?_, ?_⟩
    · simp [Draft.add, localsOf]
    · simp [Draft.add, headersFrom]
    · simp only [Draft.add, List.length_cons]
      omega

/-- Every directory header takes at least forty-six bytes. -/
theorem length_headersFrom (offset : Nat) (ms : List Member) :
    46 * ms.length ≤ (headersFrom offset ms).length := by
  induction ms generalizing offset with
  | nil => simp [headersFrom]
  | cons m ms ih =>
    have := ih (offset + m.localPart.size)
    rw [headersFrom, List.length_append, length_data_toList, m.size_directoryHeader,
      List.length_cons]
    omega

/-- A directory with headers starts with the mark of a header. -/
theorem stands_headerMark {offset : Nat} {m : Member} {ms : List Member}
    (h : Stands bytes index (headersFrom offset (m :: ms))) :
    Stands bytes index (littleEndian 4 headerMark) := by
  have hh := (stands_append.1 h).1
  rw [Member.directoryHeader, ByteArray.toList_data_append, pack_toList] at hh
  simp only [stands_append] at hh
  exact hh.1.1.1.1.1.1.1.1.1

/-- The headers of members are read back as their entries, each header behind the one before it. -/
theorem entriesFrom_of_stands {place : DirectoryPlace} (hshift : place.shift = 0)
    (hplace : place.start < 2 ^ 32) (ms : List Member) (offset index : Nat)
    (hm : ∀ m ∈ ms, m.Fits ∧ m.method ≠ wrappedMethod)
    (ho : offset + (localsOf ms).length ≤ place.start)
    (h : Stands bytes index (headersFrom offset ms)) :
    entriesFrom bytes place ms.length index = .ok (entriesOf offset ms) := by
  induction ms generalizing offset index with
  | nil => rfl
  | cons m ms ih =>
    rw [headersFrom, stands_append, length_data_toList, m.size_directoryHeader] at h
    have hsize := m.size_localPart
    have hl : (localsOf (m :: ms)).length = m.localPart.size + (localsOf ms).length := by
      simp [localsOf]
    obtain ⟨hfits, hmethod⟩ := hm m List.mem_cons_self
    have hentry : entryOfHeader place (m.headerAt offset index) = .ok (m.entryAt offset) :=
      entryOfHeader_headerAt index hmethod hshift (by omega)
    have hrest := ih (offset + m.localPart.size) (index + (46 + m.name.size))
      (fun n hn => hm n (List.mem_cons_of_mem m hn)) (by omega) h.2
    rw [List.length_cons, entriesFrom, header?_of_stands hfits (by omega) h.1]
    simp only [hentry, bind, Except.bind, pure, Except.pure]
    rw [show (m.headerAt offset index).next = index + (46 + m.name.size) from rfl, hrest]
    rfl

/-- Every member that holds data is read back from where the directory says it starts. -/
theorem read_entriesOf (ms : List Member) (ds : List ByteArray) (offset : Nat)
    (hm : List.Forall₂ (fun m d => m.Fits ∧ m.Holds d) ms ds)
    (h : Stands bytes offset (localsOf ms)) :
    List.Forall₂ (fun (e : Entry) d => e.read bytes = .ok d) (entriesOf offset ms) ds := by
  induction hm generalizing offset with
  | nil => exact .nil
  | @cons m d ms ds hmd _ ih =>
    rw [localsOf, List.flatMap_cons, stands_append, length_data_toList] at h
    exact .cons (read_entryAt hmd.1 hmd.2 h.1) (ih _ h.2)

/-- The entries of members have the names that a reader decodes. -/
theorem map_name_entriesOf (offset : Nat) (ms : List Member) :
    (entriesOf offset ms).map (·.name) = ms.map Member.decodedName := by
  induction ms generalizing offset with
  | nil => rfl
  | cons m ms ih => rw [entriesOf, List.map_cons, ih, List.map_cons]; rfl

/-- Entries without a repeated name are all kept, in their order. -/
theorem foldl_addEntry (old es : List Entry) (h : ((old ++ es).map (·.name)).Nodup) :
    es.foldl addEntry old = old ++ es := by
  induction es generalizing old with
  | nil => simp
  | cons e es ih =>
    have hnew : (old.any fun o => o.name = e.name) = false := by
      rw [List.map_append, List.nodup_append] at h
      rw [List.any_eq_false]
      intro o ho
      have := h.2.2 o.name (List.mem_map_of_mem ho) e.name (by simp)
      simpa using this
    rw [List.foldl_cons, addEntry, hnew]
    simp only [Bool.false_eq_true, if_false]
    rw [ih (old ++ [e]) (by simpa using h)]
    simp

/-- Working through a list succeeds with the results of its items in turn. -/
theorem mapM_eq_ok_iff {ε α β : Type} (f : α → Except ε β) (as : List α) (bs : List β) :
    as.mapM f = .ok bs ↔ List.Forall₂ (fun a b => f a = .ok b) as bs := by
  induction as generalizing bs with
  | nil =>
    rw [List.mapM_nil, List.forall₂_nil_left_iff]
    exact ⟨fun h => (Except.ok.inj h).symm, fun h => congrArg _ h.symm⟩
  | cons a as ih =>
    rw [List.mapM_cons, List.forall₂_cons_left_iff]
    cases hf : f a with
    | error e => simp [bind, Except.bind]
    | ok b =>
      cases hr : as.mapM f with
      | error e => simp [bind, Except.bind, ← ih, hr]
      | ok rest =>
        simp only [bind, Except.bind, pure, Except.pure, Except.ok.injEq, ← ih, hr]
        constructor
        · rintro rfl
          exact ⟨b, rest, rfl, rfl, rfl⟩
        · rintro ⟨_, _, rfl, rfl, rfl⟩
          rfl

/-- A relation between the items of two lists may use that they are items. -/
theorem forall₂_imp_mem {α β : Type} {R S : α → β → Prop} {as : List α} {bs : List β}
    (h : ∀ a ∈ as, ∀ b ∈ bs, R a b → S a b) (hr : List.Forall₂ R as bs) :
    List.Forall₂ S as bs := by
  rw [List.forall₂_iff_zip] at hr ⊢
  refine ⟨hr.1, fun hab => ?_⟩
  obtain ⟨ha, hb⟩ := List.of_mem_zip hab
  exact h _ ha _ hb (hr.2 hab)

/-- Two relations between the items of two lists hold together. -/
theorem forall₂_and {α β : Type} {R S : α → β → Prop} {as : List α} {bs : List β}
    (hr : List.Forall₂ R as bs) (hs : List.Forall₂ S as bs) :
    List.Forall₂ (fun a b => R a b ∧ S a b) as bs := by
  rw [List.forall₂_iff_zip] at hr hs ⊢
  exact ⟨hr.1, fun hab => ⟨hr.2 hab, hs.2 hab⟩⟩

namespace NewEntry

/-- The data that is written for an entry: that of a folder is not. -/
def writtenData (e : NewEntry) : ByteArray := if e.isFolder then ByteArray.empty else e.data

/-- The flags of a name say how a reader gets it back from its bytes. -/
theorem decode_flagsOf (name : String) :
    (if (flagsOf name).testBit 11 then Text.decodeLenient else Text.decode437)
      (Text.bytesOf name).data.toList = name := by
  by_cases h : name.toList.all fun c => decide (c.toNat < 0x80)
  · rw [flagsOf, if_pos h]
    exact Text.decode437_bytesOf (by simpa using h)
  · rw [flagsOf, if_neg h]
    exact Text.decodeLenient_bytesOf name

/-- The flags of a name take two bytes and do not say that the entry is encrypted. -/
theorem flagsOf_plain (name : String) :
    flagsOf name < 65536 ∧ (flagsOf name).testBit 0 = false := by
  rw [flagsOf]
  split <;> exact ⟨by decide, by decide⟩

/-- The checksum of no data is zero. -/
theorem crc32_empty : (crc32 ByteArray.empty).toNat = 0 := by decide

/-- An entry is written when its name is not too long and, for a file, the level is supported: a
folder without data, a file as it is at the levels up to zero and deflated at those above. -/
theorem member_eq_ok_iff {z : Deflater} {level : Int} {e : NewEntry} {m : Member} :
    e.member z level = .ok m ↔ (Text.bytesOf e.writtenName).size ≤ maxNameLength ∧
      (e.isFolder = true ∧ m = ⟨Text.bytesOf e.writtenName, fullVersion, flagsOf e.writtenName,
          storedMethod, 0, ByteArray.empty, 0, folderMode⟩ ∨
        e.isFolder = false ∧ level ≤ 0 ∧ m = ⟨Text.bytesOf e.writtenName, storedVersion,
          flagsOf e.writtenName, storedMethod, (crc32 e.data).toNat, e.data, e.data.size,
          fileMode⟩ ∨
        e.isFolder = false ∧ 0 < level ∧ level ≤ maxLevel ∧ m = ⟨Text.bytesOf e.writtenName,
          fullVersion, flagsOf e.writtenName, deflatedMethod, (crc32 e.data).toNat,
          z.deflate level e.data, e.data.size, fileMode⟩) := by
  rw [member]
  by_cases hlong : maxNameLength < (Text.bytesOf e.writtenName).size
  · rw [if_pos hlong]
    exact ⟨fun h => (by cases h), fun h => absurd h.1 (by omega)⟩
  rw [if_neg hlong, and_iff_right (by omega)]
  cases hf : e.isFolder with
  | true =>
    rw [if_pos rfl]
    simp [eq_comm, pure, Except.pure]
  | false =>
    rw [if_neg (by decide)]
    by_cases hstored : level ≤ 0
    · have hlow : ¬0 < level := by omega
      rw [if_pos hstored]
      simp [hstored, hlow, eq_comm, pure, Except.pure]
    rw [if_neg hstored]
    have hlow : 0 < level := by omega
    by_cases hlevel : level > maxLevel
    · have hhigh : ¬level ≤ maxLevel := by omega
      rw [if_pos hlevel]
      simp [hstored, hhigh, throw, throwThe, MonadExceptOf.throw]
    · have hhigh : level ≤ maxLevel := by omega
      rw [if_neg hlevel]
      simp [hstored, hlow, hhigh, eq_comm, pure, Except.pure]

/-- The member of an entry keeps its name, and holds the data that is written for it. -/
theorem member_spec {z : Deflater} {level : Int} {e : NewEntry} {m : Member}
    (h : e.member z level = .ok m) (hd : e.data.size < 2 ^ 32) (hp : m.packed.size < 2 ^ 32) :
    m.Fits ∧ m.Holds e.writtenData ∧ m.decodedName = e.writtenName := by
  have hflags := flagsOf_plain e.writtenName
  have hcrc := (crc32 e.data).toNat_lt
  have hname := decode_flagsOf e.writtenName
  have hmethods : storedMethod < 65536 ∧ deflatedMethod < 65536 := by decide
  have hzero : 0 < 4294967296 := by decide
  obtain ⟨hshort, hcases⟩ := member_eq_ok_iff.1 h
  have hlen : (Text.bytesOf e.writtenName).size < 65536 := by
    rw [maxNameLength] at hshort
    omega
  rw [writtenData]
  rcases hcases with ⟨hf, rfl⟩ | ⟨hf, -, rfl⟩ | ⟨hf, -, -, rfl⟩
  · rw [if_pos hf]
    exact ⟨⟨hflags.1, hmethods.1, hzero, hzero, hzero, hlen⟩,
      ⟨hflags.2, rfl, crc32_empty⟩, hname⟩
  · rw [if_neg (by rw [hf]; decide)]
    exact ⟨⟨hflags.1, hmethods.1, hcrc, hd, hd, hlen⟩, ⟨hflags.2, rfl, rfl⟩, hname⟩
  · rw [if_neg (by rw [hf]; decide)]
    exact ⟨⟨hflags.1, hmethods.2, hcrc, hp, hd, hlen⟩,
      ⟨hflags.2, z.inflate?_deflate level e.data, rfl⟩, hname⟩

/-- An entry can be written when its name is not too long and the level is supported if it is a
file. -/
theorem member_isOk_iff {z : Deflater} {level : Int} {e : NewEntry} :
    (∃ m, e.member z level = .ok m) ↔
      (Text.bytesOf e.writtenName).size ≤ maxNameLength ∧
        (e.isFolder = true ∨ level ≤ maxLevel) := by
  have hm : maxLevel = 264 := rfl
  simp only [member_eq_ok_iff, exists_and_left, exists_or, exists_eq, and_true]
  refine and_congr_right fun _ => ?_
  cases e.isFolder with
  | true => simp
  | false =>
    simp only [Bool.false_eq_true, false_or, true_and]
    omega

end NewEntry

/-- A member whose data can be read is stored or deflated, so its method is no wrapped one. -/
theorem Member.Holds.method_ne {m : Member} {data : ByteArray} (h : m.Holds data) :
    m.method ≠ wrappedMethod := by
  intro hm
  have hu := h.unpacked
  rw [Member.unpacked?, hm, if_neg (by decide), if_neg (by decide)] at hu
  cases hu

/-- The archive in the making of members. -/
def draftOf (ms : List Member) : Draft :=
  ms.foldl Draft.add ⟨ByteArray.empty, ByteArray.empty, 0⟩

/-- The parts of the archive of members. -/
theorem draftOf_spec (ms : List Member) :
    (draftOf ms).locals.data.toList = localsOf ms ∧
    (draftOf ms).headers.data.toList = headersFrom 0 ms ∧ (draftOf ms).count = ms.length := by
  obtain ⟨hl, hh, hc⟩ := foldl_add ⟨ByteArray.empty, ByteArray.empty, 0⟩ ms
  exact ⟨by rw [draftOf, hl]; rfl, by rw [draftOf, hh]; rfl, by rw [draftOf, hc]; simp⟩

/-- The directory of the archive of members is sound. -/
theorem draftOf_sound (ms : List Member) : (draftOf ms).Sound := by
  obtain ⟨hl, hh, hc⟩ := draftOf_spec ms
  have hstands := (draftOf ms).stands_headers
  rw [hh] at hstands
  refine ⟨fun h => ?_, ?_, fun h => ?_⟩
  · cases ms with
    | nil => rw [hc] at h; simp at h
    | cons m ms => exact stands_headerMark hstands
  · rw [hc, ← length_data_toList, hh]
    exact length_headersFrom 0 ms
  · obtain rfl : ms = [] := List.eq_nil_of_length_eq_zero (by rw [← hc, h])
    exact ⟨rfl, rfl⟩

/-- Members that hold data under names that differ are read back from their archive. -/
theorem entries_draftOf {ms : List Member} {ds : List ByteArray}
    (hm : List.Forall₂ (fun m d => m.Fits ∧ m.Holds d) ms ds)
    (hnames : (ms.map Member.decodedName).Nodup) (hs : (draftOf ms).finish.size < 2 ^ 32)
    (hc : ms.length ≠ 0xffff) :
    entries (draftOf ms).finish = .ok (entriesOf 0 ms) ∧
    List.Forall₂ (fun (e : Entry) d => e.read (draftOf ms).finish = .ok d) (entriesOf 0 ms) ds := by
  obtain ⟨hl, hh, hcount⟩ := draftOf_spec ms
  have hsize := (draftOf ms).size_finish
  rw [Draft.endIndex] at hsize
  have hlocals : (localsOf ms).length = (draftOf ms).locals.size := by
    rw [← hl, length_data_toList]
  have hstands := (draftOf ms).stands_headers
  rw [hh] at hstands
  have hread := (draftOf ms).stands_locals
  rw [hl] at hread
  have hall : ∀ m ∈ ms, m.Fits ∧ m.method ≠ wrappedMethod :=
    ((List.forall₂_and_left _ _).1
      (hm.imp fun m d h => ⟨⟨h.1, h.2.method_ne⟩, (h : m.Fits ∧ m.Holds d)⟩)).1
  have hes : entriesFrom (draftOf ms).finish (draftOf ms).place (draftOf ms).count
      (draftOf ms).locals.size = .ok (entriesOf 0 ms) := by
    rw [hcount]
    refine entriesFrom_of_stands rfl ?_ ms 0 _ hall ?_ hstands
    · simp only [Draft.place]; omega
    · simp only [Draft.place]; omega
  refine ⟨?_, read_entriesOf ms ds 0 hm hread⟩
  rw [Draft.entries_finish (draftOf_sound ms) hs (by rw [hcount]; exact hc) hes, foldl_addEntry]
  · rfl
  · rw [List.nil_append, map_name_entriesOf]
    exact hnames

/-- The compressed data of a member is part of the local parts. -/
theorem packed_le_localsOf {m : Member} {ms : List Member} (h : m ∈ ms) :
    m.packed.size ≤ (localsOf ms).length := by
  obtain ⟨front, rest, rfl⟩ := List.append_of_mem h
  have := m.size_localPart
  simp only [localsOf, List.flatMap_append, List.flatMap_cons, List.length_append,
    length_data_toList]
  omega

/-- An archive is written from the members of its entries, and no two of them have one name. -/
theorem write_eq_ok {z : Deflater} {level : Int} {es : List NewEntry} {bytes : ByteArray}
    (h : write z level es = .ok bytes) :
    ∃ ms, List.Forall₂ (fun (e : NewEntry) m => e.member z level = .ok m) es ms ∧
      (es.map NewEntry.writtenName).Nodup ∧ bytes = (draftOf ms).finish := by
  cases hms : es.mapM (NewEntry.member z level) with
  | error f => simp [write, hms, bind, Except.bind] at h
  | ok ms =>
    simp only [write, hms, bind, Except.bind] at h
    by_cases hn : (es.map NewEntry.writtenName).Nodup
    · rw [if_pos hn] at h
      exact ⟨ms, (mapM_eq_ok_iff _ _ _).1 hms, hn, (Except.ok.inj h).symm⟩
    · rw [if_neg hn] at h
      cases h

/-- What was written as an archive is read back: the entries have the names under which they were
written, in the same order, and give the data that was written. -/
theorem read_write {z : Deflater} {level : Int} {es : List NewEntry} {bytes : ByteArray}
    (h : write z level es = .ok bytes) (hs : bytes.size < 2 ^ 32)
    (hd : ∀ e ∈ es, e.data.size < 2 ^ 32) (hc : es.length ≠ 0xffff) :
    ∃ found, entries bytes = .ok found ∧
      List.Forall₂ (fun (f : Entry) e => f.name = e.writtenName ∧ f.read bytes = .ok e.writtenData)
        found es := by
  obtain ⟨ms, hms, hn, rfl⟩ := write_eq_ok h
  have hlocals : (localsOf ms).length ≤ (draftOf ms).finish.size := by
    have := (draftOf ms).size_finish
    rw [← (draftOf_spec ms).1, length_data_toList, this, Draft.endIndex]
    omega
  have hspec : List.Forall₂ (fun (e : NewEntry) (m : Member) =>
      (m.Fits ∧ m.Holds e.writtenData) ∧ m.decodedName = e.writtenName) es ms := by
    refine forall₂_imp_mem (fun e he m hm hem => ?_) hms
    have hp := packed_le_localsOf hm
    obtain ⟨hfits, hholds, hname⟩ := NewEntry.member_spec hem (hd e he) (by omega)
    exact ⟨⟨hfits, hholds⟩, hname⟩
  have hnames : ms.map Member.decodedName = es.map NewEntry.writtenName := by
    rw [← List.forall₂_eq_eq_eq, List.forall₂_map_left_iff, List.forall₂_map_right_iff]
    exact hspec.flip.imp fun m e h => h.2
  have hholds : List.Forall₂ (fun m d => Member.Fits m ∧ Member.Holds m d) ms
      (es.map NewEntry.writtenData) := by
    rw [List.forall₂_map_right_iff]
    exact hspec.flip.imp fun m e h => h.1
  obtain ⟨hentries, hread⟩ := entries_draftOf hholds (by rw [hnames]; exact hn) hs
    (by rw [← hms.length_eq]; exact hc)
  refine ⟨_, hentries, forall₂_and ?_ ?_⟩
  · rw [← List.forall₂_map_right_iff (f := NewEntry.writtenName),
      ← List.forall₂_map_left_iff (f := Entry.name) (R := Eq), List.forall₂_eq_eq_eq,
      ← hnames, ← map_name_entriesOf 0 ms]
  · rwa [List.forall₂_map_right_iff] at hread

/-- Working through a list succeeds when each of its items does. -/
theorem mapM_isOk {ε α β : Type} {f : α → Except ε β} {as : List α}
    (h : ∀ a ∈ as, ∃ b, f a = .ok b) : ∃ bs, as.mapM f = .ok bs := by
  induction as with
  | nil => exact ⟨[], rfl⟩
  | cons a as ih =>
    obtain ⟨b, hb⟩ := h a List.mem_cons_self
    obtain ⟨bs, hbs⟩ := ih fun x hx => h x (List.mem_cons_of_mem a hx)
    exact ⟨b :: bs, by rw [List.mapM_cons, hb, hbs]; rfl⟩

/-- Entries are written as an archive exactly when each of them can be written and no two have one
name. -/
theorem write_isOk_iff {z : Deflater} {level : Int} {es : List NewEntry} :
    (∃ bytes, write z level es = .ok bytes) ↔
      (∀ e ∈ es, ∃ m, e.member z level = .ok m) ∧ (es.map NewEntry.writtenName).Nodup := by
  constructor
  · rintro ⟨bytes, h⟩
    obtain ⟨ms, hms, hn, -⟩ := write_eq_ok h
    refine ⟨?_, hn⟩
    exact ((List.forall₂_and_left _ _).1 (hms.imp fun e m h => ⟨⟨m, h⟩, h⟩)).1
  · rintro ⟨he, hn⟩
    obtain ⟨ms, hms⟩ := mapM_isOk he
    refine ⟨(draftOf ms).finish, ?_⟩
    simp only [write, hms, bind, Except.bind]
    rw [if_pos hn]
    rfl

/-- Adding an entry never repeats a name. -/
theorem nodup_addEntry {old : List Entry} (e : Entry) (h : (old.map (·.name)).Nodup) :
    ((addEntry old e).map (·.name)).Nodup := by
  rw [addEntry]
  split
  · have hnames : (old.map fun o => if o.name = e.name then e else o).map (·.name) =
        old.map (·.name) := by
      rw [List.map_map]
      refine List.map_congr_left fun o _ => ?_
      simp only [Function.comp_apply]
      split
      · exact Eq.symm ‹_›
      · rfl
    rwa [hnames]
  · rename_i hnew
    rw [List.map_append, List.nodup_append]
    refine ⟨h, by simp, fun n hn n' hn' => ?_⟩
    obtain ⟨o, ho, rfl⟩ := List.mem_map.1 hn
    obtain rfl : n' = e.name := by simpa using hn'
    intro heq
    exact hnew (List.any_eq_true.2 ⟨o, ho, by simpa using heq⟩)

/-- Adding entries one after the other never repeats a name. -/
theorem nodup_foldl_addEntry {es old : List Entry} (h : (old.map (·.name)).Nodup) :
    ((es.foldl addEntry old).map (·.name)).Nodup := by
  induction es generalizing old with
  | nil => exact h
  | cons e es ih => exact ih (nodup_addEntry e h)

/-- An end record never leads to two entries of one name. -/
theorem nodup_entriesAt {es : List Entry} (h : entriesAt bytes index = .ok es) :
    (es.map (·.name)).Nodup := by
  rw [entriesAt] at h
  split at h
  · cases h
  · rename_i place _
    cases hes : entriesFrom bytes place place.count place.start with
    | error f => rw [hes] at h; cases h
    | ok found =>
      rw [hes] at h
      obtain rfl := Except.ok.inj h
      exact nodup_foldl_addEntry List.nodup_nil

/-- An archive never lists two entries of one name. -/
theorem nodup_entries {es : List Entry} (h : entries bytes = .ok es) :
    (es.map (·.name)).Nodup := by
  rw [entries] at h
  generalize bytes.size - 3 = limit at h
  induction limit with
  | zero => cases h
  | succ limit ih =>
    rw [entriesBefore] at h
    split at h
    · split at h
      · rename_i found hfound
        obtain rfl := Except.ok.inj h
        exact nodup_entriesAt hfound
      · exact ih h
    · exact ih h

end InteractiveBook.Zip
