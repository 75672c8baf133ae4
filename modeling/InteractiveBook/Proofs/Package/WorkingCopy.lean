import InteractiveBook.Package.Archive
import InteractiveBook.Proofs.Zip.Size

/-!
# The working copy and its archive

A working copy starts empty or from the bytes of an archive and is changed by writing files, adding
folders and removing folders. Whatever the changes were, no name comes twice and every folder has
the name of one. Such a copy can always be written, and what was written is read back with the
same names in the same order. On the way an entry becomes a folder exactly when its name is that of
one, and a folder loses its data.
-/

namespace InteractiveBook.Package

open Zip

/-- The name of a folder: it ends in a slash of either kind. -/
def isFolderName (name : String) : Bool :=
  match name.toList.getLast? with
  | some c => c == '/' || c == '\\'
  | none => false

/-- The entry that is found when an entry of a working copy was written and is read back. -/
def ArchiveEntry.reloaded (e : ArchiveEntry) : ArchiveEntry :=
  ⟨e.name, if e.isFolder then ByteArray.empty else e.data, isFolderName e.name⟩

namespace Archive

/-- The names of the entries, in archive order. -/
def names (a : Archive) : List String := a.entries.map (·.name)

/-- The working copy that is found when a working copy was written and is read back. -/
def reloaded (a : Archive) : Archive := ⟨a.entries.map ArchiveEntry.reloaded⟩

/-- The working copies that a run of changes can lead to. -/
inductive Reachable : Archive → Prop
  /-- A run may start without entries. -/
  | empty : Reachable empty
  /-- A run may start from the bytes of an archive. -/
  | loaded {bytes : ByteArray} {a : Archive} (h : ofBytes bytes = .ok a) : Reachable a
  /-- A file is written. -/
  | writeFile {a : Archive} (name : String) (data : ByteArray) (h : Reachable a) :
    Reachable (a.writeFile name data)
  /-- A folder is added. -/
  | addFolder {a : Archive} (name : String) (h : Reachable a) : Reachable (a.addFolder name)
  /-- The folders below a start of names are removed. -/
  | removeFolders {a b : Archive} {start : String} {removed : List String} (h : Reachable a)
    (hr : a.removeFolders start = .ok (removed, b)) : Reachable b

/-- What holds of every working copy: no name comes twice, and folders have names of folders. -/
structure WellNamed (a : Archive) : Prop where
  /-- No name comes twice. -/
  nodup : a.names.Nodup
  /-- A folder has the name of one. -/
  folders : ∀ e ∈ a.entries, e.isFolder = true → isFolderName e.name = true

/-- The bytes of a copy are those of the archive of its entries. -/
theorem write_of_toBytes {a : Archive} {level : Int} {z : Deflater} {bytes : ByteArray}
    (h : a.toBytes level z = .ok bytes) : write z level (a.entries.map newEntry) = .ok bytes := by
  rw [toBytes] at h
  split at h
  · rename_i found hfound
    rw [hfound, Except.ok.inj h]
  · cases h

/-- The sizes at which an archive can be written without wide sizes: names of at most 65535 bytes
and everything below four gibibytes, the written archive included. Of the numbers of entries only
the one is left out that stands for a wide number. -/
structure Fits (a : Archive) (level : Int) (z : Deflater := .stored) : Prop where
  /-- The number of entries does not announce a wide one. -/
  count : a.size ≠ 65535
  /-- A name takes at most 65535 bytes. -/
  shortNames : ∀ e ∈ a.entries, e.name.utf8ByteSize ≤ 65535
  /-- The data of an entry stays below four gibibytes. -/
  smallData : ∀ e ∈ a.entries, e.data.size < 2 ^ 32
  /-- The written archive stays below four gibibytes. -/
  smallWhole : ∀ bytes, a.toBytes level z = .ok bytes → bytes.size < 2 ^ 32

/-- The most bytes that an entry of a copy adds to its archive. -/
def entryBound (e : ArchiveEntry) : Nat := (newEntry e).sizeBound

/-- A copy keeps to the sizes when the names and the data of its entries do. -/
theorem fits_of_entryBound {a : Archive} {level : Int} (hc : a.size ≠ 65535)
    (hn : ∀ e ∈ a.entries, e.name.utf8ByteSize ≤ 65535)
    (hs : (a.entries.map entryBound).sum + 98 < 2 ^ 32) : a.Fits level := by
  refine ⟨hc, hn, fun e he => ?_, fun bytes hb => ?_⟩
  · obtain ⟨front, rest, hsplit⟩ := List.append_of_mem he
    rw [hsplit, List.map_append, List.map_cons, List.sum_append, List.sum_cons] at hs
    have hdata : e.data.size ≤ entryBound e := by
      have hsame : (newEntry e).data.size = e.data.size := rfl
      rw [entryBound, NewEntry.sizeBound, deflatedBound, hsame]
      omega
    omega
  · have hbound := size_write_le (write_of_toBytes hb)
    have hsame : (a.entries.map newEntry).map NewEntry.sizeBound = a.entries.map entryBound :=
      List.map_map
    rw [hsame] at hbound
    omega

/-- Writing a file adds no more to the archive than the file. -/
theorem sum_entryBound_writeEntries (name : String) (data : ByteArray) (es : List ArchiveEntry) :
    ((writeEntries name data es).map entryBound).sum ≤
      (es.map entryBound).sum + entryBound ⟨name, data, false⟩ := by
  induction es with
  | nil => simp [writeEntries]
  | cons e es ih =>
    rw [writeEntries]
    split
    · rw [List.map_cons, List.map_cons, List.sum_cons, List.sum_cons]
      omega
    · rw [List.map_cons, List.map_cons, List.sum_cons, List.sum_cons]
      omega

/-- Leaving out entries adds nothing to the archive. -/
theorem sum_entryBound_filter (p : ArchiveEntry → Bool) (es : List ArchiveEntry) :
    ((es.filter p).map entryBound).sum ≤ (es.map entryBound).sum := by
  induction es with
  | nil => simp
  | cons e es ih =>
    rw [List.filter_cons, List.map_cons, List.sum_cons]
    split
    · rw [List.map_cons, List.sum_cons]
      omega
    · omega

/-! ### What each change does to the names -/

/-- Whether there is an entry of a name is read off the names. -/
theorem contains_iff {a : Archive} {name : String} : a.contains name = true ↔ name ∈ a.names := by
  simp [contains, names]

/-- Writing a file puts its name at the end unless it is there. -/
theorem names_writeEntries (name : String) (data : ByteArray) (es : List ArchiveEntry) :
    (writeEntries name data es).map (·.name) =
      if name ∈ es.map (·.name) then es.map (·.name) else es.map (·.name) ++ [name] := by
  induction es with
  | nil => simp [writeEntries]
  | cons e es ih =>
    rw [writeEntries]
    by_cases h : e.name = name
    · simp [h]
    · rw [if_neg h, List.map_cons, ih, List.map_cons]
      by_cases hm : name ∈ es.map (·.name)
      · rw [if_pos hm, if_pos (List.mem_cons_of_mem _ hm)]
      · rw [if_neg hm, if_neg (by simp only [List.mem_cons, not_or]; exact ⟨Ne.symm h, hm⟩)]
        rfl

/-- Writing a file to a copy puts its name at the end unless it is there. -/
theorem names_writeFile (a : Archive) (name : String) (data : ByteArray) :
    (a.writeFile name data).names = if name ∈ a.names then a.names else a.names ++ [name] :=
  names_writeEntries name data a.entries

/-- An entry after a file was written is the file or an entry from before. -/
theorem mem_writeEntries {name : String} {data : ByteArray} {es : List ArchiveEntry}
    {e : ArchiveEntry} (h : e ∈ writeEntries name data es) : e = ⟨name, data, false⟩ ∨ e ∈ es := by
  induction es with
  | nil => exact .inl (by simpa [writeEntries] using h)
  | cons d es ih =>
    rw [writeEntries] at h
    split at h
    · rcases List.mem_cons.1 h with h | h
      · exact .inl h
      · exact .inr (List.mem_cons_of_mem d h)
    · rcases List.mem_cons.1 h with h | h
      · exact .inr (h ▸ List.mem_cons_self)
      · rcases ih h with h | h
        · exact .inl h
        · exact .inr (List.mem_cons_of_mem d h)

/-- The file that was written is there afterwards. -/
theorem mem_writeEntries_self (name : String) (data : ByteArray) (es : List ArchiveEntry) :
    (⟨name, data, false⟩ : ArchiveEntry) ∈ writeEntries name data es := by
  induction es with
  | nil => simp [writeEntries]
  | cons e es ih =>
    rw [writeEntries]
    split
    · exact List.mem_cons_self
    · exact List.mem_cons_of_mem e ih

/-- An entry of another name is still there after a file was written. -/
theorem mem_writeEntries_of_ne {name : String} (data : ByteArray) {es : List ArchiveEntry}
    {e : ArchiveEntry} (h : e ∈ es) (hne : e.name ≠ name) : e ∈ writeEntries name data es := by
  induction es with
  | nil => cases h
  | cons d es ih =>
    rw [writeEntries]
    rcases List.mem_cons.1 h with rfl | h
    · rw [if_neg hne]
      exact List.mem_cons_self
    · split
      · exact List.mem_cons_of_mem _ h
      · exact List.mem_cons_of_mem d (ih h)

/-- Of two files written under one name the second one stays. -/
theorem writeEntries_writeEntries (name : String) (data data' : ByteArray)
    (es : List ArchiveEntry) :
    writeEntries name data' (writeEntries name data es) = writeEntries name data' es := by
  induction es with
  | nil => simp [writeEntries]
  | cons e es ih =>
    rw [writeEntries, writeEntries]
    by_cases h : e.name = name
    · rw [if_pos h, if_pos h, writeEntries, if_pos rfl]
    · rw [if_neg h, if_neg h, writeEntries, if_neg h, ih]

/-- Of two files written under one name the second one stays, also when another file was written in
between. -/
theorem writeEntries_between {name other : String} (hne : other ≠ name)
    (data data' image : ByteArray) (es : List ArchiveEntry) :
    writeEntries name data' (writeEntries other image (writeEntries name data es)) =
      writeEntries other image (writeEntries name data' es) := by
  induction es with
  | nil => simp [writeEntries, hne.symm]
  | cons e es ih =>
    rw [writeEntries, writeEntries]
    by_cases h : e.name = name
    · rw [if_pos h, if_pos h, writeEntries, if_neg hne.symm, writeEntries, if_pos rfl, writeEntries,
        if_neg hne.symm]
    · rw [if_neg h, if_neg h]
      by_cases ho : e.name = other
      · rw [writeEntries, if_pos ho, writeEntries, if_neg hne, writeEntries_writeEntries,
          writeEntries, if_pos ho]
      · rw [writeEntries, if_neg ho, writeEntries, if_neg h, ih, writeEntries, if_neg ho]

/-- Where no name comes twice, an entry is found by whatever tells its name. -/
theorem find?_of_mem {a : Archive} {e : ArchiveEntry} {p : ArchiveEntry → Bool}
    (h : a.names.Nodup) (he : e ∈ a.entries) (hp : p e = true)
    (hname : ∀ d, p d = true → d.name = e.name) : a.entries.find? p = some e := by
  obtain ⟨es⟩ := a
  induction es with
  | nil => cases he
  | cons d es ih =>
    obtain ⟨hfirst, hrest⟩ := List.nodup_cons.1 h
    rcases List.mem_cons.1 he with rfl | he
    · exact List.find?_cons_of_pos hp
    · have hne : ¬p d = true := fun hd =>
        hfirst (List.mem_map.2 ⟨e, he, (hname d hd).symm⟩)
      rw [List.find?_cons_of_neg hne]
      exact ih hrest he

/-- Where no name comes twice, a file is read with its data. -/
theorem read?_of_mem {a : Archive} {name : String} {data : ByteArray} (h : a.names.Nodup)
    (he : (⟨name, data, false⟩ : ArchiveEntry) ∈ a.entries) : a.read? name = some data := by
  rw [read?, find?_of_mem h he (by simp) (by simp +contextual)]
  rfl

/-- Writing a file that is there replaces its data and nothing else. -/
theorem forall₂_writeEntries {name : String} (data : ByteArray) {es : List ArchiveEntry}
    (hfile : ∀ e ∈ es, e.name = name → e.isFolder = false) (hmem : name ∈ es.map (·.name)) :
    List.Forall₂ (fun e f => f.name = e.name ∧ f.isFolder = e.isFolder ∧
      (e.name ≠ name → f.data = e.data)) es (writeEntries name data es) := by
  induction es with
  | nil => cases hmem
  | cons e es ih =>
    obtain ⟨he, hrest⟩ := List.forall_mem_cons.1 hfile
    rw [writeEntries]
    by_cases hname : e.name = name
    · rw [if_pos hname]
      refine .cons ⟨hname.symm, (he hname).symm, fun hne => (hne hname).elim⟩ ?_
      exact List.forall₂_same.2 fun _ _ => ⟨rfl, rfl, fun _ => rfl⟩
    · rw [if_neg hname]
      refine .cons ⟨rfl, rfl, fun _ => rfl⟩ (ih hrest ?_)
      rcases List.mem_cons.1 hmem with h | h
      · exact (hname h.symm).elim
      · exact h

/-- The name of an added folder is that of a folder. -/
theorem isFolderName_markerName (name : String) : isFolderName (markerName name) = true := by
  rw [markerName]
  split
  · rename_i h
    rw [isFolderName, h]
    rfl
  · have hlast : (name ++ "/").toList.getLast? = some '/' := by
      rw [String.toList_append]
      exact List.getLast?_concat
    rw [isFolderName, hlast]
    rfl

/-- The files are the same after folders were removed. -/
theorem fileNames_withoutFolders (a : Archive) (start : String) :
    (a.withoutFolders start).fileNames = a.fileNames := by
  rw [fileNames, fileNames, withoutFolders, List.filter_filter]
  refine congrArg _ (List.filter_congr fun e _ => ?_)
  cases he : e.isFolder <;> simp [isRemoved, ArchiveEntry.isFolderMarker, he]

/-- Removing folders always succeeds. -/
theorem removeFolders_eq (a : Archive) (start : String) :
    a.removeFolders start = .ok (a.foldersBelow start, a.withoutFolders start) := by
  have hall : (a.fileNames.all fun name => a.fileNames.contains name) = true :=
    List.all_eq_true.2 fun name h => List.contains_iff_mem.2 h
  simp only [removeFolders, fileNames_withoutFolders, hall, beq_self_eq_true, Bool.and_self,
    if_true]

/-! ### What every change preserves -/

/-- A working copy that was loaded is the entries of its archive, each of them read. -/
theorem ofBytes_eq_ok_iff {bytes : ByteArray} {a : Archive} :
    ofBytes bytes = .ok a ↔ ∃ found, Zip.entries bytes = .ok found ∧
      List.Forall₂ (fun f e => loadEntry bytes f = .ok e) found a.entries := by
  rw [ofBytes]
  cases he : Zip.entries bytes with
  | error f => simp [bind, Except.bind]
  | ok found =>
    simp only [bind, Except.bind, Except.ok.injEq, ← mapM_eq_ok_iff, exists_eq_left']
    cases hm : found.mapM (loadEntry bytes) with
    | error f => simp
    | ok es =>
      obtain ⟨as⟩ := a
      simp

/-- An entry that was loaded has its name and data from the archive, and is a folder by its
name. -/
theorem loadEntry_eq_ok_iff {bytes : ByteArray} {f : Entry} {e : ArchiveEntry} :
    loadEntry bytes f = .ok e ↔
      f.name = e.name ∧ f.read bytes = .ok e.data ∧ e.isFolder = isFolderName e.name := by
  obtain ⟨name, data, isFolder⟩ := e
  rw [loadEntry]
  cases hr : f.read bytes with
  | error fault => simp [bind, Except.bind]
  | ok d =>
    simp only [bind, Except.bind, pure, Except.pure, Except.ok.injEq, ArchiveEntry.mk.injEq]
    constructor
    · rintro ⟨rfl, rfl, rfl⟩
      exact ⟨rfl, rfl, rfl⟩
    · rintro ⟨rfl, rfl, rfl⟩
      exact ⟨rfl, rfl, rfl⟩

/-- The names of a loaded copy are those of its archive. -/
theorem names_of_forall₂ {bytes : ByteArray} {found : List Entry} {es : List ArchiveEntry}
    (h : List.Forall₂ (fun f e => loadEntry bytes f = .ok e) found es) :
    es.map (·.name) = found.map (·.name) := by
  rw [← List.forall₂_eq_eq_eq, List.forall₂_map_left_iff, List.forall₂_map_right_iff]
  exact h.flip.imp fun e f h => (loadEntry_eq_ok_iff.1 h).1.symm

/-- The empty copy is well named. -/
theorem WellNamed.empty : WellNamed empty := ⟨List.nodup_nil, by simp [Archive.empty]⟩

/-- A copy that was loaded is well named, and the entries with names of folders are its folders. -/
theorem isFolder_of_ofBytes {bytes : ByteArray} {a : Archive} (h : ofBytes bytes = .ok a) :
    ∀ e ∈ a.entries, e.isFolder = isFolderName e.name := by
  obtain ⟨found, -, hf⟩ := ofBytes_eq_ok_iff.1 h
  exact ((List.forall₂_and_left _ _).1
    (hf.flip.imp fun e f h => ⟨(loadEntry_eq_ok_iff.1 h).2.2, h⟩)).1

/-- A copy that was loaded is well named. -/
theorem WellNamed.loaded {bytes : ByteArray} {a : Archive} (h : ofBytes bytes = .ok a) :
    WellNamed a := by
  have hfolder := isFolder_of_ofBytes h
  obtain ⟨found, he, hf⟩ := ofBytes_eq_ok_iff.1 h
  refine ⟨?_, fun e hmem hdir => by rw [← hfolder e hmem, hdir]⟩
  rw [names, names_of_forall₂ hf]
  exact nodup_entries he

/-- A copy stays well named when a file is written. -/
theorem WellNamed.writeFile {a : Archive} (h : WellNamed a) (name : String) (data : ByteArray) :
    WellNamed (a.writeFile name data) := by
  refine ⟨?_, fun e he hf => ?_⟩
  · have hn := h.nodup
    rw [names_writeFile]
    split
    · exact hn
    · rename_i hnew
      rw [List.nodup_append]
      refine ⟨hn, by simp, fun x hx y hy => ?_⟩
      obtain rfl : y = name := by simpa using hy
      exact fun heq => hnew (heq ▸ hx)
  · rcases mem_writeEntries he with rfl | he
    · cases hf
    · exact h.folders e he hf

/-- A copy stays well named when a folder is added. -/
theorem WellNamed.addFolder {a : Archive} (h : WellNamed a) (name : String) :
    WellNamed (a.addFolder name) := by
  rw [Archive.addFolder]
  split
  · exact h
  · rename_i hnew
    have hfresh : markerName name ∉ a.names := fun hmem => hnew (contains_iff.2 hmem)
    refine ⟨?_, fun e he hf => ?_⟩
    · rw [names, List.map_append, List.nodup_append]
      refine ⟨h.nodup, by simp, fun x hx y hy => ?_⟩
      obtain rfl : y = markerName name := by simpa using hy
      exact fun heq => hfresh (heq ▸ hx)
    · rcases List.mem_append.1 he with he | he
      · exact h.folders e he hf
      · obtain rfl : e = ⟨markerName name, ByteArray.empty, true⟩ := by simpa using he
        exact isFolderName_markerName name

/-- A copy stays well named when folders are removed. -/
theorem WellNamed.withoutFolders {a : Archive} (h : WellNamed a) (start : String) :
    WellNamed (a.withoutFolders start) :=
  ⟨h.nodup.sublist (List.filter_sublist.map _),
    fun e he hf => h.folders e (List.mem_filter.1 he).1 hf⟩

/-- Whatever run of changes leads to a copy, it is well named. -/
theorem Reachable.wellNamed {a : Archive} (h : Reachable a) : WellNamed a := by
  induction h with
  | empty => exact .empty
  | loaded h => exact .loaded h
  | writeFile name data _ ih => exact ih.writeFile name data
  | addFolder name _ ih => exact ih.addFolder name
  | @removeFolders a b start removed _ hr ih =>
    rw [removeFolders_eq, Except.ok.injEq, Prod.mk.injEq] at hr
    rw [← hr.2]
    exact ih.withoutFolders start

/-! ### Writing and reading back -/

/-- A name of a folder is written as it is. -/
theorem folderName_of_isFolderName {name : String} (h : isFolderName name = true) :
    folderName name = name := by
  rw [isFolderName] at h
  rw [folderName]
  cases hc : name.toList.getLast? with
  | none =>
    rw [hc] at h
    cases h
  | some c =>
    rw [hc] at h
    exact if_pos h

/-- In a well named copy every entry is written under its own name. -/
theorem WellNamed.writtenName {a : Archive} (h : WellNamed a) {e : ArchiveEntry}
    (he : e ∈ a.entries) : (newEntry e).writtenName = e.name := by
  rw [NewEntry.writtenName, newEntry]
  dsimp only
  split
  · exact folderName_of_isFolderName (h.folders e he ‹_›)
  · rfl

/-- The names under which the entries of a well named copy are written. -/
theorem WellNamed.map_writtenName {a : Archive} (h : WellNamed a) :
    (a.entries.map newEntry).map NewEntry.writtenName = a.names := by
  rw [List.map_map, names]
  exact List.map_congr_left fun e he => h.writtenName he

/-- A well named copy is written exactly when its names are short enough and the level is supported
for its files. -/
theorem WellNamed.toBytes_isOk_iff {a : Archive} (h : WellNamed a) {level : Int} {z : Deflater} :
    (∃ bytes, a.toBytes level z = .ok bytes) ↔
      ∀ e ∈ a.entries, e.name.utf8ByteSize ≤ maxNameLength ∧
        (e.isFolder = true ∨ level ≤ maxLevel) := by
  have hwrite : (∃ bytes, a.toBytes level z = .ok bytes) ↔
      ∃ bytes, write z level (a.entries.map newEntry) = .ok bytes := by
    rw [toBytes]
    cases write z level (a.entries.map newEntry) <;> simp
  rw [hwrite, write_isOk_iff, h.map_writtenName, and_iff_left h.nodup, List.forall_mem_map]
  refine forall₂_congr fun e he => ?_
  rw [NewEntry.member_isOk_iff, h.writtenName he]
  rfl

/-- A well named copy that keeps to the sizes is written at every level up to the greatest one. -/
theorem WellNamed.toBytes_of_fits {a : Archive} (h : WellNamed a) {level : Int} {z : Deflater}
    (hl : level ≤ maxLevel) (hf : a.Fits level z) : ∃ bytes, a.toBytes level z = .ok bytes :=
  h.toBytes_isOk_iff.2 fun e he => ⟨hf.shortNames e he, .inr hl⟩

/-- What a well named copy was written as is read back with the same names in the same order, the
data of its files and no data of its folders. -/
theorem WellNamed.ofBytes_of_toBytes {a : Archive} (h : WellNamed a) {level : Int} {z : Deflater}
    {bytes : ByteArray} (hb : a.toBytes level z = .ok bytes) (hs : bytes.size < 2 ^ 32)
    (hd : ∀ e ∈ a.entries, e.data.size < 2 ^ 32) (hc : a.size ≠ 0xffff) :
    ofBytes bytes = .ok a.reloaded := by
  obtain ⟨found, he, hf⟩ :=
    read_write (write_of_toBytes hb) hs (by simpa [newEntry] using hd) (by simpa [size] using hc)
  refine ofBytes_eq_ok_iff.2 ⟨found, he, ?_⟩
  rw [List.forall₂_map_right_iff] at hf
  rw [reloaded, List.forall₂_map_right_iff]
  refine forall₂_imp_mem (fun f _ e he hfe => ?_) hf
  rw [h.writtenName he] at hfe
  exact loadEntry_eq_ok_iff.2 ⟨hfe.1, hfe.2, rfl⟩

/-- A copy whose folders are told by their names and carry no data is read back as it is. -/
theorem reloaded_eq_self {a : Archive} (hfolder : ∀ e ∈ a.entries, e.isFolder = isFolderName e.name)
    (hempty : ∀ e ∈ a.entries, e.isFolder = true → e.data.size = 0) : a.reloaded = a := by
  have hsame : ∀ e ∈ a.entries, e.reloaded = e := by
    intro e he
    rw [ArchiveEntry.reloaded, ← hfolder e he]
    split
    · rename_i hdir
      rw [← ByteArray.size_eq_zero_iff.1 (hempty e he hdir)]
    · rfl
  rw [reloaded, List.map_congr_left hsame, List.map_id']

/-- A well named copy that keeps to the sizes is held by the bytes of some archive, provided that
its folders are told by their names and carry no data. -/
theorem WellNamed.exists_ofBytes {a : Archive} (h : WellNamed a) {level : Int}
    (hl : level ≤ maxLevel) (hf : a.Fits level)
    (hfolder : ∀ e ∈ a.entries, e.isFolder = isFolderName e.name)
    (hempty : ∀ e ∈ a.entries, e.isFolder = true → e.data.size = 0) :
    ∃ bytes, ofBytes bytes = .ok a := by
  obtain ⟨bytes, hb⟩ := h.toBytes_of_fits hl hf
  have hread := h.ofBytes_of_toBytes hb (hf.smallWhole bytes hb) hf.smallData hf.count
  exact ⟨bytes, hread.trans (congrArg Except.ok (reloaded_eq_self hfolder hempty))⟩

/-- A copy that any run of changes leads to is written at every level up to the greatest one, in
whatever way files are compressed, and what was written is read back: the same names in the same
order, each entry a folder exactly when its name is that of one, with its data if it was a file and
without data if it was a folder. -/
theorem Reachable.ofBytes_toBytes {a : Archive} {level : Int} {z : Deflater} (h : Reachable a)
    (hl : level ≤ maxLevel) (hf : a.Fits level z) :
    ∃ bytes, a.toBytes level z = .ok bytes ∧ ofBytes bytes = .ok a.reloaded := by
  have hw := h.wellNamed
  obtain ⟨bytes, hb⟩ := hw.toBytes_of_fits hl hf
  exact ⟨bytes, hb, hw.ofBytes_of_toBytes hb (hf.smallWhole bytes hb) hf.smallData hf.count⟩

/-- A copy with a folder, a file whose name goes beyond ASCII, and a file with the name of a
folder. -/
def mixedCopy : Archive :=
  ((Archive.empty.addFolder "content").writeFile "content/é" ⟨#[1, 2, 3]⟩).writeFile "b\\" ⟨#[7]⟩

/-- The mixed copy keeps to the sizes, and reading it back makes a folder with data of the file
that has the name of one. -/
theorem mixedCopy_reloaded : mixedCopy.Reachable ∧ mixedCopy.Fits 6 ∧
    (∃ bytes, mixedCopy.toBytes 6 = .ok bytes ∧ ofBytes bytes = .ok mixedCopy.reloaded) ∧
    mixedCopy.reloaded.entries = [⟨"content/", ByteArray.empty, true⟩,
      ⟨"content/é", ⟨#[1, 2, 3]⟩, false⟩, ⟨"b\\", ⟨#[7]⟩, true⟩] := by
  have hr : mixedCopy.Reachable := ((Reachable.empty.addFolder _).writeFile _ _).writeFile _ _
  have hf : mixedCopy.Fits 6 :=
    fits_of_entryBound (by decide) (by decide +kernel) (by decide +kernel)
  exact ⟨hr, hf, hr.ofBytes_toBytes (by decide) hf, by decide +kernel⟩

end Archive

end InteractiveBook.Package
