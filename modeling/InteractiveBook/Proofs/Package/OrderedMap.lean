import InteractiveBook.Proofs.Package.WorkingCopy

/-!
# The working copy is an ordered map

A working copy takes names to entries and keeps the names in the order in which they came. Whatever
run of changes leads to a copy, the next change does to it what it does to such a map: a file that
is written has its data and takes the place of what had its name, an added folder takes the last
place unless its name is taken, and removing folders takes out the empty ones below a start of names
and nothing else. None of these changes fails.
-/

namespace InteractiveBook.Package

/-- An explicit folder below a start of names that marks nothing but the folder: it has no data, and
its name ends in a slash. -/
structure ArchiveEntry.IsEmptyFolder (start : String) (e : ArchiveEntry) : Prop where
  /-- It is a folder. -/
  folder : e.isFolder = true
  /-- It has no data. -/
  empty : e.data = ByteArray.empty
  /-- Its name begins with the start. -/
  below : start.toList <+: e.name.toList
  /-- Its name ends in a slash. -/
  slash : ['/'] <:+ e.name.toList

/-- An entry is removed exactly when it is an empty folder below the start. -/
theorem Archive.isRemoved_iff {start : String} {e : ArchiveEntry} :
    isRemoved start e = true ↔ e.IsEmptyFolder start := by
  have hslash : e.name.toList.getLast? = some '/' ↔ ['/'] <:+ e.name.toList := by
    rw [List.getLast?_eq_some_iff]
    exact exists_congr fun front => eq_comm
  have hempty : e.data.size = 0 ↔ e.data = ByteArray.empty := ByteArray.size_eq_zero_iff
  simp only [isRemoved, ArchiveEntry.isFolderMarker, Bool.and_eq_true, beq_iff_eq, hslash, hempty,
    Text.beginsWith_iff]
  constructor
  · rintro ⟨hbelow, ⟨hfolder, hs⟩, hdata⟩
    exact ⟨hfolder, hdata, hbelow, hs⟩
  · exact fun h => ⟨h.below, ⟨h.folder, h.slash⟩, h.empty⟩

/-- Whether an entry is an empty folder below a start can be decided. -/
instance (start : String) : DecidablePred (ArchiveEntry.IsEmptyFolder start) := fun _ =>
  decidable_of_iff _ Archive.isRemoved_iff

namespace Archive

/-- How a copy comes from another one when a file is written. -/
structure IsWritten (a b : Archive) (name : String) (data : ByteArray) : Prop where
  /-- The file is read with its data, and all others are read as before. -/
  reads : ∀ other, b.read? other = if other = name then some data else a.read? other
  /-- A name that is there keeps its place, and a new one is last. -/
  names : b.names = if name ∈ a.names then a.names else a.names ++ [name]
  /-- Every other entry stays as it is and where it is. -/
  others : ∀ (i : Nat) (e : ArchiveEntry), a.entries[i]? = some e → e.name ≠ name →
    b.entries[i]? = some e

/-- How a copy comes from another one when a folder is added. -/
structure IsAdded (a b : Archive) (name : String) : Prop where
  /-- Nothing changes when the name, closed with a slash, is there. -/
  known : markerName name ∈ a.names → b = a
  /-- Otherwise the folder is the last entry. -/
  new : markerName name ∉ a.names → b.entries = a.entries ++ [⟨markerName name, .empty, true⟩]

/-- How a copy comes from another one when the folders below a start are removed, and which names
are removed. -/
structure IsCleared (a b : Archive) (start : String) (removed : List String) : Prop where
  /-- The names of the empty folders below the start are removed, in order. -/
  removed : removed = (a.entries.filter fun e => e.IsEmptyFolder start).map (·.name)
  /-- All other entries stay as they are, in order. -/
  kept : b.entries = a.entries.filter fun e => ¬e.IsEmptyFolder start
  /-- All files are read as before. -/
  reads : ∀ name, b.read? name = a.read? name
  /-- A second time nothing is removed. -/
  again : b.removeFolders start = .ok ([], b)

/-! ### Writing a file -/

/-- A file is found in the first entry or behind it. -/
theorem read?_cons (e : ArchiveEntry) (es : List ArchiveEntry) (name : String) :
    (⟨e :: es⟩ : Archive).read? name =
      if e.name = name ∧ e.isFolder = false then some e.data else (⟨es⟩ : Archive).read? name := by
  rw [read?, read?, List.find?_cons]
  by_cases h : e.name = name ∧ e.isFolder = false <;> simp [h]

/-- After a file was written it is found under its name, and under any other name what was found
there before. -/
theorem read?_writeFile (a : Archive) (name other : String) (data : ByteArray) :
    (a.writeFile name data).read? other = if other = name then some data else a.read? other := by
  obtain ⟨es⟩ := a
  rw [writeFile]
  induction es with
  | nil =>
    rw [writeEntries, read?_cons]
    by_cases h : other = name
    · simp [h]
    · simp [h, Ne.symm h]
  | cons e es ih =>
    rw [writeEntries]
    by_cases hname : e.name = name
    · rw [if_pos hname, read?_cons, read?_cons]
      by_cases h : other = name
      · simp [h]
      · have hfirst : e.name ≠ other := fun he => h (he.symm.trans hname)
        simp [h, Ne.symm h, hfirst]
    · rw [if_neg hname, read?_cons, read?_cons, ih]
      by_cases h : other = name
      · simp [h, hname]
      · simp [h]

/-- An entry of another name stays at its place when a file is written. -/
theorem getElem?_writeEntries {name : String} (data : ByteArray) {es : List ArchiveEntry} {i : Nat}
    {e : ArchiveEntry} (he : es[i]? = some e) (hne : e.name ≠ name) :
    (writeEntries name data es)[i]? = some e := by
  induction es generalizing i with
  | nil => cases he
  | cons d es ih =>
    rw [writeEntries]
    cases i with
    | zero =>
      obtain rfl : d = e := by simpa using he
      rw [if_neg hne]
      rfl
    | succ i =>
      rw [List.getElem?_cons_succ] at he
      split
      · exact he
      · exact ih he

/-- Writing a file does to a copy what it does to an ordered map. -/
theorem isWritten_writeFile (a : Archive) (name : String) (data : ByteArray) :
    IsWritten a (a.writeFile name data) name data where
  reads other := read?_writeFile a name other data
  names := names_writeFile a name data
  others _ _ he hne := getElem?_writeEntries data he hne

/-! ### Adding a folder and removing folders -/

/-- Adding a folder does to a copy what it does to an ordered map. -/
theorem isAdded_addFolder (a : Archive) (name : String) : IsAdded a (a.addFolder name) name where
  known h := if_pos (contains_iff.2 h)
  new h := by rw [addFolder, if_neg fun hmem => h (contains_iff.1 hmem)]

/-- Which entries are removed, by what they are. -/
theorem filter_isRemoved (es : List ArchiveEntry) (start : String) :
    es.filter (isRemoved start) = es.filter fun e => e.IsEmptyFolder start :=
  List.filter_congr fun e _ => by
    rw [Bool.eq_iff_iff, isRemoved_iff, decide_eq_true_iff]

/-- Which entries are left, by what they are. -/
theorem entries_withoutFolders (a : Archive) (start : String) :
    (a.withoutFolders start).entries = a.entries.filter fun e => ¬e.IsEmptyFolder start :=
  List.filter_congr fun e _ => by
    rw [Bool.eq_iff_iff, Bool.not_eq_true', ← Bool.not_eq_true, isRemoved_iff, decide_eq_true_iff]

/-- Removing folders leaves what is found under every name. -/
theorem read?_withoutFolders (a : Archive) (start name : String) :
    (a.withoutFolders start).read? name = a.read? name := by
  rw [read?, read?, withoutFolders, List.find?_filter]
  -- An entry that is found is no folder, so that it was not removed.
  refine congrArg (Option.map _) (List.find?_congr fun e _ => ?_)
  cases he : e.isFolder <;> simp [isRemoved, ArchiveEntry.isFolderMarker, he]

/-- Folders that were removed are not removed again. -/
theorem removeFolders_withoutFolders (a : Archive) (start : String) :
    (a.withoutFolders start).removeFolders start = .ok ([], a.withoutFolders start) := by
  have hnone : ∀ e ∈ (a.withoutFolders start).entries, isRemoved start e = false := by
    intro e he
    simpa using (List.mem_filter.1 he).2
  have hfound : (a.withoutFolders start).foldersBelow start = [] := by
    rw [foldersBelow, List.filter_eq_nil_iff.2 fun e he => by simp [hnone e he], List.map_nil]
  have hleft : (a.withoutFolders start).withoutFolders start = a.withoutFolders start :=
    congrArg Archive.mk (List.filter_eq_self.2 fun e he => by simp [hnone e he])
  rw [removeFolders_eq, hfound, hleft]

/-- Removing folders does to a copy what it does to an ordered map. -/
theorem isCleared_withoutFolders (a : Archive) (start : String) :
    IsCleared a (a.withoutFolders start) start (a.foldersBelow start) where
  removed := by rw [foldersBelow, filter_isRemoved]
  kept := entries_withoutFolders a start
  reads name := read?_withoutFolders a start name
  again := removeFolders_withoutFolders a start

/-! ### Runs of changes -/

/-- Whatever run of changes leads to a copy, its names are different and its folders have names of
folders, and each change does to it what it does to an ordered map, without a failure. -/
theorem Reachable.orderedMap {a : Archive} (h : Reachable a) :
    a.names.Nodup ∧ (∀ e ∈ a.entries, e.isFolder = true → isFolderName e.name = true) ∧
    (∀ name data, IsWritten a (a.writeFile name data) name data) ∧
    (∀ name, IsAdded a (a.addFolder name) name) ∧
    ∀ start, ∃ removed b, a.removeFolders start = .ok (removed, b) ∧
      IsCleared a b start removed := by
  have hnamed := h.wellNamed
  refine ⟨hnamed.nodup, hnamed.folders, isWritten_writeFile a, isAdded_addFolder a, fun start => ?_⟩
  exact ⟨_, _, removeFolders_eq a start, isCleared_withoutFolders a start⟩

/-- A copy in which a file was written over a folder; a folder below it was added afterwards. -/
def overwrittenCopy : Archive :=
  ((Archive.empty.addFolder "content").writeFile "content/" ⟨#[7]⟩).addFolder "content/images"

/-- The file is at the place of the folder. It is read with its data, a folder of its name is not
added, and removing folders leaves it alone. -/
theorem overwrittenCopy_orderedMap : overwrittenCopy.Reachable ∧
    overwrittenCopy.names = ["content/", "content/images/"] ∧ overwrittenCopy.names.Nodup ∧
    (overwrittenCopy.writeFile "content/images/" ⟨#[1]⟩).read? "content/" = some ⟨#[7]⟩ ∧
    overwrittenCopy.addFolder "content" = overwrittenCopy ∧
    ∃ b, overwrittenCopy.removeFolders "content/" = .ok (["content/images/"], b) ∧
      b.entries = [⟨"content/", ⟨#[7]⟩, false⟩] ∧ b.removeFolders "content/" = .ok ([], b) := by
  have hr : overwrittenCopy.Reachable := ((Reachable.empty.addFolder _).writeFile _ _).addFolder _
  obtain ⟨hnodup, -, hwritten, hadded, hcleared⟩ := hr.orderedMap
  obtain ⟨removed, b, hb, hclear⟩ := hcleared "content/"
  have hknown : markerName "content" ∈ overwrittenCopy.names := by decide +kernel
  have hfile : overwrittenCopy.read? "content/" = some ⟨#[7]⟩ := by decide +kernel
  have hremoved : (overwrittenCopy.entries.filter
      fun e => e.IsEmptyFolder "content/").map (·.name) = ["content/images/"] := by decide +kernel
  have hkept : (overwrittenCopy.entries.filter fun e => ¬e.IsEmptyFolder "content/") =
    [⟨"content/", ⟨#[7]⟩, false⟩] := by decide +kernel
  refine ⟨hr, by decide +kernel, hnodup, ?_, (hadded "content").known hknown, b, ?_, ?_,
    hclear.again⟩
  · rw [(hwritten "content/images/" ⟨#[1]⟩).reads, if_neg (by decide), hfile]
  · rw [hb, hclear.removed, hremoved]
  · rw [hclear.kept, hkept]

end Archive

end InteractiveBook.Package
