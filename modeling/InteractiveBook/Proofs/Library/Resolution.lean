import InteractiveBook.Library.Resolve
import InteractiveBook.Proofs.Library.Table
import InteractiveBook.Proofs.Text.Lines
import Mathlib.Data.List.Find

/-!
# What content types resolve to

A content type is provided by the first of its machine names that resolves. A name resolves to the
first dependency of that name, or else to the highest version among the library folders of that
name. Which entry of the template shows a folder, and how often, decides nothing, and neither do
dependencies and folders of other names.
-/

namespace InteractiveBook.Library

/-! ### Library folders -/

/-- An entry lies in the folder of a library: what stands before its first slash denotes the
library. -/
def LiesIn (entry : String) (id : LibraryId) : Prop :=
  ∃ top rest, entry.toList = top ++ '/' :: rest ∧ '/' ∉ top ∧
    LibraryId.ofFolder? (String.ofList top) = some id

/-- The library folder that is found for an entry is the one that it lies in. -/
theorem folderOfEntry?_eq_some_iff {entry : String} {id : LibraryId} :
    folderOfEntry? entry = some id ↔ LiesIn entry id := by
  unfold folderOfEntry?
  constructor
  · intro h
    split at h
    · next hslash =>
      have hmem : '/' ∈ entry.toList := by simpa using hslash
      obtain ⟨top, rest, hsplit, htop⟩ := List.eq_append_cons_of_mem hmem
      rw [hsplit, Text.takeWhile_closed htop rest] at h
      exact ⟨top, rest, hsplit, htop, h⟩
    · cases h
  · rintro ⟨top, rest, hsplit, htop, hid⟩
    have hslash : entry.toList.contains '/' = true := by simp [hsplit]
    rw [if_pos hslash, hsplit, Text.takeWhile_closed htop rest, hid]

/-- A template has the folder of a library: one of its entries lies in it. -/
def HasFolder (entries : List String) (id : LibraryId) : Prop := ∃ entry ∈ entries, LiesIn entry id

/-- The installed libraries are those whose folders the template has. -/
theorem mem_installedLibraries {entries : List String} {id : LibraryId} :
    id ∈ installedLibraries entries ↔ HasFolder entries id := by
  simp only [installedLibraries, List.mem_filterMap, folderOfEntry?_eq_some_iff, HasFolder]

/-! ### The highest version -/

/-- The version of a library is at most that of another one: the major versions decide, and the
minor ones where these are equal. -/
def LibraryId.AtMost (a b : LibraryId) : Prop :=
  a.major < b.major ∨ a.major = b.major ∧ a.minor ≤ b.minor

/-- Among libraries of one name the version decides the order. -/
theorem LibraryId.le_iff_of_name {a b : LibraryId} (h : a.name = b.name) :
    a.le b = true ↔ a.AtMost b := by
  rw [le, if_pos h, AtMost]
  split
  · next heq => simp [heq]
  · next hne =>
    rw [decide_eq_true_iff]
    omega

/-- Libraries of one name with the same version are the same. -/
theorem LibraryId.eq_of_atMost {a b : LibraryId} (hname : a.name = b.name) (hab : a.AtMost b)
    (hba : b.AtMost a) : a = b := by
  obtain ⟨name, major, minor⟩ := a
  obtain ⟨name', major', minor'⟩ := b
  simp only [AtMost] at hab hba
  obtain rfl : name = name' := hname
  obtain rfl : major = major' := by omega
  obtain rfl : minor = minor' := by omega
  rfl

/-- Of two versions one is at most the other. -/
theorem LibraryId.atMost_of_not_atMost {a b : LibraryId} (h : ¬a.AtMost b) : b.AtMost a := by
  simp only [AtMost] at h ⊢
  omega

/-- The order of versions is transitive. -/
theorem LibraryId.AtMost.trans {a b c : LibraryId} (hab : a.AtMost b) (hbc : b.AtMost c) :
    a.AtMost c := by
  simp only [AtMost] at hab hbc ⊢
  omega

/-- A library is the highest version of a name in a list. -/
structure IsHighest (name : String) (ids : List LibraryId) (id : LibraryId) : Prop where
  /-- The library has the name. -/
  named : id.name = name
  /-- The library is in the list. -/
  mem : id ∈ ids
  /-- No library of the name in the list has a higher version. -/
  highest : ∀ other ∈ ids, other.name = name → other.AtMost id

/-- There is one highest version. -/
theorem IsHighest.unique {name : String} {ids : List LibraryId} {a b : LibraryId}
    (ha : IsHighest name ids a) (hb : IsHighest name ids b) : a = b :=
  LibraryId.eq_of_atMost (ha.named.trans hb.named.symm) (hb.highest a ha.mem ha.named)
    (ha.highest b hb.mem hb.named)

/-- The running maximum of a list of libraries of one name ends with the highest of them. -/
theorem foldl_highest {name : String} (ids : List LibraryId) (hname : ∀ id ∈ ids, id.name = name)
    (best : LibraryId) (hbest : best.name = name) :
    ∃ top, ids.foldl (fun best? id => match best? with
      | none => some id
      | some best => if id.le best then some best else some id) (some best) = some top ∧
        IsHighest name (best :: ids) top := by
  induction ids generalizing best with
  | nil =>
    refine ⟨best, rfl, hbest, List.mem_singleton_self best, fun other hother _ => ?_⟩
    rw [List.mem_singleton.1 hother]
    exact .inr ⟨rfl, Nat.le_refl _⟩
  | cons id ids ih =>
    obtain ⟨hid, hids⟩ := List.forall_mem_cons.1 hname
    rw [List.foldl_cons]
    by_cases hle : id.le best = true
    · obtain ⟨top, hfold, htop⟩ := ih hids best hbest
      refine ⟨top, by simp only [hle, if_true]; exact hfold, htop.named, ?_,
        fun other hother hn => ?_⟩
      · rcases List.mem_cons.1 htop.mem with rfl | hmem
        · exact List.mem_cons_self
        · exact List.mem_cons_of_mem _ (List.mem_cons_of_mem _ hmem)
      · rcases List.mem_cons.1 hother with rfl | hother
        · exact htop.highest _ List.mem_cons_self hn
        · rcases List.mem_cons.1 hother with rfl | hother
          · have hatMost := (LibraryId.le_iff_of_name (hid.trans hbest.symm)).1 hle
            exact hatMost.trans (htop.highest best List.mem_cons_self hbest)
          · exact htop.highest other (List.mem_cons_of_mem _ hother) hn
    · obtain ⟨top, hfold, htop⟩ := ih hids id hid
      have hatMost : best.AtMost id := by
        refine LibraryId.atMost_of_not_atMost fun h => hle ?_
        exact (LibraryId.le_iff_of_name (hid.trans hbest.symm)).2 h
      refine ⟨top, by simp only [hle]; exact hfold, htop.named, List.mem_cons_of_mem _ htop.mem,
        fun other hother hn => ?_⟩
      rcases List.mem_cons.1 hother with rfl | hother
      · exact hatMost.trans (htop.highest id List.mem_cons_self hid)
      · exact htop.highest other hother hn

/-- The library that is found as the highest version is the one. -/
theorem highestVersion?_eq_some_iff {name : String} {ids : List LibraryId} {id : LibraryId} :
    highestVersion? name ids = some id ↔ IsHighest name ids id := by
  have hmem : ∀ other, other ∈ ids.filter (fun id => decide (id.name = name)) ↔
      other ∈ ids ∧ other.name = name := by simp
  have hfound : (∃ other ∈ ids, other.name = name) →
      ∃ top, highestVersion? name ids = some top ∧ IsHighest name ids top := by
    rintro ⟨other, hother, hn⟩
    have hin := (hmem other).2 ⟨hother, hn⟩
    rw [highestVersion?]
    cases hf : ids.filter fun id => decide (id.name = name) with
    | nil =>
      rw [hf] at hin
      cases hin
    | cons first rest =>
      rw [hf] at hmem
      have hnames : ∀ id ∈ first :: rest, id.name = name := fun id hid => ((hmem id).1 hid).2
      obtain ⟨hfirst, hrest⟩ := List.forall_mem_cons.1 hnames
      obtain ⟨top, hfold, htop⟩ := foldl_highest rest hrest first hfirst
      exact ⟨top, hfold, htop.named, ((hmem top).1 htop.mem).1,
        fun id hid hn => htop.highest id ((hmem id).2 ⟨hid, hn⟩) hn⟩
  constructor
  · intro h
    by_cases hany : ∃ other ∈ ids, other.name = name
    · obtain ⟨top, htop, hhighest⟩ := hfound hany
      rw [← Option.some.inj (htop.symm.trans h)]
      exact hhighest
    · have hnone : ids.filter (fun id => decide (id.name = name)) = [] :=
        List.filter_eq_nil_iff.2 fun other hother hn => hany ⟨other, hother, by simpa using hn⟩
      rw [highestVersion?, hnone] at h
      cases h
  · intro h
    obtain ⟨top, htop, hhighest⟩ := hfound ⟨id, h.mem, h.named⟩
    rw [htop, hhighest.unique h]

/-- The numbers of a version count, and not their digits. -/
example : highestVersion? "H5P.Blanks" [⟨"H5P.Blanks", 1, 9⟩, ⟨"H5P.Blanks", 1, 14⟩,
    ⟨"H5P.Blanks", 1, 12⟩] = some ⟨"H5P.Blanks", 1, 14⟩ := by decide

/-! ### Names and content types -/

/-- What a machine name resolves to in a template with certain dependencies and folders. -/
inductive Resolves (dependencies : List LibraryId) (entries : List String) (name : String) :
    LibraryId → Prop
  /-- The first dependency of the name. -/
  | dependency {front back : List LibraryId} {id : LibraryId}
    (hsplit : dependencies = front ++ id :: back) (hname : id.name = name)
    (hfirst : ∀ d ∈ front, d.name ≠ name) : Resolves dependencies entries name id
  /-- The highest version among the folders of the name, where no dependency has the name. -/
  | folder {id : LibraryId} (hnone : ∀ d ∈ dependencies, d.name ≠ name) (hname : id.name = name)
    (hfolder : HasFolder entries id)
    (hhighest : ∀ other, HasFolder entries other → other.name = name → other.AtMost id) :
    Resolves dependencies entries name id

/-- The library that is found for a name is the one that the name resolves to. -/
theorem resolveName?_eq_some_iff {dependencies : List LibraryId} {entries : List String}
    {name : String} {id : LibraryId} :
    resolveName? dependencies (installedLibraries entries) name = some id ↔
      Resolves dependencies entries name id := by
  rw [resolveName?]
  cases hfind : dependencies.find? fun id => decide (id.name = name) with
  | some found =>
    obtain ⟨hfound, front, back, hsplit, hfront⟩ := List.find?_eq_some_iff_append.1 hfind
    have hfirst : ∀ d ∈ front, d.name ≠ name := by simpa using hfront
    have hname : found.name = name := by simpa using hfound
    rw [Option.some_or, Option.some.injEq]
    constructor
    · rintro rfl
      exact .dependency hsplit hname hfirst
    · intro h
      cases h with
      | dependency hsplit' hname' hfirst' =>
        have hfind' := (List.find?_eq_some_iff_append (p := fun d => decide (d.name = name))).2
          ⟨by simpa using hname', _, _, hsplit', by simpa using hfirst'⟩
        exact Option.some.inj (hfind.symm.trans hfind')
      | folder hnone =>
        exact absurd hname (hnone found (hsplit ▸ List.mem_append_right _ List.mem_cons_self))
  | none =>
    have hnone : ∀ d ∈ dependencies, d.name ≠ name := by simpa using hfind
    rw [Option.none_or, highestVersion?_eq_some_iff]
    constructor
    · intro h
      exact .folder hnone h.named (mem_installedLibraries.1 h.mem) fun other hother =>
        h.highest other (mem_installedLibraries.2 hother)
    · intro h
      cases h with
      | dependency hsplit hname =>
        exact absurd hname (hnone _ (hsplit ▸ List.mem_append_right _ List.mem_cons_self))
      | folder _ hname hfolder hhighest =>
        exact ⟨hname, mem_installedLibraries.2 hfolder, fun other hother =>
          hhighest other (mem_installedLibraries.1 hother)⟩

/-- What provides a content type: the library that the first of its machine names resolves to which
resolves at all. -/
def Provides (dependencies : List LibraryId) (entries : List String) (t : ContentType)
    (id : LibraryId) : Prop :=
  ∃ front name back, t.machineNames = front ++ name :: back ∧
    (∀ earlier ∈ front, ∀ other, ¬Resolves dependencies entries earlier other) ∧
      Resolves dependencies entries name id

/-- The library that is found for a content type is the one that provides it. -/
theorem resolveType?_eq_some_iff {dependencies : List LibraryId} {entries : List String}
    {t : ContentType} {id : LibraryId} :
    resolveType? dependencies (installedLibraries entries) t = some id ↔
      Provides dependencies entries t id := by
  rw [resolveType?, List.findSome?_eq_some_iff, Provides]
  simp only [resolveName?_eq_some_iff, Option.eq_none_iff_forall_ne_some, ne_eq]
  constructor
  · rintro ⟨front, name, back, hsplit, hname, hfront⟩
    exact ⟨front, name, back, hsplit, hfront, hname⟩
  · rintro ⟨front, name, back, hsplit, hfront, hname⟩
    exact ⟨front, name, back, hsplit, hname, hfront⟩

/-! ### What decides nothing -/

/-- Two templates offer the same under some names: the same dependencies of these names in the same
order, and the same folders. -/
structure OffersSame (names : List String) (dependencies dependencies' : List LibraryId)
    (entries entries' : List String) : Prop where
  /-- The dependencies of the names are the same. -/
  dependencies : dependencies.filter (fun id => decide (id.name ∈ names)) =
    dependencies'.filter fun id => decide (id.name ∈ names)
  /-- The folders of the names are the same. -/
  folders : ∀ id, id.name ∈ names → (HasFolder entries id ↔ HasFolder entries' id)

/-- The first dependency of a name is found among the dependencies of some names that include it. -/
theorem find?_filter_names {names : List String} {name : String} (h : name ∈ names)
    (dependencies : List LibraryId) :
    (dependencies.filter fun id => decide (id.name ∈ names)).find? (fun id => id.name = name) =
      dependencies.find? fun id => id.name = name := by
  rw [List.find?_filter]
  refine List.find?_congr fun id _ => ?_
  by_cases hname : id.name = name
  · simp [hname, h]
  · simp [hname]

/-- The highest version of a name is decided by the folders of the name. -/
theorem highestVersion?_congr {name : String} {entries entries' : List String}
    (h : ∀ id, id.name = name → (HasFolder entries id ↔ HasFolder entries' id)) :
    highestVersion? name (installedLibraries entries) =
      highestVersion? name (installedLibraries entries') := by
  have hside : ∀ {entries entries' : List String},
      (∀ id, id.name = name → (HasFolder entries id ↔ HasFolder entries' id)) →
        ∀ id, IsHighest name (installedLibraries entries) id →
          IsHighest name (installedLibraries entries') id := by
    intro entries entries' h id hid
    have hmem : ∀ other, other.name = name →
        (other ∈ installedLibraries entries ↔ other ∈ installedLibraries entries') := by
      intro other hother
      rw [mem_installedLibraries, mem_installedLibraries, h other hother]
    exact ⟨hid.named, (hmem id hid.named).1 hid.mem, fun other hother hn =>
      hid.highest other ((hmem other hn).2 hother) hn⟩
  refine Option.ext fun id => ?_
  rw [highestVersion?_eq_some_iff, highestVersion?_eq_some_iff]
  exact ⟨hside h id, hside (fun id hid => (h id hid).symm) id⟩

/-- What is found for a content type is decided by what the template offers under its names. -/
theorem resolveType?_congr {t : ContentType} {dependencies dependencies' : List LibraryId}
    {entries entries' : List String}
    (h : OffersSame t.machineNames dependencies dependencies' entries entries') :
    resolveType? dependencies (installedLibraries entries) t =
      resolveType? dependencies' (installedLibraries entries') t := by
  rw [resolveType?, resolveType?, ← List.head?_filterMap, ← List.head?_filterMap]
  refine congrArg List.head? (List.filterMap_congr fun name hname => ?_)
  rw [resolveName?, resolveName?, ← find?_filter_names hname dependencies, h.dependencies,
    find?_filter_names hname, highestVersion?_congr fun id hid => h.folders id (hid ▸ hname)]

/-! ### The table -/

/-- What a table says of the libraries that a template offers. -/
structure IsTableOf (dependencies : List LibraryId) (entries : List String)
    (table : LibraryTable) : Prop where
  /-- The table has the library that provides a content type. -/
  provided : ∀ t id, table.get t = some id ↔ Provides dependencies entries t id
  /-- The table has no library for a content type when none of its names resolves. -/
  missing : ∀ t, table.get t = none ↔
    ∀ name ∈ t.machineNames, ∀ id, ¬Resolves dependencies entries name id
  /-- The table says whether text is provided by the rich text library. -/
  advancedText : table.advancedText = true ↔
    ∃ id, table.get .text = some id ∧ id.name = ContentType.advancedText

/-- The table of a template is complete and has for each content type what is found for it. -/
theorem resolveLibraries_get (dependencies : List LibraryId) (entries : List String) :
    (resolveLibraries dependencies entries).IsComplete ∧
      ∀ t, (resolveLibraries dependencies entries).get t =
        resolveType? dependencies (installedLibraries entries) t := by
  obtain ⟨hcomplete, hget⟩ := LibraryTable.IsComplete.empty.foldl_insert
    (ContentType.all.map fun t => (t, resolveType? dependencies (installedLibraries entries) t))
  refine ⟨hcomplete, fun t => (hget t).trans ?_⟩
  cases t <;> rfl

/-- The table of a template has for each content type the library that provides it, and none where
no name resolves. Neither the order of the entries nor their repetition makes a difference, and what
the table says of a content type is decided by the dependencies and the folders of its names
alone. -/
theorem resolveLibraries_exact (dependencies : List LibraryId) (entries : List String) :
    IsTableOf dependencies entries (resolveLibraries dependencies entries) ∧
      (∀ entries', (∀ entry, entry ∈ entries' ↔ entry ∈ entries) →
        resolveLibraries dependencies entries' = resolveLibraries dependencies entries) ∧
      ∀ t dependencies' entries',
        OffersSame t.machineNames dependencies' dependencies entries' entries →
          (resolveLibraries dependencies' entries').get t =
            (resolveLibraries dependencies entries).get t := by
  obtain ⟨hcomplete, hget⟩ := resolveLibraries_get dependencies entries
  refine ⟨?_, fun entries' h => ?_, fun t dependencies' entries' h => ?_⟩
  · constructor
    case provided =>
      intro t id
      rw [hget, resolveType?_eq_some_iff]
    case missing =>
      intro t
      rw [hget, resolveType?, List.findSome?_eq_none_iff]
      simp only [Option.eq_none_iff_forall_ne_some, ne_eq, resolveName?_eq_some_iff]
    case advancedText =>
      rw [hcomplete.advancedText]
      cases (resolveLibraries dependencies entries).get .text with
      | none => simp [LibraryTable.isAdvanced]
      | some id => simp [LibraryTable.isAdvanced]
  · have hsame : ∀ t, resolveType? dependencies (installedLibraries entries') t =
        resolveType? dependencies (installedLibraries entries) t := by
      refine fun t => resolveType?_congr ⟨rfl, fun id _ => ?_⟩
      simp only [HasFolder, h]
    simp only [resolveLibraries, hsame]
  · rw [hget, (resolveLibraries_get dependencies' entries').2, resolveType?_congr h]

end InteractiveBook.Library
