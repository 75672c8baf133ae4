import InteractiveBook.CommandLine.Batch
import InteractiveBook.Proofs.Text.Path
import Mathlib.Data.List.Induction
import Mathlib.Data.List.Nodup
import Mathlib.Data.List.Perm.Subperm

/-!
# Sources that would write the same package

The sources of a folder are divided by the names of their packages. A source is compiled when the
name of its package is its own; the others form groups of at least two, one for each name. How names
are shown does not matter to that, even where different names are shown alike.
-/

namespace InteractiveBook.CommandLine

variable {n : Naming} {sources : List String} {path : String}

/-! ### Names of packages -/

/-- The name of the package of a source in a folder is one. -/
theorem Naming.isPackageFile (n : Naming) (path : String) : IsPackageFile (n.packageName path) := by
  rw [packageName]
  split
  · exact isPackageFile_append (by decide : '/' ∉ "book".toList)
  · refine isPackageFile_append ?_
    cases hlast : Text.lastName? path with
    | none => exact List.not_mem_nil
    | some name =>
      refine n.unslashed _ ?_
      rw [String.toList_ofList]
      exact not_mem_stem_of_lastName? hlast

/-- Where names are shown as they are, the package of a source has the same name in a folder as by
itself. -/
theorem Naming.packageName_plain (path : String) :
    Naming.packageName {} path = InteractiveBook.packageName path := by
  rw [packageName, InteractiveBook.packageName]
  cases hlast : Text.lastName? path with
  | none => rfl
  | some name =>
    have hname : name ≠ [] := by
      rintro rfl
      rw [Text.lastName?] at hlast
      split at hlast
      · cases hlast
      · simpa using (List.mem_filter.1 (List.mem_of_getLast? hlast)).2
    have hstem : String.ofList (Text.stem name) ≠ "" := by
      rw [← String.toList_inj.ne, String.toList_ofList, Text.stem, Text.cutExtension]
      split
      · next hfront => exact hfront.2.1
      · exact hname
    exact congrArg (· ++ "." ++ packageExtension) (if_neg hstem)

/-! ### Groups -/

/-- The sources whose package has a name. -/
def named (n : Naming) (sources : List String) (name : String) : List String :=
  sources.filter fun path => n.packageName path = name

/-- A source has the name of its package. -/
theorem mem_named {name : String} : path ∈ named n sources name ↔
    path ∈ sources ∧ n.packageName path = name := by
  rw [named, List.mem_filter, decide_eq_true_iff]

/-- The group of a name. -/
def groupOf (name : String) (groups : List (String × List String)) : List String :=
  ((groups.find? fun g => g.1 = name).map (·.2)).getD []

/-- The names of groups ascend. -/
def AreOrdered (groups : List (String × List String)) : Prop :=
  groups.Pairwise fun g g' => g.1 < g'.1

section Groups

variable {name : String} {groups : List (String × List String)}

/-- The group of a name that comes first. -/
theorem groupOf_cons (name : String) (g : String × List String)
    (groups : List (String × List String)) :
    groupOf name (g :: groups) = if g.1 = name then g.2 else groupOf name groups := by
  rw [groupOf, List.find?_cons]
  by_cases h : g.1 = name <;> simp [h, groupOf]

/-- No group has a name that comes before all of theirs. -/
theorem groupOf_of_lt (h : ∀ g ∈ groups, name < g.1) : groupOf name groups = [] := by
  have hnone : (groups.find? fun g => g.1 = name) = none := by
    rw [List.find?_eq_none]
    intro g hg heq
    exact String.ne_of_lt (h g hg) (of_decide_eq_true heq).symm
  rw [groupOf, hnone]
  rfl

/-- A source joins the group of its name, and the other groups stay as they are. -/
theorem groupOf_joinGroup (h : AreOrdered groups) (name path other : String) :
    groupOf other (joinGroup name path groups) =
      if other = name then groupOf name groups ++ [path] else groupOf other groups := by
  induction groups with
  | nil =>
    rw [joinGroup, groupOf_cons]
    by_cases heq : other = name
    · rw [if_pos heq, if_pos heq.symm]
      rfl
    · rw [if_neg heq, if_neg (Ne.symm heq)]
  | cons g rest ih =>
    obtain ⟨first, group⟩ := g
    obtain ⟨hfirst, hrest⟩ := List.pairwise_cons.1 h
    rw [joinGroup]
    split
    · next heq =>
      simp only [groupOf_cons, heq, if_true]
      by_cases hother : other = first <;> simp [hother, eq_comm]
    next hne =>
    split
    · next hlt =>
      have hnone : groupOf name ((first, group) :: rest) = [] := by
        refine groupOf_of_lt fun g hg => ?_
        obtain rfl | hg := List.mem_cons.1 hg
        · exact hlt
        · exact String.lt_trans hlt (hfirst g hg)
      rw [groupOf_cons, hnone]
      by_cases hother : other = name
      · simp [hother]
      · simp [hother, Ne.symm hother]
    · rw [groupOf_cons, groupOf_cons, groupOf_cons, ih hrest, if_neg (Ne.symm hne)]
      by_cases hother : other = name
      · rw [if_pos hother, if_pos hother, if_neg fun heq => hne (heq.trans hother).symm]
      · rw [if_neg hother, if_neg hother]

/-- A group after a source joined has the name of the source, and the source in it, or was there
before. -/
theorem eq_or_mem_of_mem_joinGroup {g : String × List String}
    (h : g ∈ joinGroup name path groups) : g.1 = name ∧ g.2 ≠ [] ∨ g ∈ groups := by
  induction groups with
  | nil =>
    obtain rfl := List.mem_singleton.1 h
    exact .inl ⟨rfl, nofun⟩
  | cons first rest ih =>
    rw [joinGroup] at h
    split at h
    · next heq =>
      obtain rfl | h := List.mem_cons.1 h
      · exact .inl ⟨heq.symm, by simp⟩
      · exact .inr (List.mem_cons_of_mem _ h)
    · split at h
      · obtain rfl | h := List.mem_cons.1 h
        · exact .inl ⟨rfl, nofun⟩
        · exact .inr h
      · obtain rfl | h := List.mem_cons.1 h
        · exact .inr List.mem_cons_self
        · exact (ih h).imp_right (List.mem_cons_of_mem _)

/-- The names of groups still ascend after a source joined. -/
theorem AreOrdered.joinGroup (h : AreOrdered groups) (name path : String) :
    AreOrdered (joinGroup name path groups) := by
  induction groups with
  | nil => exact List.pairwise_singleton ..
  | cons g rest ih =>
    obtain ⟨first, group⟩ := g
    obtain ⟨hfirst, hrest⟩ := List.pairwise_cons.1 h
    rw [CommandLine.joinGroup]
    split
    · exact List.pairwise_cons.2 ⟨hfirst, hrest⟩
    next hne =>
    split
    · next hlt =>
      refine List.pairwise_cons.2 ⟨fun g hg => ?_, h⟩
      obtain rfl | hg := List.mem_cons.1 hg
      · exact hlt
      · exact String.lt_trans hlt (hfirst g hg)
    · next hlt =>
      refine List.pairwise_cons.2 ⟨fun g hg => ?_, ih hrest⟩
      obtain ⟨heq, -⟩ | hg := eq_or_mem_of_mem_joinGroup hg
      · rw [heq]
        exact Std.lt_of_le_of_ne (String.not_lt.1 hlt) (Ne.symm hne)
      · exact hfirst g hg

/-- One source more is in the groups after it joined. -/
theorem joinGroup_perm (name path : String) (groups : List (String × List String)) :
    ((joinGroup name path groups).flatMap (·.2)).Perm (groups.flatMap (·.2) ++ [path]) := by
  induction groups with
  | nil => exact .refl _
  | cons g rest ih =>
    obtain ⟨first, group⟩ := g
    rw [joinGroup]
    split
    · simp only [List.flatMap_cons, List.append_assoc]
      exact (List.perm_append_comm).append_left group
    · split
      · simp only [List.flatMap_cons]
        exact (List.perm_append_singleton ..).symm
      · simp only [List.flatMap_cons, List.append_assoc]
        exact ih.append_left group

/-- A group that is there is that of its name. -/
theorem groupOf_of_mem (h : AreOrdered groups) {g : String × List String} (hg : g ∈ groups) :
    groupOf g.1 groups = g.2 := by
  induction groups with
  | nil => cases hg
  | cons first rest ih =>
    obtain ⟨hfirst, hrest⟩ := List.pairwise_cons.1 h
    rw [groupOf_cons]
    obtain rfl | hg := List.mem_cons.1 hg
    · exact if_pos rfl
    · rw [if_neg (String.ne_of_lt (hfirst g hg))]
      exact ih hrest hg

/-- The group of a name is there unless it is empty. -/
theorem mem_of_groupOf_ne_nil (h : groupOf name groups ≠ []) :
    (name, groupOf name groups) ∈ groups := by
  induction groups with
  | nil => exact absurd rfl h
  | cons first rest ih =>
    rw [groupOf_cons] at h ⊢
    split
    · next heq => exact heq ▸ List.mem_cons_self
    · next hne =>
      rw [if_neg hne] at h
      exact List.mem_cons_of_mem _ (ih h)

end Groups

/-- Sources in groups. -/
structure IsGrouped (n : Naming) (sources : List String) (groups : List (String × List String)) :
    Prop where
  /-- The names ascend. -/
  ordered : AreOrdered groups
  /-- The group of each name has the sources with the name. -/
  named : ∀ name, groupOf name groups = named n sources name
  /-- No group is empty. -/
  occupied : ∀ g ∈ groups, g.2 ≠ []
  /-- Every source is in a group. -/
  perm : (groups.flatMap (·.2)).Perm sources

/-- Sources stay in groups when one more joins. -/
theorem IsGrouped.joinGroup {groups : List (String × List String)} (h : IsGrouped n sources groups)
    (path : String) :
    IsGrouped n (sources ++ [path]) (joinGroup (n.packageName path) path groups) := by
  refine ⟨h.ordered.joinGroup _ _, fun name => ?_, fun g hg => ?_, ?_⟩
  · rw [groupOf_joinGroup h.ordered, h.named, h.named, CommandLine.named, CommandLine.named,
      CommandLine.named, List.filter_append]
    by_cases hname : name = n.packageName path
    · simp [hname]
    · simp [hname, Ne.symm hname]
  · obtain ⟨-, hne⟩ | hg := eq_or_mem_of_mem_joinGroup hg
    · exact hne
    · exact h.occupied g hg
  · exact (joinGroup_perm ..).trans (h.perm.append_right [path])

/-- Sources are put in groups. -/
theorem isGrouped_groupByOutput (n : Naming) (sources : List String) :
    IsGrouped n sources (groupByOutput n sources) := by
  induction sources using List.reverseRecOn with
  | nil => exact ⟨.nil, fun _ => rfl, nofun, .refl _⟩
  | append_singleton sources path ih =>
    rw [groupByOutput, List.foldl_concat]
    exact ih.joinGroup path

/-- The groups are those of the names that some source has. -/
theorem IsGrouped.mem_iff {groups : List (String × List String)} (h : IsGrouped n sources groups)
    {g : String × List String} :
    g ∈ groups ↔ g.2 = CommandLine.named n sources g.1 ∧ g.2 ≠ [] := by
  constructor
  · intro hg
    rw [← h.named, groupOf_of_mem h.ordered hg]
    exact ⟨rfl, h.occupied g hg⟩
  · rintro ⟨heq, hne⟩
    rw [heq, ← h.named] at hne
    have hmem := mem_of_groupOf_ne_nil hne
    rwa [h.named, ← heq] at hmem

/-! ### The division -/

/-- A division of sources into those that are alone with the name of their packages and groups of
those that share one. -/
structure IsSplit (n : Naming) (sources : List String) (s : OutputSplit) : Prop where
  /-- Every source is in one place. -/
  perm : (s.unique ++ s.conflicts.flatMap (·.2)).Perm sources
  /-- A source is apart when no other one has a package of that name. -/
  alone : ∀ path, path ∈ s.unique ↔ path ∈ sources ∧
    ∀ other ∈ sources, n.packageName other = n.packageName path → other = path
  /-- The members of a group, at least two, are all the sources whose packages have its name. -/
  shared : ∀ g ∈ s.conflicts, 2 ≤ g.2.length ∧ ∀ path, path ∈ g.2 ↔
    path ∈ sources ∧ n.packageName path = g.1
  /-- Different groups have different names. -/
  distinct : (s.conflicts.map Prod.fst).Nodup

/-- A source is the only one of its name when every source of the name is that source. -/
theorem length_named_eq_one_iff (hsources : sources.Nodup) (hpath : path ∈ sources) :
    (named n sources (n.packageName path)).length = 1 ↔
      ∀ other ∈ sources, n.packageName other = n.packageName path → other = path := by
  have hself : path ∈ named n sources (n.packageName path) := mem_named.2 ⟨hpath, rfl⟩
  constructor
  · intro hone other hother hname
    obtain ⟨only, honly⟩ := List.length_eq_one_iff.1 hone
    have hmem : ∀ path', path' ∈ named n sources (n.packageName path) → path' = only := by
      intro path' hpath'
      rwa [honly, List.mem_singleton] at hpath'
    rw [hmem other (mem_named.2 ⟨hother, hname⟩), hmem path hself]
  · intro halone
    have hnodup : (named n sources (n.packageName path)).Nodup := hsources.filter _
    have honly : named n sources (n.packageName path) ⊆ [path] := by
      intro other hother
      obtain ⟨hmem, hname⟩ := mem_named.1 hother
      exact List.mem_singleton.2 (halone other hmem hname)
    have hmost := (List.subperm_of_subset hnodup honly).length_le
    have hleast := List.length_pos_of_mem hself
    rw [List.length_singleton] at hmost
    omega

/-- A source is apart when it is the only one whose package has that name. -/
theorem mem_unique : path ∈ (splitOutputConflicts n sources).unique ↔
    path ∈ sources ∧ (named n sources (n.packageName path)).length = 1 := by
  have hgrouped := isGrouped_groupByOutput n sources
  rw [splitOutputConflicts, (List.mergeSort_perm _ _).mem_iff, List.mem_flatMap]
  simp only [List.mem_filter, decide_eq_true_iff, hgrouped.mem_iff]
  constructor
  · rintro ⟨g, ⟨⟨hg, -⟩, hone⟩, hpath⟩
    obtain ⟨hsource, hname⟩ := mem_named.1 (hg ▸ hpath)
    rw [hname, ← hg]
    exact ⟨hsource, hone⟩
  · rintro ⟨hpath, hone⟩
    have hself : path ∈ named n sources (n.packageName path) := mem_named.2 ⟨hpath, rfl⟩
    exact ⟨(n.packageName path, _), ⟨⟨rfl, List.ne_nil_of_mem hself⟩, hone⟩, hself⟩

/-- The sources are divided into those that are apart and the groups that share a name. -/
theorem isSplit_splitOutputConflicts (hsources : sources.Nodup) :
    IsSplit n sources (splitOutputConflicts n sources) := by
  have hgrouped := isGrouped_groupByOutput n sources
  constructor
  case perm =>
    have hapart : (splitOutputConflicts n sources).unique.Perm
        (((groupByOutput n sources).filter fun g => g.2.length = 1).flatMap (·.2)) :=
      List.mergeSort_perm _ _
    have hall := List.filter_append_perm (fun g : String × List String => decide (g.2.length = 1))
      (groupByOutput n sources)
    refine (hapart.append_right _).trans (.trans ?_ hgrouped.perm)
    rw [splitOutputConflicts, ← List.flatMap_append]
    refine .trans (.of_eq ?_) (hall.flatMap_right _)
    simp
  case alone =>
    intro path
    rw [mem_unique]
    exact and_congr_right fun hpath => length_named_eq_one_iff hsources hpath
  case shared =>
    intro g hg
    obtain ⟨hmem, hlength⟩ := List.mem_filter.1 hg
    obtain ⟨hnamed, hne⟩ := hgrouped.mem_iff.1 hmem
    have hpos := List.length_pos_iff.2 hne
    have hmany : g.2.length ≠ 1 := of_decide_eq_true hlength
    refine ⟨by omega, fun path => ?_⟩
    rw [hnamed, mem_named]
  case distinct =>
    have hnames : ((groupByOutput n sources).map Prod.fst).Nodup :=
      List.pairwise_map.2 (hgrouped.ordered.imp String.ne_of_lt)
    exact hnames.sublist (List.filter_sublist.map _)

/-- No source is lost in a division. -/
theorem IsSplit.length_eq {s : OutputSplit} (h : IsSplit n sources s) :
    s.unique.length + s.conflicting = sources.length := by
  have hcount : s.conflicting = (s.conflicts.flatMap (·.2)).length := by
    rw [List.length_flatMap, List.sum_eq_foldl, List.foldl_map, OutputSplit.conflicting]
  rw [hcount, ← List.length_append]
  exact h.perm.length_eq

/-- Sources that are apart have packages of different names. -/
theorem IsSplit.nodup_packageName {s : OutputSplit} (h : IsSplit n sources s)
    (hsources : sources.Nodup) : (s.unique.map n.packageName).Nodup := by
  have hunique : s.unique.Nodup := (List.nodup_append.1 (h.perm.nodup_iff.2 hsources)).1
  refine hunique.map_on fun path hpath other hother hname => ?_
  obtain ⟨hsource, halone⟩ := (h.alone path).1 hpath
  exact (halone other ((h.alone other).1 hother).1 hname.symm).symm

end InteractiveBook.CommandLine
