import InteractiveBook.CommandLine.Batch
import InteractiveBook.CommandLine.FileTree
import InteractiveBook.Proofs.CommandLine.Check
import InteractiveBook.Proofs.Text.Path

/-!
# Where paths lead

A path is followed part by part through the folders of a tree. What is at a place changes where a
file is put and nowhere else, and as long as the same places are folders, paths lead to the same
places. So it can be said in advance where the package of a source goes, and that it goes there
unless the system refuses it or a folder stands in its way.
-/

namespace InteractiveBook.CommandLine.FileTree

open Text

variable {t t' : FileTree} {p q : Place}

/-! ### What is at a place -/

/-- The root is a folder. -/
theorem node?_nil (t : FileTree) : t.node? [] = some .folder := if_pos rfl

/-- A file or folder is found at the place where it was put, and elsewhere what was there. -/
theorem node?_put (t : FileTree) (hp : p ≠ []) (n : FileNode) (q : Place) :
    (t.put p n).node? q = if q = p then some n else t.node? q := by
  by_cases hq : q = []
  · rw [hq, node?_nil, node?_nil, if_neg (Ne.symm hp)]
  rw [node?, node?, if_neg hq, if_neg hq, put]
  split
  · -- The replaced nodes keep their places.
    rename_i hany
    have hplaces : ((fun m : Place × FileNode => decide (m.1 = q)) ∘
        fun old => if old.1 = p then (p, n) else old) = fun m => decide (m.1 = q) := by
      funext m
      by_cases hm : m.1 = p <;> simp [hm]
    rw [List.find?_map, hplaces]
    cases hfind : t.nodes.find? fun m => decide (m.1 = q) with
    | none =>
      rw [if_neg, Option.map_none, Option.map_none]
      rintro rfl
      obtain ⟨m, hm, hmp⟩ := List.any_eq_true.1 hany
      exact List.find?_eq_none.1 hfind m hm hmp
    | some m =>
      have hm : m.1 = q := by simpa using List.find?_some hfind
      by_cases hqp : q = p <;> simp [hm, hqp]
  · rename_i hany
    rw [List.find?_append]
    by_cases hqp : q = p
    · have hnone : (t.nodes.find? fun m => decide (m.1 = q)) = none := by
        rw [List.find?_eq_none]
        intro m hm hmq
        exact hany (List.any_eq_true.2 ⟨m, hm, hqp ▸ hmq⟩)
      rw [hnone, if_pos hqp, hqp]
      simp
    · rw [if_neg hqp]
      simp [Ne.symm hqp]

/-- Putting something in a tree changes nothing about what the system refuses. -/
theorem refusals_put (t : FileTree) (p : Place) (n : FileNode) :
    (t.put p n).refusals = t.refusals := by
  rw [put]
  split <;> rfl

/-! ### Following a path -/

/-- Where a part of a path leads from a folder. -/
def nextPlace (p : Place) (part : List Char) : Place :=
  if part = [] ∨ part = ['.'] then p
  else if part = ['.', '.'] then p.dropLast
  else p ++ [String.ofList part]

/-- Parts that lead nowhere stay at their place. -/
theorem nextPlace_of_stays {part : List Char} (h : Stays part) : nextPlace p part = p := if_pos h

/-- A name leads to a place in the folder. -/
theorem nextPlace_of_isFileName {part : List Char} (h : IsFileName part) :
    nextPlace p part = p ++ [String.ofList part] := by
  have hmoves : ¬(part = [] ∨ part = ['.']) := h.moves
  rw [nextPlace, if_neg hmoves, if_neg h.below]

/-- A part of a path is followed from a folder. -/
theorem follow_cons_eq_ok_iff {part : List Char} {rest : List (List Char)} :
    t.follow p (part :: rest) = .ok q ↔
      t.node? p = some .folder ∧ t.follow (nextPlace p part) rest = .ok q := by
  rw [follow, nextPlace]
  cases t.node? p with
  | none => simp
  | some n =>
    cases n with
    | file data => simp
    | folder =>
      dsimp only
      split
      · simp
      · split <;> simp

/-- The parts of a path are followed in turn. -/
theorem follow_append_eq_ok_iff {parts rest : List (List Char)} :
    t.follow p (parts ++ rest) = .ok q ↔
      ∃ o, t.follow p parts = .ok o ∧ t.follow o rest = .ok q := by
  induction parts generalizing p with
  | nil => simp [follow]
  | cons part parts ih =>
    rw [List.cons_append, follow_cons_eq_ok_iff, ih]
    simp only [follow_cons_eq_ok_iff, and_assoc, exists_and_left]

/-- Parts that lead nowhere end where they began. -/
theorem eq_of_follow_stays {rest : List (List Char)} (hrest : ∀ part ∈ rest, Stays part)
    (h : t.follow p rest = .ok q) : q = p := by
  induction rest with
  | nil => exact (Except.ok.inj h).symm
  | cons part rest ih =>
    obtain ⟨hpart, hrest⟩ := List.forall_mem_cons.1 hrest
    obtain ⟨-, hfollow⟩ := follow_cons_eq_ok_iff.1 h
    rw [nextPlace_of_stays hpart] at hfollow
    exact ih hrest hfollow

/-- From a folder, parts that lead nowhere can be followed. -/
theorem follow_stays {rest : List (List Char)} (hfolder : t.node? p = some .folder)
    (hrest : ∀ part ∈ rest, Stays part) : t.follow p rest = .ok p := by
  induction rest with
  | nil => rfl
  | cons part rest ih =>
    obtain ⟨hpart, hrest⟩ := List.forall_mem_cons.1 hrest
    rw [follow_cons_eq_ok_iff, nextPlace_of_stays hpart]
    exact ⟨hfolder, ih hrest⟩

/-- The parts of a path lead to the same place in every tree that has its folders. -/
theorem follow_mono {parts : List (List Char)}
    (hfolders : ∀ r, t.node? r = some .folder → t'.node? r = some .folder)
    (h : t.follow p parts = .ok q) : t'.follow p parts = .ok q := by
  induction parts generalizing p with
  | nil => exact h
  | cons part rest ih =>
    obtain ⟨hfolder, hfollow⟩ := follow_cons_eq_ok_iff.1 h
    exact follow_cons_eq_ok_iff.2 ⟨hfolders p hfolder, ih hfollow⟩

/-- Everything above a place is a folder. -/
def IsRooted (t : FileTree) (p : Place) : Prop :=
  ∀ r, r <+: p → r ≠ p → t.node? r = some .folder

/-- Above a folder in a rooted place there are folders only. -/
theorem IsRooted.dropLast (h : t.IsRooted p) : t.node? p.dropLast = some .folder ∧
    t.IsRooted p.dropLast := by
  by_cases hp : p = []
  · subst hp
    exact ⟨node?_nil t, h⟩
  · have hlt : ∀ r, r <+: p.dropLast → r ≠ p := by
      rintro r hr rfl
      have hlength := hr.length_le
      rw [List.length_dropLast] at hlength
      have := List.length_pos_iff.2 hp
      omega
    have habove : ∀ r, r <+: p.dropLast → t.node? r = some .folder := fun r hr =>
      h r (hr.trans (List.dropLast_prefix p)) (hlt r hr)
    exact ⟨habove _ List.prefix_rfl, fun r hr _ => habove r hr⟩

/-- A place in a folder is rooted where the folder is. -/
theorem IsRooted.concat (h : t.IsRooted p) (hfolder : t.node? p = some .folder) (name : String) :
    t.IsRooted (p ++ [name]) := by
  intro r hr hne
  obtain heq | hr := List.prefix_concat_iff.1 hr
  · exact absurd heq hne
  · by_cases heq : r = p
    · rwa [heq]
    · exact h r hr heq

/-- Following a path leads to rooted places. -/
theorem IsRooted.follow {parts : List (List Char)} (hp : t.IsRooted p)
    (h : t.follow p parts = .ok q) : t.IsRooted q := by
  induction parts generalizing p with
  | nil => exact Except.ok.inj h ▸ hp
  | cons part rest ih =>
    obtain ⟨hfolder, hfollow⟩ := follow_cons_eq_ok_iff.1 h
    refine ih ?_ hfollow
    rw [nextPlace]
    split
    · exact hp
    · split
      · exact hp.dropLast.2
      · exact hp.concat hfolder _

/-- The root is rooted. -/
theorem isRooted_nil (t : FileTree) : t.IsRooted [] := by
  intro r hr hne
  exact absurd (List.prefix_nil.1 hr) hne

/-! ### Folders and the files in them -/

/-- A path leads to a folder; nothing, as a path, leads to the root. -/
structure LeadsTo (t : FileTree) (folder : String) (o : Place) : Prop where
  /-- The parts of the path lead to the place. -/
  followed : t.follow [] (pathParts folder) = .ok o
  /-- At the place there is a folder. -/
  isFolder : t.node? o = some .folder

/-- A path leads to the same folder in every tree that has its folders. -/
theorem LeadsTo.mono {folder : String} (h : t.LeadsTo folder p)
    (hfolders : ∀ r, t.node? r = some .folder → t'.node? r = some .folder) : t'.LeadsTo folder p :=
  ⟨follow_mono hfolders h.followed, hfolders p h.isFolder⟩

/-- A path all of whose parts stay at their place leads to the root. -/
theorem leadsTo_of_stays {folder : String} (h : ∀ part ∈ pathParts folder, Stays part) :
    t.LeadsTo folder [] :=
  ⟨follow_stays (node?_nil t) h, node?_nil t⟩

/-- The path of a name in a folder leads through the folder. -/
theorem LeadsTo.exists_childPath {folder : String} (h : t.LeadsTo folder p) (name : String) :
    ∃ front before, (childPath folder name).toList = front ++ name.toList ∧ IsFront front ∧
      t.follow [] before = .ok p ∧
      ∀ name, '/' ∉ name → splitOnChar '/' (front ++ name) = before ++ [name] := by
  obtain ⟨front, hpath, hfront, hcases⟩ := childPath_spec folder name
  obtain ⟨before, hparts⟩ := hfront.splitOnChar
  refine ⟨front, before, hpath, hfront, ?_, hparts⟩
  have hempty := hparts [] List.not_mem_nil
  rw [List.append_nil] at hempty
  obtain rfl | ⟨-, rfl⟩ := hcases
  · have hfollowed := h.followed
    rw [pathParts, hempty, follow_append_eq_ok_iff] at hfollowed
    obtain ⟨o, hbefore, hlast⟩ := hfollowed
    rwa [eq_of_follow_stays (by simp [Stays]) hlast]
  · have hslash := splitOnChar_append_sep '/' folder.toList []
    rw [hempty] at hslash
    rw [List.append_cancel_right hslash]
    exact h.followed

/-- The path of the parent folder leads to the folder that the front of a path leads to. -/
theorem leadsTo_parentPath {path : String} {front name : List Char}
    {before : List (List Char)} (hpath : path.toList = front ++ name) (hfront : IsFront front)
    (hname : IsFileName name) (hparts : splitOnChar '/' front = before ++ [[]])
    (hbefore : t.follow [] before = .ok p) (hfolder : t.node? p = some .folder) :
    t.LeadsTo (parentPath path) p := by
  obtain ⟨rest, hrest, hparent⟩ | ⟨hroot, hstays⟩ := parentPath_of_front hpath hfront hname
  · have hfollowed : t.follow [] (pathParts (parentPath path) ++ rest) = .ok p := by
      rw [← hparent, hparts, follow_append_eq_ok_iff]
      exact ⟨p, hbefore, follow_stays hfolder (by simp [Stays])⟩
    obtain ⟨o, ho, hlast⟩ := follow_append_eq_ok_iff.1 hfollowed
    obtain rfl := eq_of_follow_stays hrest hlast
    exact ⟨ho, hfolder⟩
  · rw [hparts] at hstays
    obtain rfl := eq_of_follow_stays
      (fun part hpart => hstays part (List.mem_append_left _ hpart)) hbefore
    rw [hroot]
    exact leadsTo_of_stays (by decide)

/-- A file is written next to its path. -/
theorem LeadsTo.place?_temporaryFolder {path : String} (h : t.LeadsTo (parentPath path) p) :
    t.place? (temporaryFolder path) = .ok p := by
  rw [temporaryFolder]
  split
  · rename_i hempty
    have hroot : t.LeadsTo "" [] := leadsTo_of_stays (by decide)
    have hpoint : t.LeadsTo "." [] := leadsTo_of_stays (by decide)
    have hfollowed := h.followed
    rw [hempty, hroot.followed] at hfollowed
    rw [place?, if_neg (by decide), hpoint.followed, hfollowed]
  · rename_i hne
    rw [place?, if_neg hne, h.followed]

/-- A file is moved to its path unless a folder stands there. -/
theorem target?_eq {path : String} {before : List (List Char)} {name : List Char}
    (hpath : path ≠ "") (hparts : pathParts path = before ++ [name]) (hname : IsFileName name)
    (hbefore : t.follow [] before = .ok p) (hfolder : t.node? p = some .folder) :
    t.target? path = if t.node? (p ++ [String.ofList name]) = some .folder then .error .isFolder
      else .ok (p ++ [String.ofList name]) := by
  have hnamed : ((before ++ [name]).reverse.dropWhile (· = [])).reverse = before ++ [name] := by
    have hne : name ≠ [] := fun heq => hname.moves (.inl heq)
    simp [hne]
  have hlength : ¬(before ++ [name]).length < (before ++ [name]).length := lt_irrefl _
  have hpoints : ¬(name = ['.'] ∨ name = ['.', '.']) :=
    not_or.2 ⟨fun h => hname.moves (.inr h), hname.below⟩
  rw [target?, hparts, hnamed, List.getLast?_concat, if_neg hpath]
  simp only [bind, Except.bind, pure, Except.pure, List.dropLast_concat, hbefore, hfolder]
  rw [if_neg hpoints, if_neg hlength]
  split
  · next hnode => rw [if_pos hnode]; rfl
  · next hnode => rw [if_neg hnode]

/-- A path with a name behind a front is not empty. -/
theorem ne_empty_of_front {path : String} {front name : List Char}
    (hpath : path.toList = front ++ name) (hname : IsFileName name) : path ≠ "" := by
  rintro rfl
  exact hname.moves (.inl (List.append_eq_nil_iff.1 hpath.symm).2)

/-- Why no file is put at a place by a path: the system refuses, or a folder stands there. -/
def replaceFault? (t : FileTree) (path : String) (p : Place) : Option ReplaceFault :=
  (t.refusals.writing path).or
    (if t.node? p = some .folder then some (.notMoved .isFolder) else none)

/-- A file is put in a folder that a path leads to, unless the system refuses or a folder stands at
its place. -/
theorem LeadsTo.replaceFile_childPath {folder name : String} (h : t.LeadsTo folder p)
    (hname : IsFileName name.toList) (data : ByteArray) :
    t.replaceFile (temporaryFolder (childPath folder name)) (childPath folder name) data =
      match t.replaceFault? (childPath folder name) (p ++ [name]) with
      | some fault => .error fault
      | none => .ok (t.put (p ++ [name]) (.file data)) := by
  obtain ⟨front, before, hpath, hfront, hbefore, hparts⟩ := h.exists_childPath name
  have hempty := hparts [] List.not_mem_nil
  rw [List.append_nil] at hempty
  have hparent := leadsTo_parentPath hpath hfront hname hempty hbefore h.isFolder
  have htarget := target?_eq (ne_empty_of_front hpath hname)
    (by rw [pathParts, hpath, hparts _ hname.unslashed]) hname hbefore h.isFolder
  rw [String.ofList_toList] at htarget
  rw [replaceFile, hparent.place?_temporaryFolder, replaceFault?]
  simp only [bind, Except.bind, Except.mapError, h.isFolder]
  cases t.refusals.writing (childPath folder name) with
  | some fault => rfl
  | none =>
    rw [htarget, Option.none_or]
    by_cases hnode : t.node? (p ++ [name]) = some .folder
    · rw [if_pos hnode, if_pos hnode]
    · rw [if_neg hnode, if_neg hnode]
      rfl

/-- The path of a name in a folder leads to a place in it. -/
theorem LeadsTo.place?_childPath {folder name : String} (h : t.LeadsTo folder p)
    (hname : IsFileName name.toList) : t.place? (childPath folder name) = .ok (p ++ [name]) := by
  obtain ⟨front, before, hpath, -, hbefore, hparts⟩ := h.exists_childPath name
  rw [place?, if_neg (ne_empty_of_front hpath hname), pathParts, hpath, hparts _ hname.unslashed,
    follow_append_eq_ok_iff]
  refine ⟨p, hbefore, follow_cons_eq_ok_iff.2 ⟨h.isFolder, ?_⟩⟩
  rw [nextPlace_of_isFileName hname, String.ofList_toList]
  rfl

/-- A path leads to the same place in every tree that has its folders. -/
theorem place?_mono {path : String}
    (hfolders : ∀ r, t.node? r = some .folder → t'.node? r = some .folder)
    (h : t.place? path = .ok q) : t'.place? path = .ok q := by
  rw [place?] at h ⊢
  split at h
  · cases h
  · next hproper =>
    rw [if_neg hproper]
    exact follow_mono hfolders h

/-- A file is read exactly where a path leads to it and the system does not refuse. -/
theorem readFile_eq_ok_iff {path : String} {data : ByteArray} : t.readFile path = .ok data ↔
    ∃ q, t.place? path = .ok q ∧ t.node? q = some (.file data) ∧
      t.refusals.reading path = none := by
  rw [readFile, Package.bind_eq_ok_iff]
  refine exists_congr fun q => and_congr_right fun _ => ?_
  split
  · next hnode => simp [hnode]
  · next hnode => simp [hnode]
  · next found hnode =>
    split
    · next hrefused => simp [hrefused]
    · next hallowed => simp [hnode, hallowed, pure, Except.pure]

/-- A file that is read is in the folder that the path of its parent leads to. -/
theorem exists_leadsTo_of_readFile {path : String} {data : ByteArray}
    (h : t.readFile path = .ok data) : ∃ p name, t.LeadsTo (parentPath path) p ∧
      IsFileName name ∧ lastName? path = some name ∧
      t.place? path = .ok (p ++ [String.ofList name]) := by
  obtain ⟨q, hq, hfile, -⟩ := readFile_eq_ok_iff.1 h
  have hne : path ≠ "" := by
    intro hempty
    rw [place?, if_pos hempty] at hq
    cases hq
  have hfollowed := hq
  rw [place?, if_neg hne, pathParts] at hfollowed
  obtain ⟨front, name, hpath, hfront, hslash⟩ := exists_front path.toList
  obtain ⟨before, hparts⟩ := hfront.splitOnChar
  rw [hpath, hparts name hslash, follow_append_eq_ok_iff] at hfollowed
  obtain ⟨p, hbefore, hlast⟩ := hfollowed
  obtain ⟨hfolder, hnext⟩ := follow_cons_eq_ok_iff.1 hlast
  obtain rfl := Except.ok.inj hnext
  have hname : IsFileName name := by
    refine ⟨hslash, fun hstays => ?_, fun hup => ?_⟩
    · rw [nextPlace_of_stays hstays, hfolder] at hfile
      cases hfile
    · have hrooted := ((isRooted_nil t).follow hbefore).dropLast.1
      rw [hup, nextPlace, if_neg (by decide), if_pos rfl, hrooted] at hfile
      cases hfile
  have hempty := hparts [] List.not_mem_nil
  rw [List.append_nil] at hempty
  refine ⟨p, name, leadsTo_parentPath hpath hfront hname hempty hbefore hfolder, hname,
    lastName?_of_front hpath hfront hname, ?_⟩
  rw [hq, nextPlace_of_isFileName hname]

/-! ### Creating folders -/

/-- A tree has all that another one has, and besides that folders only. -/
structure AddsFolders (t t' : FileTree) : Prop where
  /-- At every place there is what was there, or a folder where nothing was. -/
  nodes : ∀ q, t'.node? q = t.node? q ∨ t.node? q = none ∧ t'.node? q = some .folder
  /-- The system refuses what it did. -/
  refusals : t'.refusals = t.refusals

/-- A tree adds no folders to itself. -/
theorem AddsFolders.refl (t : FileTree) : t.AddsFolders t := ⟨fun _ => .inl rfl, rfl⟩

/-- What is a folder stays one when folders are added. -/
theorem AddsFolders.folder (h : t.AddsFolders t') (hq : t.node? q = some .folder) :
    t'.node? q = some .folder := by
  obtain heq | ⟨hnone, -⟩ := h.nodes q
  · rw [heq, hq]
  · rw [hnone] at hq
    cases hq

/-- Folders can be added in turn. -/
theorem AddsFolders.trans {t₁ t₂ : FileTree} (h : t.AddsFolders t₁) (h' : t₁.AddsFolders t₂) :
    t.AddsFolders t₂ := by
  refine ⟨fun q => ?_, h'.refusals.trans h.refusals⟩
  obtain heq | hnew := h.nodes q
  · rw [← heq]
    exact h'.nodes q
  · exact .inr ⟨hnew.1, h'.folder hnew.2⟩

/-- A folder where nothing was is an added one. -/
theorem addsFolders_put (hp : p ≠ []) (h : t.node? p = none) :
    t.AddsFolders (t.put p .folder) := by
  refine ⟨fun q => ?_, refusals_put t p .folder⟩
  rw [node?_put t hp]
  by_cases hq : q = p
  · exact .inr ⟨hq ▸ h, if_pos hq⟩
  · exact .inl (if_neg hq)

/-- The folders that are created along a path are there for it to lead through. -/
theorem createFrom_spec {parts : List (List Char)} (hp : t.IsRooted p)
    (hfolder : t.node? p = some .folder) (h : t.createFrom p parts = .ok t') :
    t.AddsFolders t' ∧ ∃ o, t'.follow p parts = .ok o ∧ t'.node? o = some .folder := by
  induction parts generalizing t p with
  | nil =>
    obtain rfl := Except.ok.inj h
    exact ⟨.refl t, p, rfl, hfolder⟩
  | cons part rest ih =>
    -- Whatever the part is, the rest is created from the place that it leads to.
    obtain ⟨t₁, hadds, hroot, hnode, hrest⟩ : ∃ t₁, t.AddsFolders t₁ ∧
        t₁.IsRooted (nextPlace p part) ∧ t₁.node? (nextPlace p part) = some .folder ∧
        t₁.createFrom (nextPlace p part) rest = .ok t' := by
      rw [createFrom] at h
      rw [nextPlace]
      split at h
      · next hstays => exact ⟨t, .refl t, by rwa [if_pos hstays], by rwa [if_pos hstays],
          by rwa [if_pos hstays]⟩
      next hmoves =>
      rw [if_neg hmoves]
      split at h
      · next hup =>
        rw [if_pos hup]
        exact ⟨t, .refl t, hp.dropLast.2, hp.dropLast.1, h⟩
      next hbelow =>
      rw [if_neg hbelow]
      have hne : p ++ [String.ofList part] ≠ [] := by simp
      dsimp only at h
      split at h
      · next hnone =>
        split at h
        · cases h
        have hadds := addsFolders_put hne hnone
        refine ⟨_, hadds, fun r hr hrne => ?_, ?_, h⟩
        · exact hadds.folder (hp.concat hfolder _ r hr hrne)
        · rw [node?_put t hne, if_pos rfl]
      · next hnode => exact ⟨t, .refl t, hp.concat hfolder _, hnode, h⟩
      · cases h
    obtain ⟨hadds', o, hfollow, ho⟩ := ih hroot hnode hrest
    exact ⟨hadds.trans hadds', o,
      follow_cons_eq_ok_iff.2 ⟨(hadds.trans hadds').folder hfolder, hfollow⟩, ho⟩

/-- A path leads to the folder that was created for it, and nothing is lost on the way. -/
theorem leadsTo_of_createFolders {folder : String} (h : t.createFolders folder = .ok t') :
    t.AddsFolders t' ∧ ∃ o, t'.LeadsTo folder o := by
  obtain ⟨hadds, o, hfollow, ho⟩ := createFrom_spec (isRooted_nil t) (node?_nil t) h
  exact ⟨hadds, o, hfollow, ho⟩

end InteractiveBook.CommandLine.FileTree
