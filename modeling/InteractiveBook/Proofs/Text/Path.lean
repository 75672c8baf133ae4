import InteractiveBook.Compiler
import InteractiveBook.Proofs.Text.Lines
import InteractiveBook.Text.Unicode.CaseFold

/-!
# The folder and the name in a path

A path is cut behind its last slash into a front and a name. The path of the parent folder has the
parts of the front, without parts at its end that lead nowhere, and the path of a name in a folder
has the parts of the folder before the name.
-/

namespace InteractiveBook.Text

/-- A part of a path that stays at its place: an empty one or the single point. -/
def Stays (part : List Char) : Prop := part = [] ∨ part = ['.']

/-- Whether a part stays at its place can be decided. -/
instance (part : List Char) : Decidable (Stays part) := inferInstanceAs (Decidable (_ ∨ _))

/-- A name that a file can have in a folder. -/
structure IsFileName (name : List Char) : Prop where
  /-- There is no slash in it. -/
  unslashed : '/' ∉ name
  /-- It leads somewhere. -/
  moves : ¬Stays name
  /-- It does not lead to the folder above. -/
  below : name ≠ ['.', '.']

/-- What may stand before a name: nothing, or something that ends in a slash. -/
def IsFront (front : List Char) : Prop := front = [] ∨ ∃ folder, front = folder ++ ['/']

section Pieces

variable {sep : Char} {cs : List Char}

/-- A separator cuts a list into the pieces before it and the pieces behind it. -/
theorem splitOnChar_append_sep (sep : Char) (xs ys : List Char) :
    splitOnChar sep (xs ++ sep :: ys) = splitOnChar sep xs ++ splitOnChar sep ys := by
  refine closePieces_injective (fun _ => not_mem_of_mem_splitOnChar) (fun piece h => ?_) ?_
  · rcases List.mem_append.1 h with h | h
    · exact not_mem_of_mem_splitOnChar h
    · exact not_mem_of_mem_splitOnChar h
  · have happend : ∀ ps qs, closePieces sep (ps ++ qs) = closePieces sep ps ++ closePieces sep qs :=
      fun _ _ => List.flatMap_append
    rw [happend, closePieces_splitOnChar, closePieces_splitOnChar, closePieces_splitOnChar]
    simp

/-- A list without separators is a single piece. -/
theorem splitOnChar_of_not_mem (h : sep ∉ cs) : splitOnChar sep cs = [cs] := by
  refine closePieces_injective (fun _ => not_mem_of_mem_splitOnChar) (fun piece hp => ?_) ?_
  · rwa [List.mem_singleton.1 hp]
  · rw [closePieces_splitOnChar]
    simp [closePieces]

end Pieces

/-- A path without the slashes at its end has the same parts, but for parts at the end that lead
nowhere. -/
theorem dropSlashes_spec (cs : List Char) : ∃ rest, (∀ part ∈ rest, Stays part) ∧
    splitOnChar '/' cs.reverse = splitOnChar '/' (dropSlashes cs).reverse ++ rest := by
  fun_induction dropSlashes cs with
  | case1 cs ih =>
    obtain ⟨rest, hrest, hparts⟩ := ih
    refine ⟨rest ++ [[]], ?_, ?_⟩
    · simpa [or_imp, forall_and, Stays] using hrest
    · rw [List.reverse_cons, splitOnChar_append_sep, hparts, List.append_assoc]
      rfl
  | case2 cs ih =>
    obtain ⟨rest, hrest, hparts⟩ := ih
    refine ⟨rest ++ [['.']], ?_, ?_⟩
    · simpa [or_imp, forall_and, Stays] using hrest
    · have hreverse : ('.' :: '/' :: cs).reverse = cs.reverse ++ '/' :: ['.'] := by simp
      rw [hreverse, splitOnChar_append_sep, hparts, List.append_assoc]
      rfl
  | case3 cs => exact ⟨[], by simp, by simp⟩

/-- A path is a front and a name. -/
theorem exists_front (cs : List Char) :
    ∃ front name, cs = front ++ name ∧ IsFront front ∧ '/' ∉ name := by
  by_cases hslash : '/' ∈ cs
  · obtain ⟨name, folder, hsplit, hname⟩ := List.eq_append_cons_of_mem (List.mem_reverse.2 hslash)
    refine ⟨folder.reverse ++ ['/'], name.reverse, ?_, .inr ⟨_, rfl⟩, by simpa using hname⟩
    rw [← List.reverse_reverse cs, hsplit]
    simp
  · exact ⟨[], cs, rfl, .inl rfl, hslash⟩

/-- The parts of a front are those of every path with the front but for the last one. -/
theorem IsFront.splitOnChar {front : List Char} (h : IsFront front) : ∃ before,
    ∀ name, '/' ∉ name → splitOnChar '/' (front ++ name) = before ++ [name] := by
  obtain rfl | ⟨folder, rfl⟩ := h
  · exact ⟨[], fun name hname => splitOnChar_of_not_mem hname⟩
  · refine ⟨Text.splitOnChar '/' folder, fun name hname => ?_⟩
    rw [List.append_assoc, List.singleton_append, splitOnChar_append_sep,
      splitOnChar_of_not_mem hname]

section Cut

variable {path : String} {front name : List Char}

/-- The last name of a path is the name behind its front. -/
theorem lastName?_of_front (hpath : path.toList = front ++ name) (hfront : IsFront front)
    (hname : IsFileName name) : lastName? path = some name := by
  obtain ⟨before, hparts⟩ := hfront.splitOnChar
  have hkept : [name].filter (fun p => decide (p ≠ [] ∧ p ≠ ['.'])) = [name] := by
    simpa [Stays, not_or] using hname.moves
  rw [lastName?, pathParts, hpath, hparts name hname.unslashed, List.filter_append, hkept,
    List.getLast?_concat]
  split
  · rename_i heq
    exact absurd (Option.some.inj heq) hname.below
  · rfl

/-- A name has no slashes at its end to be dropped. -/
theorem dropSlashes_name (hname : IsFileName name) (rest : List Char) :
    dropSlashes (name.reverse ++ rest) = name.reverse ++ rest := by
  have hslash : '/' ∉ name.reverse := by simpa using hname.unslashed
  have hmoves : ¬Stays name.reverse := by
    simpa [Stays, List.reverse_eq_iff] using hname.moves
  generalize name.reverse = back at hslash hmoves
  obtain ⟨c, back, rfl⟩ := List.exists_cons_of_ne_nil fun hnil : back = [] => hmoves (.inl hnil)
  have hc : c ≠ '/' := fun heq => hslash (heq ▸ List.mem_cons_self)
  by_cases hpoint : c = '.'
  · subst hpoint
    obtain ⟨d, back, rfl⟩ :=
      List.exists_cons_of_ne_nil fun hnil : back = [] => hmoves (.inr (by rw [hnil]))
    have hd : d ≠ '/' := fun heq => hslash (heq ▸ by simp)
    simp [dropSlashes, hd]
  · simp [dropSlashes, hc, hpoint]

/-- The path of the parent folder has the parts of the front, but for parts at the end that lead
nowhere; where all parts of the front lead nowhere, it may be that of the root. -/
theorem parentPath_of_front (hpath : path.toList = front ++ name) (hfront : IsFront front)
    (hname : IsFileName name) :
    (∃ rest, (∀ part ∈ rest, Stays part) ∧
      splitOnChar '/' front = pathParts (parentPath path) ++ rest) ∨
    parentPath path = "/" ∧ ∀ part ∈ splitOnChar '/' front, Stays part := by
  have hfolder : (name.reverse ++ front.reverse).dropWhile (· ≠ '/') = front.reverse := by
    have hplain : ∀ c ∈ name.reverse, decide (c ≠ '/') = true := by
      intro c hc
      simpa using fun heq : c = '/' => hname.unslashed (heq ▸ List.mem_reverse.1 hc)
    rw [List.dropWhile_append_of_pos hplain]
    obtain rfl | ⟨folder, rfl⟩ := hfront <;> simp
  obtain ⟨rest, hrest, hparts⟩ := dropSlashes_spec front.reverse
  rw [List.reverse_reverse] at hparts
  rw [parentPath, hpath, List.reverse_append, dropSlashes_name hname, hfolder]
  split
  · next hroot =>
    rw [hroot.1] at hparts
    refine .inr ⟨rfl, fun part hpart => ?_⟩
    rw [hparts] at hpart
    obtain rfl | hpart := List.mem_cons.1 hpart
    · exact .inl rfl
    · exact hrest part hpart
  · exact .inl ⟨rest, hrest, by rw [hparts, pathParts, String.toList_ofList]⟩

end Cut

/-- The path of a name in a folder is a front and the name; the front has the parts of the folder.
-/
theorem childPath_spec (folder name : String) : ∃ front,
    (childPath folder name).toList = front ++ name.toList ∧ IsFront front ∧
      (front = folder.toList ∨ folder ≠ "" ∧ front = folder.toList ++ ['/']) := by
  rw [childPath]
  split
  · rename_i hfolder
    refine ⟨folder.toList, String.toList_append, ?_, .inl rfl⟩
    obtain rfl | hslash := hfolder
    · exact .inl rfl
    · exact .inr (List.getLast?_eq_some_iff.1 hslash)
  · rename_i hfolder
    rw [not_or] at hfolder
    refine ⟨folder.toList ++ ['/'], ?_, .inr ⟨_, rfl⟩, .inr ⟨hfolder.1, rfl⟩⟩
    have hslash : "/".toList = ['/'] := rfl
    rw [String.toList_append, String.toList_append, hslash]

/-- Different names in a folder have different paths. -/
theorem childPath_injective (folder : String) : Function.Injective (childPath folder) := by
  intro name name' h
  simp only [childPath] at h
  split at h
  · exact (String.append_right_inj _).1 h
  · exact (String.append_right_inj _).1 h

end InteractiveBook.Text

namespace InteractiveBook

open Text

/-- A name is a stem, without slashes, and the extension of packages. -/
def IsPackageFile (name : String) : Prop :=
  ∃ stem, name.toList = stem ++ '.' :: packageExtension.toList ∧ '/' ∉ stem

section PackageFile

variable {name : String}

/-- A stem and the extension make a name of a package. -/
theorem isPackageFile_append {stem : String} (h : '/' ∉ stem.toList) :
    IsPackageFile (stem ++ "." ++ packageExtension) := by
  have hpoint : ".".toList = ['.'] := rfl
  refine ⟨stem.toList, ?_, h⟩
  rw [String.toList_append, String.toList_append, hpoint, List.append_assoc, List.singleton_append]

/-- A file can have the name of a package. -/
theorem IsPackageFile.isFileName (h : IsPackageFile name) : IsFileName name.toList := by
  have hextension : '/' ∉ '.' :: packageExtension.toList := by decide
  obtain ⟨stem, hname, hstem⟩ := h
  have hlast : name.toList.getLast? = some 'p' := by
    rw [hname, List.getLast?_append]
    rfl
  constructor
  case unslashed =>
    rw [hname, List.mem_append, not_or]
    exact ⟨hstem, hextension⟩
  case moves => rintro (h | h) <;> simp [h] at hlast
  case below =>
    intro h
    simp [h] at hlast

/-- The extension of a name of a package, if it has one, is that of packages. -/
theorem IsPackageFile.cutExtension (h : IsPackageFile name) {extension : List Char}
    (hcut : (cutExtension name.toList).2 = some extension) :
    extension = packageExtension.toList := by
  have hplain : '.' ∉ packageExtension.toList.reverse := by decide
  obtain ⟨stem, hname, -⟩ := h
  have hfound : (name.toList.reverse.takeWhile (· ≠ '.')).reverse = packageExtension.toList := by
    rw [hname, List.reverse_append, List.reverse_cons, List.append_assoc, List.singleton_append,
      takeWhile_closed hplain, List.reverse_reverse]
  rw [Text.cutExtension, hfound] at hcut
  split at hcut
  · exact (Option.some.inj hcut).symm
  · cases hcut

end PackageFile

/-- There is no slash in the stem of the last name of a path. -/
theorem not_mem_stem_of_lastName? {path : String} {name : List Char}
    (h : lastName? path = some name) : '/' ∉ stem name := by
  intro hslash
  have hname : name ∈ pathParts path := by
    rw [lastName?] at h
    split at h
    · cases h
    · exact (List.mem_filter.1 (List.mem_of_getLast? h)).1
  refine not_mem_of_mem_splitOnChar hname ?_
  rw [stem, cutExtension] at hslash
  split at hslash
  · exact List.mem_of_mem_take hslash
  · exact hslash

/-- The name of the package of a source is one. -/
theorem isPackageFile_packageName (path : String) : IsPackageFile (packageName path) := by
  rw [packageName]
  cases hlast : lastName? path with
  | none => exact isPackageFile_append (by decide : '/' ∉ "book".toList)
  | some name =>
    refine isPackageFile_append ?_
    rw [String.toList_ofList]
    exact not_mem_stem_of_lastName? hlast

/-- A package can have its name in a folder. -/
theorem isFileName_packageName (path : String) : IsFileName (packageName path).toList :=
  (isPackageFile_packageName path).isFileName

end InteractiveBook
