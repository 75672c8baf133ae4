import InteractiveBook.Proofs.Text.Path

/-!
# Names of packages

The package of a source is named after the last part of its path that leads somewhere, without the
extension of that part. Slashes and single points at the end of the path do not count, a point in
front of a name begins no extension, and a path that ends above its last folder names nothing. The
name of a package stays as it is when it is taken for the name of a source.
-/

namespace InteractiveBook.Text

/-! ### The last part of a path -/

/-- A path ends in a name when only parts that lead nowhere stand behind it. -/
structure EndsIn (path : String) (name : List Char) : Prop where
  /-- There is no slash in the name. -/
  unslashed : '/' ∉ name
  /-- The name leads somewhere. -/
  moves : ¬Stays name
  /-- The path is a front, the name, and parts that stay at their place. -/
  split : ∃ (front : List Char) (rest : List (List Char)), IsFront front ∧
    (∀ part ∈ rest, Stays part) ∧ path.toList = front ++ name ++ rest.flatMap fun part => '/' :: part

/-- Parts that are put behind a path, each after a separator, are its last pieces. -/
theorem splitOnChar_append_parts {sep : Char} {rest : List (List Char)}
    (h : ∀ part ∈ rest, sep ∉ part) (cs : List Char) :
    splitOnChar sep (cs ++ rest.flatMap fun part => sep :: part) = splitOnChar sep cs ++ rest := by
  induction rest generalizing cs with
  | nil => simp
  | cons part rest ih =>
    obtain ⟨hpart, hrest⟩ := List.forall_mem_cons.1 h
    rw [List.flatMap_cons, List.cons_append, splitOnChar_append_sep, ih hrest,
      splitOnChar_of_not_mem hpart, List.singleton_append]

/-- Closed pieces and an open one are cut where they were closed. -/
theorem splitOnChar_closePieces {sep : Char} {pieces : List (List Char)} {last : List Char}
    (h : ∀ piece ∈ pieces, sep ∉ piece) (hlast : sep ∉ last) :
    splitOnChar sep (closePieces sep pieces ++ last) = pieces ++ [last] := by
  induction pieces with
  | nil => exact splitOnChar_of_not_mem hlast
  | cons piece pieces ih =>
    obtain ⟨hpiece, hpieces⟩ := List.forall_mem_cons.1 h
    have hcons : closePieces sep (piece :: pieces) ++ last =
        piece ++ sep :: (closePieces sep pieces ++ last) := by simp [closePieces]
    rw [hcons, splitOnChar_append_sep, splitOnChar_of_not_mem hpiece, ih hpieces]
    rfl

/-- There is no slash in a part that stays at its place. -/
theorem Stays.unslashed {part : List Char} (h : Stays part) : '/' ∉ part := by
  rcases h with rfl | rfl <;> decide

/-- The last part of a path that leads somewhere is the name in which the path ends. -/
theorem getLast?_moving_iff {path : String} {name : List Char} :
    ((pathParts path).filter fun part => !decide (Stays part)).getLast? = some name ↔
      EndsIn path name := by
  constructor
  · intro h
    obtain ⟨moving, hmoving⟩ := List.getLast?_eq_some_iff.1 h
    obtain ⟨before, behind, hparts, -, hbehind⟩ := List.filter_eq_append_iff.1 hmoving
    obtain ⟨staying, rest, rfl, hstaying, hname, hrest⟩ := List.filter_eq_cons_iff.1 hbehind
    have hall : ∀ part ∈ pathParts path, '/' ∉ part := fun part => not_mem_of_mem_splitOnChar
    rw [hparts] at hall
    have hstays : ∀ part ∈ rest, Stays part := by simpa using hrest
    refine ⟨hall name (by simp), by simpa using hname,
      closePieces '/' (before ++ staying), rest, ?_, hstays, ?_⟩
    · refine (closePieces_eq_nil_or '/' (before ++ staying)).imp_right fun hlast => ?_
      obtain ⟨folder, hfolder⟩ := List.getLast?_eq_some_iff.1 hlast
      exact ⟨folder, hfolder⟩
    · rw [← List.append_left_inj ['/'], ← closePieces_splitOnChar, ← closePieces_splitOnChar,
        splitOnChar_append_parts fun part hpart => (hstays part hpart).unslashed,
        splitOnChar_closePieces (fun part hpart => hall part ?_) (hall name (by simp))]
      · have hpath : splitOnChar '/' path.toList = before ++ (staying ++ name :: rest) := hparts
        rw [hpath]
        simp
      · rw [← List.append_assoc]
        exact List.mem_append_left _ hpart
  · rintro ⟨hslash, hmoves, front, rest, hfront, hrest, hpath⟩
    obtain ⟨before, hparts⟩ := hfront.splitOnChar
    have hkept : [name].filter (fun part => !decide (Stays part)) = [name] := by simpa using hmoves
    have hdropped : rest.filter (fun part => !decide (Stays part)) = [] := by simpa using hrest
    rw [pathParts, hpath, splitOnChar_append_parts fun part hpart => (hrest part hpart).unslashed,
      hparts name hslash, List.filter_append, List.filter_append, hkept, hdropped, List.append_nil,
      List.getLast?_concat]

/-- The last name of a path is the one in which the path ends, unless that is the folder above. -/
theorem lastName?_eq_some_iff {path : String} {name : List Char} :
    lastName? path = some name ↔ EndsIn path name ∧ name ≠ ['.', '.'] := by
  have hfilter : (pathParts path).filter (fun part => part ≠ [] ∧ part ≠ ['.']) =
      (pathParts path).filter fun part => !decide (Stays part) :=
    List.filter_congr fun part _ => by rw [← decide_not, decide_eq_decide, Stays, not_or]
  rw [← getLast?_moving_iff, lastName?, hfilter]
  split
  · next habove =>
    rw [habove]
    constructor
    · intro hnone
      cases hnone
    · rintro ⟨hname, hne⟩
      exact absurd (Option.some.inj hname).symm hne
  · next hother =>
    refine (and_iff_left_of_imp fun hname heq => ?_).symm
    exact hother (by rw [hname, heq])

/-! ### The stem of a name -/

/-- How a name is cut into its stem and its extension. -/
inductive IsStem : List Char → List Char → Prop
  /-- What stands in front of the last point, if that is something. -/
  | cut {stem extension : List Char} (hstem : stem ≠ []) (hextension : '.' ∉ extension) :
    IsStem (stem ++ '.' :: extension) stem
  /-- The whole name, if there is no point in it but perhaps in front. -/
  | whole {name : List Char} (hname : '.' ∉ name.tail) : IsStem name name

/-- Every name has a stem. -/
theorem exists_isStem (name : List Char) : ∃ stem, IsStem name stem := by
  by_cases hpoint : '.' ∈ name.tail
  · have hmem : '.' ∈ name.reverse := List.mem_reverse.2 (List.mem_of_mem_tail hpoint)
    obtain ⟨back, front, hsplit, hback⟩ := List.eq_append_cons_of_mem hmem
    have hname : name = front.reverse ++ '.' :: back.reverse := by
      rw [← List.reverse_reverse name, hsplit]
      simp
    refine ⟨front.reverse, hname ▸ .cut (fun hnil => ?_) (by simpa using hback)⟩
    rw [hname, hnil] at hpoint
    exact hback (List.mem_reverse.1 hpoint)
  · exact ⟨name, .whole hpoint⟩

/-- What stands behind the last point is found from the end. -/
theorem takeWhile_reverse_extension {extension : List Char} (h : '.' ∉ extension)
    (front : List Char) :
    ((front ++ '.' :: extension).reverse.takeWhile (· ≠ '.')).reverse = extension := by
  have hreverse : (front ++ '.' :: extension).reverse =
      extension.reverse ++ '.' :: front.reverse := by simp
  rw [hreverse, takeWhile_closed (by simpa using h), List.reverse_reverse]

/-- A name other than that of the folder above has one stem, the one it is cut to. -/
theorem isStem_iff {name front : List Char} (hname : name ≠ ['.', '.']) :
    IsStem name front ↔ front = stem name := by
  have hstem : ∀ {front}, IsStem name front → front = stem name := by
    intro front h
    cases h with
    | @cut front extension hfront hextension =>
      have hlength : (front ++ '.' :: extension).length - extension.length - 1 = front.length := by
        simp only [List.length_append, List.length_cons]
        omega
      rw [stem, cutExtension]
      simp only [takeWhile_reverse_extension hextension, hlength, List.take_left]
      rw [if_pos ⟨by simp, hfront, hname⟩]
    | whole hpoint =>
      rw [stem, cutExtension, if_neg]
      rintro ⟨hcontains, hfront, -⟩
      cases name with
      | nil => exact hfront List.take_nil
      | cons c name =>
        -- The only point is the first sign, so that nothing stands in front of it.
        have hmem : '.' ∈ c :: name := by simpa using hcontains
        obtain rfl : '.' = c := (List.mem_cons.1 hmem).resolve_right hpoint
        have hextension := takeWhile_reverse_extension hpoint []
        rw [List.nil_append, List.tail_cons] at hextension
        refine hfront ?_
        rw [hextension, List.length_cons, Nat.add_sub_cancel_left, Nat.sub_self, List.take_zero]
  refine ⟨hstem, fun h => ?_⟩
  obtain ⟨other, hother⟩ := exists_isStem name
  rw [h, ← hstem hother]
  exact hother

/-- The stem of a name that leads somewhere is not empty. -/
theorem IsStem.ne_nil {name front : List Char} (h : IsStem name front) (hname : name ≠ []) :
    front ≠ [] := by
  cases h with
  | cut hstem => exact hstem
  | whole => exact hname

end InteractiveBook.Text

namespace InteractiveBook

open Text

/-- How a package is named after the path of its source. -/
inductive IsPackageName (path : String) : String → Prop
  /-- After the stem of the name in which the path ends. -/
  | named {name front : List Char} (hname : EndsIn path name) (hbelow : name ≠ ['.', '.'])
    (hstem : IsStem name front) : IsPackageName path (String.ofList front ++ ".h5p")
  /-- As a book, where the path ends in no name but perhaps in that of the folder above. -/
  | book (h : ∀ name, EndsIn path name → name = ['.', '.']) : IsPackageName path "book.h5p"

/-- The name of a package is the one that is found for it. -/
theorem isPackageName_iff {path package : String} :
    IsPackageName path package ↔ package = packageName path := by
  have hending : ∀ front : String, front ++ "." ++ packageExtension = front ++ ".h5p" := by
    intro front
    rw [String.append_assoc]
    rfl
  have hnamed : ∀ {package}, IsPackageName path package → package = packageName path := by
    intro package h
    cases h with
    | named hname hbelow hstem =>
      rw [packageName, lastName?_eq_some_iff.2 ⟨hname, hbelow⟩, (isStem_iff hbelow).1 hstem]
      exact (hending _).symm
    | book h =>
      have hnone : lastName? path = none := by
        rw [Option.eq_none_iff_forall_ne_some]
        intro name hname
        obtain ⟨hends, hbelow⟩ := lastName?_eq_some_iff.1 hname
        exact hbelow (h name hends)
      rw [packageName, hnone]
      rfl
  refine ⟨hnamed, ?_⟩
  rintro rfl
  cases hlast : lastName? path with
  | some name =>
    obtain ⟨hname, hbelow⟩ := lastName?_eq_some_iff.1 hlast
    obtain ⟨front, hstem⟩ := exists_isStem name
    have hpackage := IsPackageName.named hname hbelow hstem
    exact hnamed hpackage ▸ hpackage
  | none =>
    have hpackage : IsPackageName path "book.h5p" := by
      refine .book fun name hname => ?_
      by_contra hbelow
      rw [lastName?_eq_some_iff.2 ⟨hname, hbelow⟩] at hlast
      cases hlast
    exact hnamed hpackage ▸ hpackage

/-- The name of a package is a stem with the extension of packages. -/
theorem IsPackageName.exists_stem {path package : String} (h : IsPackageName path package) :
    ∃ front : String, front ≠ "" ∧ package = front ++ ".h5p" := by
  cases h with
  | @named name front hname _ hstem =>
    have hne : front ≠ [] := hstem.ne_nil fun hnil => hname.moves (.inl hnil)
    refine ⟨String.ofList front, fun hempty => hne ?_, rfl⟩
    rw [← String.toList_ofList (l := front), hempty]
    rfl
  | book => exact ⟨"book", by decide, rfl⟩

/-- The name of a package is a path that ends in itself. -/
theorem endsIn_packageName (path : String) :
    EndsIn (packageName path) (packageName path).toList := by
  have hname := isFileName_packageName path
  exact ⟨hname.unslashed, hname.moves, [], [], .inl rfl, by simp, by simp⟩

/-- A package that was named after a source keeps its name when it is a source itself. -/
theorem isPackageName_packageName (path : String) :
    IsPackageName (packageName path) (packageName path) := by
  obtain ⟨front, hne, hpackage⟩ := (isPackageName_iff.2 (Eq.refl (packageName path))).exists_stem
  have hstem : IsStem (packageName path).toList front.toList := by
    rw [hpackage, String.toList_append]
    exact .cut (by simpa using hne) (by decide)
  have hnamed := IsPackageName.named (endsIn_packageName path)
    (isFileName_packageName path).below hstem
  rwa [String.ofList_toList, ← hpackage] at hnamed

/-- The name of a package has no slash and is a stem, which is not empty, with the extension of
packages. It is the one that the last part of the path decides, and the name of the package of a
package is that of the package. -/
theorem packageName_exact (path : String) :
    '/' ∉ (packageName path).toList ∧
      (∃ front : String, front ≠ "" ∧ packageName path = front ++ ".h5p") ∧
      (∀ package, IsPackageName path package ↔ package = packageName path) ∧
      packageName (packageName path) = packageName path :=
  ⟨(isFileName_packageName path).unslashed,
    (isPackageName_iff.2 (Eq.refl (packageName path))).exists_stem,
    fun _ => isPackageName_iff, (isPackageName_iff.1 (isPackageName_packageName path)).symm⟩

/-- Single points at the end do not count, and only the last extension is cut. -/
example : packageName "/tmp/course/unit.one.markdown/./" = "unit.one.h5p" := by decide

/-- A point in front begins no extension, and the folder above has no name. -/
example : packageName ".notes" = ".notes.h5p" ∧ packageName "notes/.." = "book.h5p" := by decide

end InteractiveBook
