import InteractiveBook.Library.Id
import InteractiveBook.Proofs.Json.Numeral
import Mathlib.Data.List.TakeWhile

/-!
# Names of library folders

The name of a library folder is the machine name, a hyphen and the two versions with a point between
them. The machine name may have hyphens, points and digits of its own, but the versions have none of
the first two, so that the last hyphen and the last point cut the name in the only possible way.
-/

namespace InteractiveBook.Library

/-! ### Versions -/

/-- Digits denote a version: they are ASCII digits, at least one, and their number fits a thirty-two
bit word. Zeros may stand in front. -/
structure DenotesVersion (digits : List Char) (version : Nat) : Prop where
  /-- There is a digit. -/
  nonempty : digits ≠ []
  /-- There is nothing but digits. -/
  decimal : ∀ c ∈ digits, c.isDigit = true
  /-- The digits are those of the version. -/
  value : Text.decimalValue digits = version
  /-- The version fits a word. -/
  fits : version ≤ Text.maxWord32

/-- A word is found for digits exactly when they denote it as a version. -/
theorem word32OfDigits?_eq_some_iff {digits : List Char} {version : Nat} :
    Text.word32OfDigits? digits = some version ↔ DenotesVersion digits version := by
  rw [Text.word32OfDigits?]
  constructor
  · intro h
    split at h
    · next hdigits =>
      obtain ⟨hne, hall, hfits⟩ := hdigits
      obtain rfl := Option.some.inj h
      exact ⟨hne, List.all_eq_true.1 hall, rfl, hfits⟩
    · cases h
  · rintro ⟨hne, hall, rfl, hfits⟩
    rw [if_pos ⟨hne, List.all_eq_true.2 hall, hfits⟩]

/-- The digits of a number denote it if it fits a word. -/
theorem denotesVersion_toDigits {version : Nat} (h : version ≤ Text.maxWord32) :
    DenotesVersion (Nat.toDigits 10 version) version :=
  ⟨Nat.toDigits_ne_nil, Json.isDigit_toDigits version, Json.decimalValue_toDigits version, h⟩

/-- Digits have no sign that is no digit. -/
theorem DenotesVersion.not_mem {digits : List Char} {version : Nat}
    (h : DenotesVersion digits version) {c : Char} (hc : c.isDigit = false) : c ∉ digits :=
  fun hmem => Bool.false_ne_true (hc.symm.trans (h.decimal c hmem))

/-! ### The cut -/

namespace LibraryId

/-- A list is cut at a separator behind which there is no other one. -/
theorem cutAtLast?_append {sep : Char} {back : List Char} (h : sep ∉ back) (front : List Char) :
    cutAtLast? sep (front ++ sep :: back) = some (front, back) := by
  have hback : ∀ c ∈ back.reverse, decide (c ≠ sep) = true := by
    intro c hc
    simpa using fun heq : c = sep => h (heq ▸ List.mem_reverse.1 hc)
  have hreverse : (front ++ sep :: back).reverse = back.reverse ++ sep :: front.reverse := by simp
  rw [cutAtLast?, hreverse, List.dropWhile_append_of_pos hback, List.takeWhile_append_of_pos hback]
  simp

/-- A list is cut into what stands in front of its last separator and what stands behind it. -/
theorem cutAtLast?_eq_some_iff {sep : Char} {cs front back : List Char} :
    cutAtLast? sep cs = some (front, back) ↔ cs = front ++ sep :: back ∧ sep ∉ back := by
  constructor
  · intro h
    by_cases hmem : sep ∈ cs.reverse
    · obtain ⟨last, first, hsplit, hlast⟩ := List.eq_append_cons_of_mem hmem
      have hcs : cs = first.reverse ++ sep :: last.reverse := by
        rw [← List.reverse_reverse cs, hsplit]
        simp
      have hback : sep ∉ last.reverse := by simpa using hlast
      rw [hcs, cutAtLast?_append hback] at h
      obtain ⟨rfl, rfl⟩ := Prod.mk.inj (Option.some.inj h)
      exact ⟨hcs, hback⟩
    · have hnone : cs.reverse.dropWhile (· ≠ sep) = [] := by
        rw [List.dropWhile_eq_nil_iff]
        intro c hc
        simpa using fun heq : c = sep => hmem (heq ▸ hc)
      rw [cutAtLast?, hnone] at h
      cases h
  · rintro ⟨rfl, hback⟩
    exact cutAtLast?_append hback front

/-- The signs of machine names: letters and digits of ASCII, the low line, the point and the
hyphen. -/
def IsNameSign (c : Char) : Prop := c.isAlphanum = true ∨ c = '_' ∨ c = '.' ∨ c = '-'

/-- A folder may use the signs of machine names. -/
theorem isNameChar_iff {c : Char} : isNameChar c = true ↔ IsNameSign c := by
  simp [isNameChar, IsNameSign, or_assoc]

/-- How the name of a folder is that of a library, with the digits of its versions. -/
structure IsFolderOf (folder : String) (id : LibraryId) (major minor : List Char) : Prop where
  /-- The folder is named after the library. -/
  written : folder.toList = id.name.toList ++ '-' :: (major ++ '.' :: minor)
  /-- The library has a name. -/
  named : id.name ≠ ""
  /-- The name has signs of machine names only. -/
  signs : ∀ c ∈ id.name.toList, IsNameSign c
  /-- The first digits are those of the major version. -/
  major : DenotesVersion major id.major
  /-- The last digits are those of the minor version. -/
  minor : DenotesVersion minor id.minor

variable {folder : String} {id : LibraryId} {major minor : List Char}

/-- No hyphen stands in the versions. -/
theorem IsFolderOf.unhyphened (h : IsFolderOf folder id major minor) :
    '-' ∉ major ++ '.' :: minor := by
  rw [List.mem_append, List.mem_cons, not_or, not_or]
  exact ⟨h.major.not_mem rfl, by decide, h.minor.not_mem rfl⟩

/-- A library is found for a folder exactly when the folder is named after it. -/
theorem ofFolder?_eq_some_iff : ofFolder? folder = some id ↔
    ∃ major minor, IsFolderOf folder id major minor := by
  constructor
  · intro h
    simp only [ofFolder?, Option.bind_eq_bind, Option.bind_eq_some_iff, Prod.exists] at h
    obtain ⟨name, version, hfolder, h⟩ := h
    split at h
    · cases h
    next hname =>
    simp only [Option.bind_eq_some_iff, Prod.exists, word32OfDigits?_eq_some_iff] at h
    obtain ⟨major, minor, hversion, m, hmajor, n, hminor, h⟩ := h
    obtain rfl := Option.some.inj h
    rw [cutAtLast?_eq_some_iff] at hfolder hversion
    rw [not_or, Bool.not_eq_false, List.all_eq_true] at hname
    refine ⟨major, minor, ?_, ?_, ?_, hmajor, hminor⟩
    · rw [hfolder.1, hversion.1, String.toList_ofList]
    · simpa using hname.1
    · simpa only [String.toList_ofList, isNameChar_iff] using hname.2
  · rintro ⟨major, minor, h⟩
    have hfolder : cutAtLast? '-' folder.toList = some (id.name.toList, major ++ '.' :: minor) :=
      cutAtLast?_eq_some_iff.2 ⟨h.written, h.unhyphened⟩
    have hversion : cutAtLast? '.' (major ++ '.' :: minor) = some (major, minor) :=
      cutAtLast?_append (h.minor.not_mem rfl) major
    have hname : ¬(id.name.toList = [] ∨ id.name.toList.all isNameChar = false) := by
      rw [not_or, Bool.not_eq_false, List.all_eq_true]
      exact ⟨by simpa using h.named, fun c hc => isNameChar_iff.2 (h.signs c hc)⟩
    simp only [ofFolder?, Option.bind_eq_bind, hfolder, Option.bind_some, if_neg hname, hversion,
      word32OfDigits?_eq_some_iff.2 h.major, word32OfDigits?_eq_some_iff.2 h.minor,
      String.ofList_toList]

/-- The name of a folder is that of one library and is written with its digits in one way. -/
theorem IsFolderOf.unique {id' : LibraryId} {major' minor' : List Char}
    (h : IsFolderOf folder id major minor) (h' : IsFolderOf folder id' major' minor') :
    id = id' ∧ major = major' ∧ minor = minor' := by
  have hid : id = id' := Option.some.inj
    ((ofFolder?_eq_some_iff.2 ⟨_, _, h⟩).symm.trans (ofFolder?_eq_some_iff.2 ⟨_, _, h'⟩))
  subst hid
  have hversion : major ++ '.' :: minor = major' ++ '.' :: minor' :=
    (List.cons.inj (List.append_cancel_left (h.written.symm.trans h'.written))).2
  have hcut := cutAtLast?_append (h.minor.not_mem (c := '.') rfl) major
  rw [hversion, cutAtLast?_append (h'.minor.not_mem rfl)] at hcut
  obtain ⟨rfl, rfl⟩ := Prod.mk.inj (Option.some.inj hcut)
  exact ⟨rfl, rfl, rfl⟩

/-- The folder of a library is named after it. -/
theorem isFolderOf_folder (hname : id.name ≠ "") (hsigns : ∀ c ∈ id.name.toList, IsNameSign c)
    (hmajor : id.major ≤ Text.maxWord32) (hminor : id.minor ≤ Text.maxWord32) :
    IsFolderOf id.folder id (Nat.toDigits 10 id.major) (Nat.toDigits 10 id.minor) := by
  refine ⟨?_, hname, hsigns, denotesVersion_toDigits hmajor, denotesVersion_toDigits hminor⟩
  have hhyphen : "-".toList = ['-'] := rfl
  have hpoint : ".".toList = ['.'] := rfl
  have hdigits (n : Nat) : (toString n).toList = Nat.toDigits 10 n := Nat.toList_repr
  simp only [folder, String.toList_append, hhyphen, hpoint, hdigits, List.append_assoc,
    List.cons_append, List.nil_append]

/-- A folder denotes a library exactly when it is named after it, with a machine name and two
versions; the machine name is everything before the last hyphen, and there is no other way to read
the folder. The folder that is named after a library denotes it. -/
theorem ofFolder?_exact :
    (∀ folder id, ofFolder? folder = some id ↔ ∃ major minor, IsFolderOf folder id major minor) ∧
      (∀ folder id, ofFolder? folder = some id →
        ∃ versions, folder.toList = id.name.toList ++ '-' :: versions ∧ '-' ∉ versions) ∧
      (∀ folder id major minor id' major' minor', IsFolderOf folder id major minor →
        IsFolderOf folder id' major' minor' → id = id' ∧ major = major' ∧ minor = minor') ∧
      ∀ id : LibraryId, id.name ≠ "" → (∀ c ∈ id.name.toList, IsNameSign c) →
        id.major ≤ Text.maxWord32 → id.minor ≤ Text.maxWord32 → ofFolder? id.folder = some id := by
  refine ⟨fun _ _ => ofFolder?_eq_some_iff, ?_, fun _ _ _ _ _ _ _ => IsFolderOf.unique, ?_⟩
  · intro folder id h
    obtain ⟨major, minor, hfolder⟩ := ofFolder?_eq_some_iff.1 h
    exact ⟨major ++ '.' :: minor, hfolder.written, hfolder.unhyphened⟩
  · intro id hname hsigns hmajor hminor
    exact ofFolder?_eq_some_iff.2 ⟨_, _, isFolderOf_folder hname hsigns hmajor hminor⟩

/-- Versions in front of the last hyphen belong to the name, and zeros may stand in front of a
version. -/
example : ofFolder? "H5P.A-1.2-03.4" = some ⟨"H5P.A-1.2", 3, 4⟩ := by decide

end LibraryId

end InteractiveBook.Library
