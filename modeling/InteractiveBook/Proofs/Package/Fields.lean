import InteractiveBook.Package.Manifest
import InteractiveBook.Proofs.Json.Place
import Mathlib.Data.List.Nodup

/-!
# Fields of records

A record is a tree in which each field has a key: the fields of an object stand under their keys,
the items of an array at the places at which the keys are declared. What stands as a field in a tree
can be exchanged, and then only this field of the record changes.
-/

namespace InteractiveBook.Package

/-- A tree around something that is the field of a record under a key. -/
inductive IsField (keys : List String) (key : String) : (Json.Tree → Json.Tree) → Prop
  /-- The field stands in an array, at the place of the key. -/
  | item {before after : List Json.Tree} (h : keys[before.length]? = some key) :
    IsField keys key fun t => .array (before ++ t :: after)
  /-- The field stands in an object, under the key. -/
  | member {before after : List (Option String × Json.Tree)} :
    IsField keys key fun t => .object (before ++ (some key, t) :: after)

variable {keys : List String} {key : String} {around : Json.Tree → Json.Tree}
  {fields : List (Option Json.Tree)}

/-- A record has as many fields as it has keys. -/
theorem length_of_recordFields? {t : Json.Tree} (h : recordFields? keys t = some fields) :
    fields.length = keys.length := by
  unfold recordFields? at h
  split at h
  · split at h
    · obtain rfl := Option.some.inj h
      simp only [List.length_append, List.length_map, List.length_replicate]
      omega
    · cases h
  · split at h
    · obtain rfl := Option.some.inj h
      rw [List.length_map]
    · cases h
  · cases h

/-- What stands at a place of a list has a part of the list in front of it and one behind it. -/
theorem exists_append_of_getElem? {α : Type} {as : List α} {a : α} {i : Nat}
    (h : as[i]? = some a) : ∃ before after, as = before ++ a :: after ∧ before.length = i := by
  obtain ⟨hi, rfl⟩ := List.getElem?_eq_some_iff.1 h
  refine ⟨as.take i, as.drop (i + 1), ?_, List.length_take_of_le (Nat.le_of_lt hi)⟩
  rw [List.getElem_cons_drop, List.take_append_drop]

/-- The place of a value in a list without repetitions. -/
theorem idxOf_of_getElem? {i : Nat} (hkeys : keys.Nodup) (h : keys[i]? = some key) :
    keys.idxOf key = i := by
  obtain ⟨hi, rfl⟩ := List.getElem?_eq_some_iff.1 h
  exact hkeys.idxOf_getElem i hi

/-- The value of a key is found where no other member has the key. -/
theorem find?_member {before after : List (Option String × Json.Tree)} {t : Json.Tree}
    (h : (before ++ (some key, t) :: after).countP (·.1 == some key) ≤ 1) (t' : Json.Tree) :
    (before ++ (some key, t') :: after).find? (fun m => m.1 == some key) = some (some key, t') := by
  rw [List.countP_append, List.countP_cons_of_pos (by simp)] at h
  have hbefore : before.countP (·.1 == some key) = 0 := by omega
  have hnone : ∀ m ∈ before, ¬(m.1 == some key) = true := List.countP_eq_zero.1 hbefore
  rw [List.find?_append, List.find?_eq_none.2 hnone, Option.none_or,
    List.find?_cons_of_pos (by simp)]

/-- The value of another key is the same. -/
theorem find?_other {k : String} (hk : k ≠ key) (before after : List (Option String × Json.Tree))
    (t : Json.Tree) : (before ++ (some key, t) :: after).find? (fun m => m.1 == some k) =
      (before ++ after).find? (fun m => m.1 == some k) := by
  rw [List.find?_append, List.find?_append, List.find?_cons_of_neg (by simpa using hk.symm)]

/-- Another tree in the place of a field changes this field alone. -/
theorem IsField.recordFields?_set {i : Nat} (h : IsField keys key around) (hkeys : keys.Nodup)
    (hkey : keys[i]? = some key) (t t' : Json.Tree) : recordFields? keys (around t') =
      (recordFields? keys (around t)).map fun fields => fields.set i (some t') := by
  obtain rfl : keys.idxOf key = i := idxOf_of_getElem? hkeys hkey
  cases h with
  | @item before after hplace =>
    have hlength (t : Json.Tree) :
        (before ++ t :: after).length = before.length + (after.length + 1) := by simp
    simp only [recordFields?, hlength, idxOf_of_getElem? hkeys hplace]
    split
    · simp [List.set_append_right]
    · rfl
  | @member before after =>
    have hcondition : ((before ++ (some key, t') :: after).all (·.1.isSome) &&
          keys.all fun k => (before ++ (some key, t') :: after).countP (·.1 == some k) ≤ 1) =
        ((before ++ (some key, t) :: after).all (·.1.isSome) &&
          keys.all fun k => (before ++ (some key, t) :: after).countP (·.1 == some k) ≤ 1) := by
      simp only [List.all_append, List.all_cons, List.countP_append, List.countP_cons]
    simp only [recordFields?, hcondition]
    split
    · next hdistinct =>
      rw [Bool.and_eq_true, List.all_eq_true, List.all_eq_true] at hdistinct
      -- No key is repeated in a record, so that the member is the one that is found.
      have hmem : key ∈ keys := List.mem_of_getElem? hkey
      have hcount := of_decide_eq_true (hdistinct.2 key hmem)
      rw [Option.map_some]
      have hupdate := hkeys.map_update (fun k => ((before ++ (some key, t) :: after).find?
        fun m => m.1 == some k).map (·.2)) key (some t')
      rw [if_pos hmem] at hupdate
      rw [← hupdate]
      refine congrArg some (List.map_congr_left fun k _ => ?_)
      by_cases hk : k = key
      · subst hk
        rw [Function.update_self, find?_member hcount, Option.map_some]
      · rw [Function.update_of_ne hk, find?_other hk, find?_other hk]
    · rfl

/-- A field has a place in every text of its record. -/
theorem IsField.standsIn (h : IsField keys key around) {t : Json.Tree} {cs : List Char}
    (ht : Json.IsSpacedText (around t) cs) : Json.StandsIn t around cs := by
  cases h with
  | item _ => exact ht.standsIn_array
  | member => exact ht.standsIn_object

/-- What a record has as a field under a key is a part of the tree. -/
theorem exists_isField {t value : Json.Tree} {i : Nat} (hkey : keys[i]? = some key)
    (h : recordFields? keys t = some fields) (hi : fields[i]? = some (some value)) :
    ∃ around, t = around value ∧ IsField keys key around := by
  unfold recordFields? at h
  split at h
  · next items =>
    split at h
    · obtain rfl := Option.some.inj h
      have hbound : i < items.length := by
        by_contra hge
        rw [List.getElem?_append_right (by simpa using hge), List.getElem?_replicate] at hi
        split at hi <;> cases hi
      rw [List.getElem?_append_left (by simpa using hbound), List.getElem?_map,
        Option.map_eq_some_iff] at hi
      obtain ⟨item, hitem, heq⟩ := hi
      obtain rfl := Option.some.inj heq
      obtain ⟨before, after, rfl, rfl⟩ := exists_append_of_getElem? hitem
      exact ⟨_, rfl, .item hkey⟩
    · cases h
  · next members =>
    split at h
    · obtain rfl := Option.some.inj h
      rw [List.getElem?_map, hkey, Option.map_some] at hi
      obtain ⟨⟨key?, item⟩, hfound, rfl⟩ := Option.map_eq_some_iff.1 (Option.some.inj hi)
      obtain ⟨hkey?, before, after, rfl, -⟩ := List.find?_eq_some_iff_append.1 hfound
      obtain rfl : key? = some key := by simpa using hkey?
      exact ⟨_, rfl, .member⟩
    · cases h
  · cases h

end InteractiveBook.Package
