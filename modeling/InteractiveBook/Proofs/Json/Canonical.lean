import InteractiveBook.Json.Value

/-!
# The canonical form

Inserting a member keeps the keys of an object in strictly ascending order, and members in that
order are not changed by sorting them again. Hence a canonical value is its own canonical form, and
replacing a member of a canonical object by a canonical value leaves it canonical.
-/

namespace InteractiveBook.Json

variable {members : List (String × Json)} {key : String} {value : Json}

/-- The keys of members ascend strictly. -/
def Ascending (members : List (String × Json)) : Prop := members.Pairwise fun a b => a.1 < b.1

/-- No key comes twice where the keys ascend strictly. -/
theorem Ascending.nodup (h : Ascending members) : (members.map Prod.fst).Nodup :=
  List.pairwise_map.2 (h.imp String.ne_of_lt)

/-! ### Inserting a member -/

/-- A member is inserted only once: the second value of a key replaces the first one. -/
theorem insertMember_insertMember (key : String) (v w : Json) (members : List (String × Json)) :
    insertMember key w (insertMember key v members) = insertMember key w members := by
  induction members with
  | nil => simp [insertMember]
  | cons m rest ih =>
    obtain ⟨k, u⟩ := m
    rw [insertMember, insertMember]
    by_cases heq : key = k
    · rw [if_pos heq, if_pos heq, insertMember, if_pos rfl]
    · rw [if_neg heq, if_neg heq]
      by_cases hlt : key < k
      · rw [if_pos hlt, if_pos hlt, insertMember, if_pos rfl]
      · rw [if_neg hlt, if_neg hlt, insertMember, if_neg heq, if_neg hlt, ih]

/-- A member after an insertion is the inserted one or one from before. -/
theorem mem_insertMember {m : String × Json} (h : m ∈ insertMember key value members) :
    m = (key, value) ∨ m ∈ members := by
  induction members with
  | nil => exact .inl (by simpa [insertMember] using h)
  | cons first rest ih =>
    obtain ⟨k, v⟩ := first
    rw [insertMember] at h
    split at h
    · rcases List.mem_cons.1 h with h | h
      · exact .inl h
      · exact .inr (List.mem_cons_of_mem _ h)
    · split at h
      · rcases List.mem_cons.1 h with h | h
        · exact .inl h
        · exact .inr h
      · rcases List.mem_cons.1 h with h | h
        · exact .inr (h ▸ List.mem_cons_self)
        · rcases ih h with h | h
          · exact .inl h
          · exact .inr (List.mem_cons_of_mem _ h)

/-- The inserted member is there after an insertion. -/
theorem mem_insertMember_self (key : String) (value : Json) (members : List (String × Json)) :
    (key, value) ∈ insertMember key value members := by
  induction members with
  | nil => exact List.mem_singleton_self _
  | cons first rest ih =>
    rw [insertMember]
    split
    · exact List.mem_cons_self
    · split
      · exact List.mem_cons_self
      · exact List.mem_cons_of_mem first ih

/-- A member of another key is there after an insertion exactly when it was before. -/
theorem mem_insertMember_iff_of_ne {m : String × Json} (hne : m.1 ≠ key) :
    m ∈ insertMember key value members ↔ m ∈ members := by
  constructor
  · intro h
    rcases mem_insertMember h with rfl | h
    · exact (hne rfl).elim
    · exact h
  · intro h
    induction members with
    | nil => cases h
    | cons first rest ih =>
      rw [insertMember]
      rcases List.mem_cons.1 h with rfl | h
      · rw [if_neg hne.symm]
        split
        · exact List.mem_cons_of_mem _ List.mem_cons_self
        · exact List.mem_cons_self
      · split
        · exact List.mem_cons_of_mem _ h
        · split
          · exact List.mem_cons_of_mem _ (List.mem_cons_of_mem first h)
          · exact List.mem_cons_of_mem first (ih h)

/-- Inserting a member keeps the keys in strictly ascending order. -/
theorem Ascending.insertMember (h : Ascending members) (key : String) (value : Json) :
    Ascending (insertMember key value members) := by
  induction members with
  | nil => exact List.pairwise_singleton ..
  | cons m rest ih =>
    obtain ⟨k, v⟩ := m
    obtain ⟨hfirst, hrest⟩ := List.pairwise_cons.1 h
    rw [Json.insertMember]
    by_cases heq : key = k
    · rw [if_pos heq]
      exact List.pairwise_cons.2 ⟨fun m hm => heq ▸ hfirst m hm, hrest⟩
    · rw [if_neg heq]
      by_cases hlt : key < k
      · rw [if_pos hlt]
        refine List.pairwise_cons.2 ⟨fun m hm => ?_, h⟩
        rcases List.mem_cons.1 hm with rfl | hm
        · exact hlt
        · exact String.lt_trans hlt (hfirst m hm)
      · rw [if_neg hlt]
        refine List.pairwise_cons.2 ⟨fun m hm => ?_, ih hrest⟩
        rcases mem_insertMember hm with rfl | hm
        · exact Std.lt_of_le_of_ne (String.not_lt.1 hlt) (Ne.symm heq)
        · exact hfirst m hm

/-- A member whose key comes after all others is inserted at the end. -/
theorem insertMember_of_forall_lt (h : ∀ m ∈ members, m.1 < key) :
    insertMember key value members = members ++ [(key, value)] := by
  induction members with
  | nil => rfl
  | cons m rest ih =>
    obtain ⟨k, v⟩ := m
    have hlt : k < key := h (k, v) List.mem_cons_self
    rw [insertMember, if_neg (String.ne_of_lt hlt).symm, if_neg (String.lt_asymm hlt),
      ih fun m hm => h m (List.mem_cons_of_mem _ hm), List.cons_append]

/-! ### Sorting the members -/

/-- Sorted members are in strictly ascending order. -/
theorem ascending_sortMembers (members : List (String × Json)) :
    Ascending (sortMembers members) := by
  have hfold : ∀ sorted, Ascending sorted →
      Ascending (members.foldl (fun sorted m => insertMember m.1 m.2 sorted) sorted) := by
    induction members with
    | nil => exact fun sorted h => h
    | cons m rest ih => exact fun sorted h => ih _ (h.insertMember m.1 m.2)
  exact hfold [] .nil

/-- Sorting makes no new members. -/
theorem mem_sortMembers {m : String × Json} (h : m ∈ sortMembers members) : m ∈ members := by
  have hfold : ∀ sorted,
      m ∈ members.foldl (fun sorted m => insertMember m.1 m.2 sorted) sorted →
        m ∈ members ∨ m ∈ sorted := by
    clear h
    induction members with
    | nil => exact fun sorted h => .inr h
    | cons first rest ih =>
      intro sorted h
      rcases ih _ h with h | h
      · exact .inl (List.mem_cons_of_mem _ h)
      · rcases mem_insertMember h with h | h
        · exact .inl (h ▸ List.mem_cons_self)
        · exact .inr h
  exact (hfold [] h).resolve_right (by simp)

/-- Sorting loses no members where no key comes twice. -/
theorem mem_sortMembers_iff (hkeys : (members.map Prod.fst).Nodup) {m : String × Json} :
    m ∈ sortMembers members ↔ m ∈ members := by
  have hfold : ∀ sorted, (m ∈ members ∨ m ∈ sorted ∧ m.1 ∉ members.map Prod.fst) →
      m ∈ members.foldl (fun sorted m => insertMember m.1 m.2 sorted) sorted := by
    induction members with
    | nil => exact fun sorted h => (h.resolve_left List.not_mem_nil).1
    | cons first rest ih =>
      obtain ⟨hfirst, hrest⟩ := List.nodup_cons.1 hkeys
      intro sorted h
      refine ih hrest _ ?_
      rcases h with h | ⟨hsorted, hnew⟩
      · rcases List.mem_cons.1 h with rfl | h
        · exact .inr ⟨mem_insertMember_self .., hfirst⟩
        · exact .inl h
      · obtain ⟨hne, hnew⟩ := not_or.1 (mt List.mem_cons.2 hnew)
        exact .inr ⟨(mem_insertMember_iff_of_ne hne).2 hsorted, hnew⟩
  exact ⟨mem_sortMembers, fun h => hfold [] (.inl h)⟩

/-- Members in strictly ascending order are not changed by sorting them. -/
theorem sortMembers_of_ascending (h : Ascending members) : sortMembers members = members := by
  have hfold : ∀ sorted, Ascending (sorted ++ members) →
      members.foldl (fun sorted m => insertMember m.1 m.2 sorted) sorted = sorted ++ members := by
    clear h
    induction members with
    | nil => simp
    | cons m rest ih =>
      intro sorted h
      have hlast : ∀ n ∈ sorted, n.1 < m.1 := fun n hn =>
        (List.pairwise_append.1 h).2.2 n hn m List.mem_cons_self
      rw [List.foldl_cons, insertMember_of_forall_lt hlast, ih _ (by simpa using h)]
      simp
  exact hfold [] h

/-! ### Canonical values -/

/-- The members of an object in canonical form are its members, each with its value in canonical
form. -/
theorem canonicalMembers_eq_map (members : List (String × Json)) :
    canonicalMembers members = members.map fun m => (m.1, m.2.canonical) := by
  induction members with
  | nil => rfl
  | cons m rest ih => rw [canonicalMembers, ih, List.map_cons]

/-- The items of an array in canonical form are its items, each in canonical form. -/
theorem canonicalItems_eq_map (items : List Json) :
    canonicalItems items = items.map canonical := by
  induction items with
  | nil => rfl
  | cons item rest ih => rw [canonicalItems, ih, List.map_cons]

/-- An object with ascending keys and canonical values is canonical. -/
theorem canonical_object (h : Ascending members) (hc : ∀ m ∈ members, m.2.canonical = m.2) :
    (object members).canonical = object members := by
  have hsame : canonicalMembers members = members := by
    rw [canonicalMembers_eq_map]
    exact (List.map_congr_left fun m hm => by rw [hc m hm]).trans (List.map_id' members)
  rw [canonical, hsame, sortMembers_of_ascending h]

mutual

/-- The canonical form of a value is canonical. -/
theorem canonical_canonical : ∀ v : Json, v.canonical.canonical = v.canonical
  | null => rfl
  | bool _ => rfl
  | number _ => rfl
  | string _ => rfl
  | array items => by
    rw [canonical, canonical, canonicalItems_canonicalItems items]
  | object members => by
    rw [canonical]
    refine canonical_object (ascending_sortMembers _) fun m hm => ?_
    exact canonical_of_mem_canonicalMembers members m (mem_sortMembers hm)

/-- The canonical forms of the items of an array are canonical. -/
theorem canonicalItems_canonicalItems :
    ∀ items : List Json, canonicalItems (canonicalItems items) = canonicalItems items
  | [] => rfl
  | item :: rest => by
    rw [canonicalItems, canonicalItems, canonical_canonical item,
      canonicalItems_canonicalItems rest]

/-- The canonical forms of the values of members are canonical. -/
theorem canonical_of_mem_canonicalMembers : ∀ (members : List (String × Json)),
    ∀ m ∈ canonicalMembers members, m.2.canonical = m.2
  | [], m, hm => by cases hm
  | (key, value) :: rest, m, hm => by
    rw [canonicalMembers] at hm
    rcases List.mem_cons.1 hm with rfl | hm
    · exact canonical_canonical value
    · exact canonical_of_mem_canonicalMembers rest m hm

end

/-- A canonical object has ascending keys and canonical values. -/
theorem ascending_of_canonical_object (h : (object members).canonical = object members) :
    Ascending members ∧ ∀ m ∈ members, m.2.canonical = m.2 := by
  rw [canonical, object.injEq] at h
  refine ⟨h ▸ ascending_sortMembers _, fun m hm => ?_⟩
  rw [← h] at hm
  exact canonical_of_mem_canonicalMembers members m (mem_sortMembers hm)

end InteractiveBook.Json
