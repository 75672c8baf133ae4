import InteractiveBook.Json.Reading
import InteractiveBook.Proofs.Json.Binary64
import InteractiveBook.Proofs.Json.Canonical

/-!
# The numbers and the nesting of a value

A value may hold numbers of any size, and its containers may be nested to any depth. A value that
was read keeps to the bounds of the reader: its integers have sixty-four bits, its real numbers keep
to the bounds of their format, and its containers are nested no deeper than allowed.
-/

namespace InteractiveBook.Json

mutual

/-- Whether all numbers in a value are integers. -/
def isWhole : Json → Bool
  | null => true
  | bool _ => true
  | number (.int _) => true
  | number (.real _) => false
  | string _ => true
  | array items => wholeItems items
  | object members => wholeMembers members

/-- Whether all numbers in the items of an array are integers. -/
def wholeItems : List Json → Bool
  | [] => true
  | item :: rest => item.isWhole && wholeItems rest

/-- Whether all numbers in the values of members are integers. -/
def wholeMembers : List (String × Json) → Bool
  | [] => true
  | (_, value) :: rest => value.isWhole && wholeMembers rest

end

mutual

/-- Whether the integers in a value fit sixty-four bits, its real numbers keep to the bounds of their
format and no more than so many containers are nested in it. -/
def fitsWithin : Nat → Json → Bool
  | _, null => true
  | _, bool _ => true
  | _, number (.int n) => decide (Text.minSigned64 ≤ n ∧ n ≤ Text.maxWord64)
  | _, number (.real x) => x.inRange
  | _, string _ => true
  | 0, array _ => false
  | 0, object _ => false
  | room + 1, array items => itemsFit room items
  | room + 1, object members => membersFit room members

/-- Whether the items of an array fit into so many further containers. -/
def itemsFit : Nat → List Json → Bool
  | _, [] => true
  | room, item :: rest => item.fitsWithin room && itemsFit room rest

/-- Whether the values of members fit into so many further containers. -/
def membersFit : Nat → List (String × Json) → Bool
  | _, [] => true
  | room, (_, value) :: rest => value.fitsWithin room && membersFit room rest

end

/-- The first item of an array without real numbers has none. -/
theorem wholeItems_head {item : Json} {more : List Json} (h : wholeItems (item :: more) = true) :
    item.isWhole = true := by
  rw [wholeItems, Bool.and_eq_true] at h
  exact h.1

/-- The further items of an array without real numbers have none. -/
theorem wholeItems_tail {item : Json} {more : List Json} (h : wholeItems (item :: more) = true) :
    wholeItems more = true := by
  rw [wholeItems, Bool.and_eq_true] at h
  exact h.2

/-- The first value of members without real numbers has none. -/
theorem wholeMembers_head {key : String} {value : Json} {more : List (String × Json)}
    (h : wholeMembers ((key, value) :: more) = true) : value.isWhole = true := by
  rw [wholeMembers, Bool.and_eq_true] at h
  exact h.1

/-- The further values of members without real numbers have none. -/
theorem wholeMembers_tail {key : String} {value : Json} {more : List (String × Json)}
    (h : wholeMembers ((key, value) :: more) = true) : wholeMembers more = true := by
  rw [wholeMembers, Bool.and_eq_true] at h
  exact h.2

/-- Items have no real numbers when none of them has any. -/
theorem wholeItems_iff {items : List Json} :
    wholeItems items = true ↔ ∀ item ∈ items, item.isWhole = true := by
  induction items with
  | nil => simp [wholeItems]
  | cons item rest ih => rw [wholeItems, Bool.and_eq_true, ih, List.forall_mem_cons]

/-- Items fit when each of them does. -/
theorem itemsFit_iff {room : Nat} {items : List Json} :
    itemsFit room items = true ↔ ∀ item ∈ items, item.fitsWithin room = true := by
  induction items with
  | nil => simp [itemsFit]
  | cons item rest ih => rw [itemsFit, Bool.and_eq_true, ih, List.forall_mem_cons]

/-- Members fit when their values do. -/
theorem membersFit_iff {room : Nat} {members : List (String × Json)} :
    membersFit room members = true ↔ ∀ m ∈ members, m.2.fitsWithin room = true := by
  induction members with
  | nil => simp [membersFit]
  | cons m rest ih =>
    obtain ⟨key, value⟩ := m
    rw [membersFit, Bool.and_eq_true, ih, List.forall_mem_cons]

/-- Members have no real numbers when their values have none. -/
theorem wholeMembers_iff {members : List (String × Json)} :
    wholeMembers members = true ↔ ∀ m ∈ members, m.2.isWhole = true := by
  induction members with
  | nil => simp [wholeMembers]
  | cons m rest ih =>
    obtain ⟨key, value⟩ := m
    rw [wholeMembers, Bool.and_eq_true, ih, List.forall_mem_cons]

/-- A value that fits into some containers fits into more. -/
theorem fitsWithin_mono {room wider : Nat} {v : Json} (hle : room ≤ wider)
    (h : v.fitsWithin room = true) : v.fitsWithin wider = true := by
  induction room generalizing wider v with
  | zero =>
    cases v with
    | array items => cases h
    | object members => cases h
    | number n => cases n <;> cases wider <;> exact h
    | null | bool b | string s => cases wider <;> rfl
  | succ room ih =>
    obtain ⟨wider, rfl⟩ : ∃ more, wider = more + 1 := ⟨wider - 1, by omega⟩
    have hle : room ≤ wider := by omega
    cases v with
    | array items =>
      exact itemsFit_iff.2 fun item hitem => ih hle (itemsFit_iff.1 h item hitem)
    | object members =>
      exact membersFit_iff.2 fun m hm => ih hle (membersFit_iff.1 h m hm)
    | number n => cases n <;> exact h
    | null | bool b | string s => rfl

/-- One more item fits somewhere along with items that do. -/
theorem exists_itemsFit_cons {item : Json} {rest : List Json}
    (hitem : ∃ room, item.fitsWithin room = true) (hrest : ∃ room, itemsFit room rest = true) :
    ∃ room, itemsFit room (item :: rest) = true := by
  obtain ⟨first, hitem⟩ := hitem
  obtain ⟨more, hrest⟩ := hrest
  refine ⟨max first more, itemsFit_iff.2 (List.forall_mem_cons.2 ⟨?_, fun v hv => ?_⟩)⟩
  · exact fitsWithin_mono (Nat.le_max_left first more) hitem
  · exact fitsWithin_mono (Nat.le_max_right first more) (itemsFit_iff.1 hrest v hv)

/-- Items that fit one by one fit somewhere together. -/
theorem exists_itemsFit {items : List Json}
    (h : ∀ item ∈ items, ∃ room, item.fitsWithin room = true) :
    ∃ room, itemsFit room items = true := by
  induction items with
  | nil => exact ⟨0, rfl⟩
  | cons item rest ih =>
    obtain ⟨hitem, hrest⟩ := List.forall_mem_cons.1 h
    exact exists_itemsFit_cons hitem (ih hrest)

/-! ### What was read -/

/-- The integer that a numeral denotes fits sixty-four bits. -/
theorem range_of_integer? {n : Numeral} {i : Int} (h : n.integer? = some i) :
    Text.minSigned64 ≤ i ∧ i ≤ Text.maxWord64 := by
  rw [Numeral.integer?] at h
  have hlow : Text.minSigned64 ≤ 0 := by decide
  split at h
  · cases h
  · split at h
    · split at h
      · rename_i hfits
        obtain rfl := Option.some.inj h
        exact ⟨hfits.2, by omega⟩
      · cases h
    · split at h
      · rename_i hfits
        obtain rfl := Option.some.inj h
        exact ⟨by omega, by exact_mod_cast hfits⟩
      · cases h

/-- The binary number that a numeral is read as keeps to the bounds. -/
theorem inRange_of_real? {n : Numeral} {x : Binary64} (h : n.real? = some x) :
    x.inRange = true := by
  rw [Numeral.real?] at h
  split at h
  · exact Binary64.inRange_of_ofDecimal? h
  · dsimp only at h
    split at h
    · split at h
      · cases h
      · obtain rfl := Option.some.inj h
        exact Binary64.inRange_zero n.negative
    · exact Binary64.inRange_of_ofDecimal? h

/-- The number that a numeral is read as keeps to the bounds of its kind. -/
theorem fitsWithin_number {n : Numeral} {x : Number} (h : n.number? = some x) (room : Nat) :
    (number x).fitsWithin room = true := by
  rw [Numeral.number?] at h
  split at h
  · rename_i i hi
    obtain rfl := Option.some.inj h
    cases room <;> exact decide_eq_true (range_of_integer? hi)
  · obtain ⟨y, hy, rfl⟩ := Option.map_eq_some_iff.1 h
    cases room <;> exact inRange_of_real? hy

mutual

/-- A value that was read fits into the containers that were allowed. -/
theorem fitsWithin_of_valueWithin? : ∀ (room : Nat) (t : Tree) (v : Json),
    t.valueWithin? room = some v → v.fitsWithin room = true
  | room, .null, v => by
    intro h
    cases room <;> (obtain rfl := Option.some.inj h; rfl)
  | room, .bool b, v => by
    intro h
    cases room <;> (obtain rfl := Option.some.inj h; rfl)
  | room, .number n, v => by
    intro h
    have hmap : n.number?.map Json.number = some v := by cases room <;> exact h
    obtain ⟨x, hx, rfl⟩ := Option.map_eq_some_iff.1 hmap
    exact fitsWithin_number hx room
  | room, .string s?, v => by
    intro h
    have hmap : s?.map Json.string = some v := by cases room <;> exact h
    obtain ⟨s, -, rfl⟩ := Option.map_eq_some_iff.1 hmap
    cases room <;> rfl
  | 0, .array _, _ => fun h => by cases h
  | 0, .object _, _ => fun h => by cases h
  | room + 1, .array items, v => by
    intro h
    rw [Tree.valueWithin?] at h
    obtain ⟨values, hvalues, rfl⟩ := Option.map_eq_some_iff.1 h
    exact itemsFit_of_itemsWithin? room items values hvalues
  | room + 1, .object members, v => by
    intro h
    rw [Tree.valueWithin?] at h
    obtain ⟨values, hvalues, rfl⟩ := Option.map_eq_some_iff.1 h
    exact membersFit_of_membersWithin? room members values hvalues

/-- Items that were read fit into the containers that were allowed. -/
theorem itemsFit_of_itemsWithin? : ∀ (room : Nat) (items : List Tree) (values : List Json),
    itemsWithin? room items = some values → itemsFit room values = true
  | _, [], values => by
    intro h
    obtain rfl := Option.some.inj h
    rfl
  | room, item :: rest, values => by
    intro h
    rw [itemsWithin?] at h
    obtain ⟨value, hvalue, h⟩ := Option.bind_eq_some_iff.1 h
    obtain ⟨more, hmore, h⟩ := Option.bind_eq_some_iff.1 h
    obtain rfl := Option.some.inj h
    rw [itemsFit, fitsWithin_of_valueWithin? room item value hvalue,
      itemsFit_of_itemsWithin? room rest more hmore]
    rfl

/-- Members that were read fit into the containers that were allowed. -/
theorem membersFit_of_membersWithin? : ∀ (room : Nat) (members : List (Option String × Tree))
    (values : List (String × Json)), membersWithin? room members = some values →
      membersFit room values = true
  | _, [], values => by
    intro h
    obtain rfl := Option.some.inj h
    rfl
  | room, (key?, item) :: rest, values => by
    intro h
    rw [membersWithin?] at h
    obtain ⟨key, -, h⟩ := Option.bind_eq_some_iff.1 h
    obtain ⟨value, hvalue, h⟩ := Option.bind_eq_some_iff.1 h
    obtain ⟨more, hmore, h⟩ := Option.bind_eq_some_iff.1 h
    obtain rfl := Option.some.inj h
    rw [membersFit, fitsWithin_of_valueWithin? room item value hvalue,
      membersFit_of_membersWithin? room rest more hmore]
    rfl

end

mutual

/-- The canonical form of a value needs no more room than the value. -/
theorem fitsWithin_canonical : ∀ (room : Nat) (v : Json), v.fitsWithin room = true →
    v.canonical.fitsWithin room = true
  | _, null => id
  | _, bool _ => id
  | _, number _ => id
  | _, string _ => id
  | 0, array _ => fun h => by cases h
  | 0, object _ => fun h => by cases h
  | room + 1, array items => itemsFit_canonicalItems room items
  | room + 1, object members => by
    intro h
    rw [canonical, fitsWithin, membersFit_iff]
    exact fun m hm => membersFit_iff.1 (membersFit_canonicalMembers room members h) m
      (mem_sortMembers hm)

/-- The canonical forms of items need no more room than the items. -/
theorem itemsFit_canonicalItems : ∀ (room : Nat) (items : List Json), itemsFit room items = true →
    itemsFit room (canonicalItems items) = true
  | _, [] => fun _ => rfl
  | room, item :: rest => by
    intro h
    rw [itemsFit, Bool.and_eq_true] at h
    rw [canonicalItems, itemsFit, fitsWithin_canonical room item h.1,
      itemsFit_canonicalItems room rest h.2]
    rfl

/-- The canonical forms of members need no more room than the members. -/
theorem membersFit_canonicalMembers : ∀ (room : Nat) (members : List (String × Json)),
    membersFit room members = true → membersFit room (canonicalMembers members) = true
  | _, [] => fun _ => rfl
  | room, (key, value) :: rest => by
    intro h
    rw [membersFit, Bool.and_eq_true] at h
    rw [canonicalMembers, membersFit, fitsWithin_canonical room value h.1,
      membersFit_canonicalMembers room rest h.2]
    rfl

end

mutual

/-- The canonical form of a value without real numbers has none. -/
theorem isWhole_canonical : ∀ v : Json, v.isWhole = true → v.canonical.isWhole = true
  | null => id
  | bool _ => id
  | number _ => id
  | string _ => id
  | array items => wholeItems_canonicalItems items
  | object members => by
    intro h
    rw [canonical, isWhole, wholeMembers_iff]
    exact fun m hm => wholeMembers_iff.1 (wholeMembers_canonicalMembers members h) m
      (mem_sortMembers hm)

/-- The canonical forms of items without real numbers have none. -/
theorem wholeItems_canonicalItems : ∀ items : List Json, wholeItems items = true →
    wholeItems (canonicalItems items) = true
  | [] => fun _ => rfl
  | item :: rest => by
    intro h
    rw [canonicalItems, wholeItems, isWhole_canonical item (wholeItems_head h),
      wholeItems_canonicalItems rest (wholeItems_tail h)]
    rfl

/-- The canonical forms of members without real numbers have none. -/
theorem wholeMembers_canonicalMembers : ∀ members : List (String × Json),
    wholeMembers members = true → wholeMembers (canonicalMembers members) = true
  | [] => fun _ => rfl
  | (key, value) :: rest => by
    intro h
    rw [canonicalMembers, wholeMembers, isWhole_canonical value (wholeMembers_head h),
      wholeMembers_canonicalMembers rest (wholeMembers_tail h)]
    rfl

end

/-- A value that was read is canonical, and its numbers and its nesting fit. -/
theorem canonical_fitsWithin_of_parse? {s : String} {v : Json} (h : parse? s = some v) :
    v.canonical = v ∧ v.fitsWithin maxNesting = true := by
  rw [parse?] at h
  obtain ⟨tree, -, h⟩ := Option.bind_eq_some_iff.1 h
  obtain ⟨value, hvalue, h⟩ := Option.bind_eq_some_iff.1 h
  obtain rfl := Option.some.inj h
  exact ⟨canonical_canonical value,
    fitsWithin_canonical _ value (fitsWithin_of_valueWithin? _ tree value hvalue)⟩

end InteractiveBook.Json
