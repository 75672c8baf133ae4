import InteractiveBook.Proofs.Json.Grammar
import InteractiveBook.Proofs.Json.Range
import InteractiveBook.Proofs.Json.RealText

/-!
# Reading what was printed

The compact layout of a value is read back as the value, provided that its numbers fit and that its
containers are not nested too deep. Texts may hold any characters: each is escaped to a form from
which the reader takes it back. A real number is read back from the decimal that is written for it;
a value without real numbers is read back as it is.
-/

namespace InteractiveBook.Json

/-- The numeral of a number. -/
def Number.numeral : Number → Numeral
  | int n => numeralOf n
  | real x => x.numeral

/-- The number that is found when a number was written and is read back. -/
def Number.reread : Number → Number
  | int n => int n
  | real x => x.numeral.number?.getD (real x)

mutual

/-- The value that is found when a value was written and is read back. -/
def reread : Json → Json
  | null => null
  | bool b => bool b
  | number n => number n.reread
  | string s => string s
  | array items => array (rereadItems items)
  | object members => object (rereadMembers members)

/-- The items that are found when the items of an array were written and are read back. -/
def rereadItems : List Json → List Json
  | [] => []
  | item :: rest => item.reread :: rereadItems rest

/-- The members that are found when the members of an object were written and are read back. -/
def rereadMembers : List (String × Json) → List (String × Json)
  | [] => []
  | (key, value) :: rest => (key, value.reread) :: rereadMembers rest

end

mutual

/-- The syntax tree of the compact layout of a value. -/
def toTree : Json → Tree
  | null => .null
  | bool b => .bool b
  | number n => .number n.numeral
  | string s => .string (some s)
  | array items => .array (itemTrees items)
  | object members => .object (memberTrees members)

/-- The syntax trees of the items of an array. -/
def itemTrees : List Json → List Tree
  | [] => []
  | item :: rest => item.toTree :: itemTrees rest

/-- The syntax trees of the members of an object. -/
def memberTrees : List (String × Json) → List (Option String × Tree)
  | [] => []
  | (key, value) :: rest => (some key, value.toTree) :: memberTrees rest

end

/-! ### Texts -/

/-- The written form of a character below the space, and what the reader makes of it. -/
theorem control_escape {n : Nat} (h : n < 32) :
    ∃ a b, (Text.paddedDigits 16 4 n).toList = ['0', '0', a, b] ∧
      hexUnit? '0' '0' a b = some n := by
  have hall : ((List.range 32).all fun k => ['0', '1'].any fun a =>
      "0123456789abcdef".toList.any fun b =>
        (Text.paddedDigits 16 4 k).toList == ['0', '0', a, b] &&
          hexUnit? '0' '0' a b == some k) = true := by decide +kernel
  obtain ⟨a, -, ha⟩ := List.any_eq_true.1 (List.all_eq_true.1 hall n (List.mem_range.2 h))
  obtain ⟨b, -, hab⟩ := List.any_eq_true.1 ha
  rw [Bool.and_eq_true, beq_iff_eq, beq_iff_eq] at hab
  exact ⟨a, b, hab⟩

/-- The reader takes an escaped character back and goes on behind it. -/
theorem textBody_escapeChar (c : Char) (soFar rest : List Char) :
    textBody (some soFar) none (escapeChar c ++ rest) = textBody (some (c :: soFar)) none rest := by
  rw [escapeChar]
  by_cases h1 : c = '"'
  · subst h1; rfl
  rw [if_neg h1]
  by_cases h2 : c = '\\'
  · subst h2; rfl
  rw [if_neg h2]
  by_cases h3 : c = '\n'
  · subst h3; rfl
  rw [if_neg h3]
  by_cases h4 : c = '\r'
  · subst h4; rfl
  rw [if_neg h4]
  by_cases h5 : c = '\t'
  · subst h5; rfl
  rw [if_neg h5]
  by_cases h6 : c = '\x08'
  · subst h6; rfl
  rw [if_neg h6]
  by_cases h7 : c = '\x0c'
  · subst h7; rfl
  rw [if_neg h7]
  by_cases h8 : c.toNat < 0x20
  · obtain ⟨a, b, hdigits, hunit⟩ := control_escape h8
    have hhigh : isHighSurrogate c.toNat = false := by simp [isHighSurrogate]; omega
    have hlow : isLowSurrogate c.toNat = false := by simp [isLowSurrogate]; omega
    rw [if_pos h8, hdigits]
    simp only [List.cons_append, List.nil_append, textBody, hunit, hhigh, hlow, Char.ofNat_toNat]
    rfl
  · rw [if_neg h8, List.singleton_append, textBody]
    · rw [if_neg (by simp [h2]; omega)]
      rfl
    all_goals simp [h1, h2]

/-- The reader takes the characters of a quoted text back and goes on behind the closing mark. -/
theorem textBody_escaped (cs soFar rest : List Char) :
    textBody (some soFar) none (cs.flatMap escapeChar ++ '"' :: rest) =
      some (some (String.ofList (soFar.reverse ++ cs)), rest) := by
  induction cs generalizing soFar with
  | nil => simp [textBody]
  | cons c cs ih =>
    rw [List.flatMap_cons, List.append_assoc, textBody_escapeChar, ih]
    simp

/-- The characters of a quoted text. -/
theorem toList_quote (s : String) :
    (quote s).toList = '"' :: (s.toList.flatMap escapeChar ++ ['"']) := by
  simp [quote, String.toList_append]

/-- A quoted text is read back behind its opening mark. -/
theorem textBody_quote (s : String) (rest : List Char) :
    textBody (some []) none (s.toList.flatMap escapeChar ++ '"' :: rest) = some (some s, rest) := by
  rw [textBody_escaped, List.reverse_nil, List.nil_append, String.ofList_toList]

/-! ### Numbers -/

/-- The text of a number is that of its numeral. -/
theorem Number.toList_text (n : Number) : n.text.toList = n.numeral.chars := by
  cases n with
  | int n => exact toList_text_int n
  | real x => exact x.toList_text

/-- The numeral of a number is written as JSON allows it. -/
theorem Number.isProper_numeral (n : Number) : n.numeral.IsProper := by
  cases n with
  | int n => exact isProper_numeralOf n
  | real x => exact x.isProper_numeral

/-- An integer of sixty-four bits is the one that its numeral denotes. -/
theorem number?_numeralOf {n : Int} (hlow : Text.minSigned64 ≤ n) (hhigh : n ≤ Text.maxWord64) :
    (numeralOf n).number? = some (.int n) := by
  have hvalue := decimalValue_toDigits n.natAbs
  have hint : (numeralOf n).integer? = some n := by
    rw [Numeral.integer?, numeralOf]
    dsimp only
    rw [hvalue, if_neg (by simp)]
    by_cases hneg : n < 0
    · have habs : -(n.natAbs : Int) = n := by omega
      rw [if_pos (by simpa using hneg), habs, if_pos ⟨by omega, hlow⟩]
    · have habs : (n.natAbs : Int) = n := by omega
      rw [if_neg (by simpa using hneg), habs, if_pos (by omega)]
  rw [Numeral.number?, hint]

/-- A number that keeps to the bounds is read back from its numeral. -/
theorem number?_numeral {n : Number} {room : Nat} (h : (number n).fitsWithin room = true) :
    n.numeral.number? = some n.reread := by
  cases n with
  | int n =>
    have hrange : Text.minSigned64 ≤ n ∧ n ≤ Text.maxWord64 := by
      cases room <;> exact of_decide_eq_true h
    exact number?_numeralOf hrange.1 hrange.2
  | real x =>
    have hx : x.inRange = true := by cases room <;> exact h
    obtain ⟨y, hy⟩ := Option.isSome_iff_exists.1 (Binary64.number?_numeral_isSome hx)
    rw [Number.numeral, Number.reread, hy, Option.getD_some]

/-! ### Values -/

/-- The characters of the layout of an array. -/
theorem toList_compact_array (items : List Json) :
    (array items).compact.toList = '[' :: ((compactItems items).toList ++ [']']) := by
  rw [compact, String.toList_append, String.toList_append]
  rfl

/-- The characters of the layout of an object. -/
theorem toList_compact_object (members : List (String × Json)) :
    (object members).compact.toList = '\x7b' :: ((compactMembers members).toList ++ ['\x7d']) := by
  rw [compact, String.toList_append, String.toList_append]
  rfl

/-- The characters of the layout of the items of an array, and of what stands behind them. -/
theorem toList_compactItems_cons (item next : Json) (more : List Json) :
    (compactItems (item :: next :: more)).toList =
      item.compact.toList ++ ',' :: (compactItems (next :: more)).toList := by
  rw [compactItems, String.toList_append, String.toList_append]
  · exact List.append_assoc ..
  · simp

/-- The characters of the layout of a member. -/
theorem toList_compactMembers_one (key : String) (value : Json) :
    (compactMembers [(key, value)]).toList =
      '"' :: (key.toList.flatMap escapeChar ++ '"' :: ':' :: value.compact.toList) := by
  rw [compactMembers, String.toList_append, String.toList_append, toList_quote]
  simp

/-- The characters of the layout of the members of an object. -/
theorem toList_compactMembers_cons (key : String) (value : Json) (next : String × Json)
    (more : List (String × Json)) :
    (compactMembers ((key, value) :: next :: more)).toList =
      '"' :: (key.toList.flatMap escapeChar ++ '"' :: ':' :: (value.compact.toList
        ++ ',' :: (compactMembers (next :: more)).toList)) := by
  rw [compactMembers, String.toList_append, String.toList_append, String.toList_append,
    String.toList_append, toList_quote]
  · simp
  · simp

/-- What is written of a key is read back up to its closing mark. -/
theorem readsBody_escaped (s : String) :
    ReadsBody (some []) none (some s) (s.toList.flatMap escapeChar ++ ['"']) := by
  intro rest
  rw [List.append_assoc]
  exact textBody_quote s rest

/-- A member of the compact layout is one way to write its syntax tree. -/
theorem IsValueText.isMemberText {t : Tree} {cs : List Char} (h : IsValueText t cs)
    (key : String) :
    IsMemberText (some key, t) ('"' :: (key.toList.flatMap escapeChar ++ '"' :: ':' :: cs)) := by
  have hmember := IsMemberText.member isGap_nil (readsBody_escaped key) isGap_nil h.spaced
  rwa [List.append_assoc] at hmember

mutual

/-- The compact layout of a value is one way to write its syntax tree. -/
theorem isValueText_compact : ∀ v : Json, IsValueText v.toTree v.compact.toList
  | null => .null
  | bool true => .yes
  | bool false => .no
  | number n => by
    rw [compact, n.toList_text]
    exact .number n.isProper_numeral.isNumeralText
  | string s => by
    rw [compact, toList_quote]
    exact .string (readsBody_escaped s)
  | array [] => .noItems isGap_nil
  | array (item :: more) => by
    rw [toList_compact_array]
    exact .items (isItemsText_compactItems (item :: more) (List.cons_ne_nil _ _))
  | object [] => .noMembers isGap_nil
  | object (member :: more) => by
    rw [toList_compact_object]
    exact .members (isMembersText_compactMembers (member :: more) (List.cons_ne_nil _ _))

/-- The compact layout of the items of an array is one way to write their syntax trees. -/
theorem isItemsText_compactItems : ∀ items : List Json, items ≠ [] →
    IsItemsText (itemTrees items) (compactItems items).toList
  | [] => fun hne => (hne rfl).elim
  | [item] => fun _ => .last (isValueText_compact item).spaced
  | item :: next :: more => by
    intro _
    rw [toList_compactItems_cons]
    exact .more (isValueText_compact item).spaced
      (isItemsText_compactItems (next :: more) (List.cons_ne_nil _ _))

/-- The compact layout of the members of an object is one way to write their syntax trees. -/
theorem isMembersText_compactMembers : ∀ members : List (String × Json), members ≠ [] →
    IsMembersText (memberTrees members) (compactMembers members).toList
  | [] => fun hne => (hne rfl).elim
  | [(key, value)] => by
    intro _
    rw [toList_compactMembers_one]
    exact .last ((isValueText_compact value).isMemberText key)
  | (key, value) :: next :: more => by
    intro _
    have hmore := IsMembersText.more ((isValueText_compact value).isMemberText key)
      (isMembersText_compactMembers (next :: more) (List.cons_ne_nil _ _))
    rw [toList_compactMembers_cons, memberTrees]
    simpa only [List.append_assoc, List.cons_append] using hmore

end

mutual

/-- The syntax tree of a value has the value, if its numbers and its nesting fit. -/
theorem valueWithin?_toTree : ∀ (room : Nat) (v : Json), v.fitsWithin room = true →
    v.toTree.valueWithin? room = some v.reread
  | 0, null => fun _ => rfl
  | _ + 1, null => fun _ => rfl
  | 0, bool _ => fun _ => rfl
  | _ + 1, bool _ => fun _ => rfl
  | 0, string _ => fun _ => rfl
  | _ + 1, string _ => fun _ => rfl
  | room, number n => by
    intro hf
    have hread := number?_numeral hf
    cases room <;> rw [toTree, Tree.valueWithin?, hread, Option.map_some, reread]
  | 0, array _ => fun hf => by cases hf
  | 0, object _ => fun hf => by cases hf
  | room + 1, array items => by
    intro hf
    rw [toTree, Tree.valueWithin?, itemsWithin?_itemTrees room items hf, Option.map_some, reread]
  | room + 1, object members => by
    intro hf
    rw [toTree, Tree.valueWithin?, membersWithin?_memberTrees room members hf, Option.map_some,
      reread]

/-- The syntax trees of the items of an array have the items. -/
theorem itemsWithin?_itemTrees : ∀ (room : Nat) (items : List Json), itemsFit room items = true →
    itemsWithin? room (itemTrees items) = some (rereadItems items)
  | _, [] => fun _ => rfl
  | room, item :: rest => by
    intro hf
    rw [itemsFit, Bool.and_eq_true] at hf
    rw [itemTrees, itemsWithin?, valueWithin?_toTree room item hf.1,
      itemsWithin?_itemTrees room rest hf.2]
    rfl

/-- The syntax trees of the members of an object have the members. -/
theorem membersWithin?_memberTrees : ∀ (room : Nat) (members : List (String × Json)),
    membersFit room members = true →
      membersWithin? room (memberTrees members) = some (rereadMembers members)
  | _, [] => fun _ => rfl
  | room, (key, value) :: rest => by
    intro hf
    rw [membersFit, Bool.and_eq_true] at hf
    rw [memberTrees, membersWithin?, valueWithin?_toTree room value hf.1,
      membersWithin?_memberTrees room rest hf.2]
    rfl

end

mutual

/-- A value of which the syntax tree is read is nested no deeper than allowed, if its numbers fit. -/
theorem fitsWithin_of_valueWithin?_toTree : ∀ (room wider : Nat) (v w : Json),
    v.fitsWithin wider = true → v.toTree.valueWithin? room = some w → v.fitsWithin room = true
  | 0, _, null, _ => fun _ _ => rfl
  | _ + 1, _, null, _ => fun _ _ => rfl
  | 0, _, bool _, _ => fun _ _ => rfl
  | _ + 1, _, bool _, _ => fun _ _ => rfl
  | 0, _, string _, _ => fun _ _ => rfl
  | _ + 1, _, string _, _ => fun _ _ => rfl
  | room, wider, number n, _ => fun hf _ => by cases n <;> cases room <;> cases wider <;> exact hf
  | 0, _, array _, _ => fun _ h => by cases h
  | 0, _, object _, _ => fun _ h => by cases h
  | _ + 1, 0, array _, _ => fun hf _ => by cases hf
  | _ + 1, 0, object _, _ => fun hf _ => by cases hf
  | room + 1, wider + 1, array items, _ => by
    intro hf h
    rw [toTree, Tree.valueWithin?, Option.map_eq_some_iff] at h
    obtain ⟨values, hvalues, -⟩ := h
    exact itemsFit_of_itemsWithin?_itemTrees room wider items values hf hvalues
  | room + 1, wider + 1, object members, _ => by
    intro hf h
    rw [toTree, Tree.valueWithin?, Option.map_eq_some_iff] at h
    obtain ⟨values, hvalues, -⟩ := h
    exact membersFit_of_membersWithin?_memberTrees room wider members values hf hvalues

/-- Items of which the syntax trees are read are nested no deeper than allowed, if their numbers
fit. -/
theorem itemsFit_of_itemsWithin?_itemTrees : ∀ (room wider : Nat) (items values : List Json),
    itemsFit wider items = true → itemsWithin? room (itemTrees items) = some values →
      itemsFit room items = true
  | _, _, [], _ => fun _ _ => rfl
  | room, wider, item :: rest, _ => by
    intro hf h
    rw [itemsFit, Bool.and_eq_true] at hf
    rw [itemTrees, itemsWithin?] at h
    obtain ⟨value, hvalue, h⟩ := Option.bind_eq_some_iff.1 h
    obtain ⟨more, hmore, -⟩ := Option.bind_eq_some_iff.1 h
    rw [itemsFit, fitsWithin_of_valueWithin?_toTree room wider item value hf.1 hvalue,
      itemsFit_of_itemsWithin?_itemTrees room wider rest more hf.2 hmore]
    rfl

/-- Members of which the syntax trees are read are nested no deeper than allowed, if their numbers
fit. -/
theorem membersFit_of_membersWithin?_memberTrees : ∀ (room wider : Nat)
    (members values : List (String × Json)), membersFit wider members = true →
      membersWithin? room (memberTrees members) = some values → membersFit room members = true
  | _, _, [], _ => fun _ _ => rfl
  | room, wider, (key, value) :: rest, _ => by
    intro hf h
    rw [membersFit, Bool.and_eq_true] at hf
    rw [memberTrees, membersWithin?, Option.bind_eq_bind, Option.bind_some] at h
    obtain ⟨found, hfound, h⟩ := Option.bind_eq_some_iff.1 h
    obtain ⟨more, hmore, -⟩ := Option.bind_eq_some_iff.1 h
    rw [membersFit, fitsWithin_of_valueWithin?_toTree room wider value found hf.1 hfound,
      membersFit_of_membersWithin?_memberTrees room wider rest more hf.2 hmore]
    rfl

end

/-! ### What reading again changes -/

mutual

/-- A value without real numbers is read back as it is. -/
theorem reread_of_isWhole : ∀ v : Json, v.isWhole = true → v.reread = v
  | null => fun _ => rfl
  | bool _ => fun _ => rfl
  | number (.int _) => fun _ => rfl
  | number (.real _) => fun h => by cases h
  | string _ => fun _ => rfl
  | array items => fun h => by rw [reread, rereadItems_of_wholeItems items h]
  | object members => fun h => by rw [reread, rereadMembers_of_wholeMembers members h]

/-- Items without real numbers are read back as they are. -/
theorem rereadItems_of_wholeItems : ∀ items : List Json, wholeItems items = true →
    rereadItems items = items
  | [] => fun _ => rfl
  | item :: rest => fun h => by
    rw [rereadItems, reread_of_isWhole item (wholeItems_head h),
      rereadItems_of_wholeItems rest (wholeItems_tail h)]

/-- Members without real numbers are read back as they are. -/
theorem rereadMembers_of_wholeMembers : ∀ members : List (String × Json),
    wholeMembers members = true → rereadMembers members = members
  | [] => fun _ => rfl
  | (key, value) :: rest => fun h => by
    rw [rereadMembers, reread_of_isWhole value (wholeMembers_head h),
      rereadMembers_of_wholeMembers rest (wholeMembers_tail h)]

end

/-- Members are read back each by itself. -/
theorem rereadMembers_eq_map (members : List (String × Json)) :
    rereadMembers members = members.map fun m => (m.1, m.2.reread) := by
  induction members with
  | nil => rfl
  | cons m rest ih => rw [rereadMembers, ih, List.map_cons]

/-- A member is added before or after its object was read back. -/
theorem rereadMembers_insertMember (key : String) (value : Json) (members : List (String × Json)) :
    rereadMembers (insertMember key value members) =
      insertMember key value.reread (rereadMembers members) := by
  induction members with
  | nil => rfl
  | cons m rest ih =>
    rw [insertMember, rereadMembers, insertMember]
    split
    · rfl
    · split
      · rfl
      · rw [rereadMembers, ih]

/-- Members are sorted before or after they were read back. -/
theorem rereadMembers_sortMembers (members : List (String × Json)) :
    rereadMembers (sortMembers members) = sortMembers (rereadMembers members) := by
  have hrun : ∀ sorted : List (String × Json),
      rereadMembers (members.foldl (fun sorted m => insertMember m.1 m.2 sorted) sorted) =
        (rereadMembers members).foldl (fun sorted m => insertMember m.1 m.2 sorted)
          (rereadMembers sorted) := by
    induction members with
    | nil => exact fun _ => rfl
    | cons m rest ih =>
      intro sorted
      rw [List.foldl_cons, ih, rereadMembers_insertMember]
      rfl
  exact hrun []

mutual

/-- A value has a canonical form before or after it was read back. -/
theorem canonical_reread : ∀ v : Json, v.reread.canonical = v.canonical.reread
  | null => rfl
  | bool _ => rfl
  | number _ => rfl
  | string _ => rfl
  | array items => by
    rw [reread, canonical, canonical, reread, canonicalItems_rereadItems items]
  | object members => by
    rw [reread, canonical, canonical, reread, canonicalMembers_rereadMembers members,
      rereadMembers_sortMembers]

/-- Items have canonical forms before or after they were read back. -/
theorem canonicalItems_rereadItems : ∀ items : List Json,
    canonicalItems (rereadItems items) = rereadItems (canonicalItems items)
  | [] => rfl
  | item :: rest => by
    rw [rereadItems, canonicalItems, canonicalItems, rereadItems, canonical_reread item,
      canonicalItems_rereadItems rest]

/-- Members have canonical forms before or after they were read back. -/
theorem canonicalMembers_rereadMembers : ∀ members : List (String × Json),
    canonicalMembers (rereadMembers members) = rereadMembers (canonicalMembers members)
  | [] => rfl
  | (key, value) :: rest => by
    rw [rereadMembers, canonicalMembers, canonicalMembers, rereadMembers, canonical_reread value,
      canonicalMembers_rereadMembers rest]

end

/-- The compact layout of a value is a text of its syntax tree, however deep it is nested. -/
theorem ofText?_compact (v : Json) : Tree.ofText? v.compact = some v.toTree :=
  ofText?_eq_some_iff.2 (isValueText_compact v).spaced

/-- A canonical value that fits is read back from its compact layout. -/
theorem parse?_compact {v : Json} (hc : v.canonical = v) (hf : v.fitsWithin maxNesting = true) :
    parse? v.compact = some v.reread := by
  rw [parse?, ofText?_compact]
  simp only [Tree.value?, Option.bind_eq_bind, Option.bind_some, valueWithin?_toTree _ v hf,
    canonical_reread, hc]

/-- Where a value has numbers that fit, its compact layout is read exactly when the reader allows as
many nested containers. -/
theorem parse?_compact_isSome_iff {v : Json} {wider : Nat} (hc : v.canonical = v)
    (hf : v.fitsWithin wider = true) :
    (parse? v.compact).isSome = true ↔ v.fitsWithin maxNesting = true := by
  constructor
  · intro h
    obtain ⟨read, hread⟩ := Option.isSome_iff_exists.1 h
    rw [parse?, ofText?_compact, Option.bind_eq_bind, Option.bind_some] at hread
    obtain ⟨value, hvalue, -⟩ := Option.bind_eq_some_iff.1 hread
    exact fitsWithin_of_valueWithin?_toTree maxNesting wider v value hf hvalue
  · intro h
    rw [parse?_compact hc h]
    rfl

/-! ### How long a layout is -/

mutual

/-- How many bytes the compact layout of a value takes. -/
def layoutSize : Json → Nat
  | null => 4
  | bool true => 4
  | bool false => 5
  | number n => n.text.utf8ByteSize
  | string s => (quote s).utf8ByteSize
  | array items => itemsSize items + 2
  | object members => membersSize members + 2

/-- How many bytes the items of an array take, with the commas between them. -/
def itemsSize : List Json → Nat
  | [] => 0
  | [item] => item.layoutSize
  | item :: rest => item.layoutSize + 1 + itemsSize rest

/-- How many bytes the members of an object take, with the commas between them. -/
def membersSize : List (String × Json) → Nat
  | [] => 0
  | [(key, value)] => (quote key).utf8ByteSize + 1 + value.layoutSize
  | (key, value) :: rest => (quote key).utf8ByteSize + 1 + value.layoutSize + 1 + membersSize rest

end

mutual

/-- The compact layout of a value takes as many bytes as was counted. -/
theorem utf8ByteSize_compact : ∀ v : Json, v.compact.utf8ByteSize = v.layoutSize
  | null => rfl
  | bool true => rfl
  | bool false => rfl
  | number _ => rfl
  | string _ => rfl
  | array items => by
    have hopen : "[".utf8ByteSize = 1 := rfl
    have hclose : "]".utf8ByteSize = 1 := rfl
    rw [compact, layoutSize, String.utf8ByteSize_append, String.utf8ByteSize_append,
      utf8ByteSize_compactItems items, hopen, hclose]
    omega
  | object members => by
    have hopen : "\x7b".utf8ByteSize = 1 := rfl
    have hclose : "\x7d".utf8ByteSize = 1 := rfl
    rw [compact, layoutSize, String.utf8ByteSize_append, String.utf8ByteSize_append,
      utf8ByteSize_compactMembers members, hopen, hclose]
    omega

/-- The items of an array take as many bytes as was counted. -/
theorem utf8ByteSize_compactItems : ∀ items : List Json,
    (compactItems items).utf8ByteSize = itemsSize items
  | [] => rfl
  | [item] => utf8ByteSize_compact item
  | item :: next :: more => by
    have hcomma : ",".utf8ByteSize = 1 := rfl
    rw [compactItems, itemsSize, String.utf8ByteSize_append, String.utf8ByteSize_append,
      utf8ByteSize_compact item, utf8ByteSize_compactItems (next :: more), hcomma]
    all_goals simp

/-- The members of an object take as many bytes as was counted. -/
theorem utf8ByteSize_compactMembers : ∀ members : List (String × Json),
    (compactMembers members).utf8ByteSize = membersSize members
  | [] => rfl
  | [(key, value)] => by
    have hcolon : ":".utf8ByteSize = 1 := rfl
    rw [compactMembers, membersSize, String.utf8ByteSize_append, String.utf8ByteSize_append,
      utf8ByteSize_compact value, hcolon]
  | (key, value) :: next :: more => by
    have hcolon : ":".utf8ByteSize = 1 := rfl
    have hcomma : ",".utf8ByteSize = 1 := rfl
    rw [compactMembers, membersSize, String.utf8ByteSize_append, String.utf8ByteSize_append,
      String.utf8ByteSize_append, String.utf8ByteSize_append, utf8ByteSize_compact value,
      utf8ByteSize_compactMembers (next :: more), hcolon, hcomma]
    all_goals simp

end

end InteractiveBook.Json
