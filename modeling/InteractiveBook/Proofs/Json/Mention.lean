import InteractiveBook.Proofs.Json.Occurrence

/-!
# What a printed value mentions

The keys and the texts of a value are listed. A path that needs no escape, that begins with a
character of no escape and that is no part of a number is found in the layout of a value exactly
when it is found in one of them. Reading the value back and sorting its members keep what it
mentions.
-/

namespace InteractiveBook.Json

/-! ### The texts of a value -/

mutual

/-- The keys and the texts of a value, in order. -/
def texts : Json → List String
  | null => []
  | bool _ => []
  | number _ => []
  | string s => [s]
  | array items => itemTexts items
  | object members => memberTexts members

/-- The keys and the texts of the items of an array. -/
def itemTexts : List Json → List String
  | [] => []
  | item :: rest => item.texts ++ itemTexts rest

/-- The keys of members, each with the texts of its value. -/
def memberTexts : List (String × Json) → List String
  | [] => []
  | (key, value) :: rest => key :: (value.texts ++ memberTexts rest)

end

/-- A text of the items of an array is one of an item. -/
theorem mem_itemTexts {s : String} {items : List Json} :
    s ∈ itemTexts items ↔ ∃ item ∈ items, s ∈ item.texts := by
  induction items with
  | nil => simp [itemTexts]
  | cons item rest ih => simp [itemTexts, ih]

/-- A text of members is a key or a text of a value. -/
theorem mem_memberTexts {s : String} {members : List (String × Json)} :
    s ∈ memberTexts members ↔ ∃ m ∈ members, s = m.1 ∨ s ∈ m.2.texts := by
  induction members with
  | nil => simp [memberTexts]
  | cons m rest ih => simp [memberTexts, ih, or_assoc]

mutual

/-- A value that was written and is read back has the same texts. -/
theorem texts_reread : ∀ v : Json, v.reread.texts = v.texts
  | null => rfl
  | bool _ => rfl
  | number _ => rfl
  | string _ => rfl
  | array items => by rw [reread, texts, texts, itemTexts_rereadItems items]
  | object members => by rw [reread, texts, texts, memberTexts_rereadMembers members]

/-- The items of an array that was written and is read back have the same texts. -/
theorem itemTexts_rereadItems : ∀ items : List Json,
    itemTexts (rereadItems items) = itemTexts items
  | [] => rfl
  | item :: rest => by
    rw [rereadItems, itemTexts, itemTexts, texts_reread item, itemTexts_rereadItems rest]

/-- The members of an object that was written and is read back have the same texts. -/
theorem memberTexts_rereadMembers : ∀ members : List (String × Json),
    memberTexts (rereadMembers members) = memberTexts members
  | [] => rfl
  | (key, value) :: rest => by
    rw [rereadMembers, memberTexts, memberTexts, texts_reread value,
      memberTexts_rereadMembers rest]

end

/-- An array in canonical form has the texts of each of its items in canonical form. -/
theorem texts_subset_canonical_array {item : Json} {items : List Json} (h : item ∈ items) :
    item.canonical.texts ⊆ (array items).canonical.texts := by
  intro s hs
  rw [canonical, texts, canonicalItems_eq_map, mem_itemTexts]
  exact ⟨_, List.mem_map_of_mem h, hs⟩

/-- An object in canonical form has the texts of each of its values in canonical form, provided that
no key comes twice. -/
theorem texts_subset_canonical_object (key : String) {value : Json}
    {members : List (String × Json)} (hkeys : (members.map Prod.fst).Nodup)
    (h : (key, value) ∈ members) : value.canonical.texts ⊆ (object members).canonical.texts := by
  have hdistinct : ((canonicalMembers members).map Prod.fst).Nodup := by
    rw [canonicalMembers_eq_map, List.map_map]
    exact hkeys
  have hmember : (key, value.canonical) ∈ canonicalMembers members := by
    rw [canonicalMembers_eq_map]
    exact List.mem_map_of_mem h
  intro s hs
  rw [canonical, texts, mem_memberTexts]
  exact ⟨_, (mem_sortMembers_iff hdistinct).2 hmember, .inr hs⟩

/-! ### Escapes -/

/-- The characters that stand behind the backslash of an escape. -/
def escapeCodes : List Char := "\"\\nrtbfu0123456789abcdef".toList

/-- A character is written as it is, or behind a backslash with the characters of an escape. -/
theorem escapeChar_eq (c : Char) : escapeChar c = [c] ∨
    ∃ code, escapeChar c = '\\' :: code ∧ code ⊆ escapeCodes := by
  have hcontrol : ((List.range 32).all fun n => (Text.paddedDigits 16 4 n).toList.all
      fun d => decide (d ∈ escapeCodes)) = true := by decide +kernel
  rw [escapeChar]
  iterate 7
    split
    · exact .inr ⟨_, rfl, by decide⟩
  split
  · rename_i hlow
    refine .inr ⟨_, rfl, List.cons_subset.2 ⟨by decide, fun d hd => ?_⟩⟩
    have hcode := List.all_eq_true.1 hcontrol c.toNat (List.mem_range.2 hlow)
    exact of_decide_eq_true (List.all_eq_true.1 hcode d hd)
  · exact .inl rfl

/-- A path that an escape can neither hide nor make up: it is plain, its characters are written as
they are, the first one stands in no escape, and it has a slash, which no number has. -/
structure IsFindable (part : List Char) : Prop where
  /-- It has no sign that stands between the parts of a value. -/
  plain : IsPlain part
  /-- Its characters are written as they are. -/
  unescaped : ∀ c ∈ part, escapeChar c = [c]
  /-- Its first character stands in no escape. -/
  apart : ∀ c ∈ part.head?, c ∉ escapeCodes
  /-- It has a slash. -/
  slash : '/' ∈ part

/-- Characters that are written as they are begin what is written of a text exactly when they begin
the text. -/
theorem prefix_flatMap_escapeChar_iff {part : List Char} (h : ∀ c ∈ part, escapeChar c = [c])
    (cs : List Char) : part <+: cs.flatMap escapeChar ↔ part <+: cs := by
  induction cs generalizing part with
  | nil => rfl
  | cons d cs ih =>
    cases part with
    | nil => simp
    | cons c part =>
      obtain ⟨hc, hpart⟩ := List.forall_mem_cons.1 h
      rw [List.flatMap_cons, List.cons_prefix_cons]
      rcases escapeChar_eq d with hd | ⟨code, hd, -⟩
      · rw [hd, List.singleton_append, List.cons_prefix_cons, ih hpart]
      · -- A backslash would be the character, but a backslash is escaped itself.
        have hslash : c ≠ '\\' := by
          rintro rfl
          exact absurd hc (by decide)
        have hne : c ≠ d := by
          rintro rfl
          rw [hc] at hd
          exact hslash (List.cons.inj hd).1
        rw [hd, List.cons_append, List.cons_prefix_cons]
        simp [hslash, hne]

/-- What begins with a character that does not stand in front of a list is found behind it. -/
theorem infix_append_iff_of_head {part front rest : List Char}
    (h : ∀ c ∈ part.head?, c ∉ front) (hne : part ≠ []) :
    part <:+: front ++ rest ↔ part <:+: rest := by
  induction front with
  | nil => rfl
  | cons d front ih =>
    have hfront : ∀ c ∈ part.head?, c ∉ front :=
      fun c hc hmem => h c hc (List.mem_cons_of_mem d hmem)
    rw [List.cons_append, List.infix_cons_iff, ih hfront]
    refine or_iff_right fun hprefix => ?_
    cases part with
    | nil => exact hne rfl
    | cons c part => exact h c rfl ((List.cons_prefix_cons.1 hprefix).1 ▸ List.mem_cons_self)

namespace IsFindable

variable {part : List Char} (h : IsFindable part)
include h

/-- A path is not found where there is no slash. -/
theorem not_infix {cs : List Char} (hcs : '/' ∉ cs) : ¬part <:+: cs :=
  fun hpart => hcs (hpart.subset h.slash)

/-- A path is found behind a sign that it does not have exactly when it is found in what follows. -/
theorem infix_cons_iff {c : Char} (hc : c ∉ part) (cs : List Char) :
    part <:+: c :: cs ↔ part <:+: cs := by
  rw [← List.nil_append (c :: cs), Text.infix_append_cons_iff hc]
  exact or_iff_right (h.not_infix List.not_mem_nil)

/-- A path is found in front of a sign that it does not have exactly when it is found in what
precedes. -/
theorem infix_concat_iff {c : Char} (hc : c ∉ part) (cs : List Char) :
    part <:+: cs ++ [c] ↔ part <:+: cs := by
  rw [Text.infix_append_cons_iff hc]
  exact or_iff_left (h.not_infix List.not_mem_nil)

/-- Escaping a text neither hides a path nor makes one up. -/
theorem infix_flatMap_escapeChar_iff (cs : List Char) :
    part <:+: cs.flatMap escapeChar ↔ part <:+: cs := by
  have hne : part ≠ [] := List.ne_nil_of_mem h.slash
  induction cs with
  | nil => rfl
  | cons d cs ih =>
    have hprefix := prefix_flatMap_escapeChar_iff h.unescaped (d :: cs)
    rw [List.infix_cons_iff, ← hprefix, List.flatMap_cons]
    rcases escapeChar_eq d with hd | ⟨code, hd, hcode⟩
    · rw [hd, List.singleton_append, List.infix_cons_iff]
      exact or_congr_right ih
    · -- Where an escape is written, a path can begin only in front of it or behind it.
      have hfront : ∀ c ∈ part.head?, c ∉ code := fun c hc hmem => h.apart c hc (hcode hmem)
      rw [hd, List.cons_append, List.infix_cons_iff, infix_append_iff_of_head hfront hne]
      exact or_congr_right ih

/-- A path is found in a member exactly when it is found in the key or in what follows the
colon. -/
theorem infix_member_iff (key : String) (cs : List Char) :
    part <:+: '"' :: (key.toList.flatMap escapeChar ++ '"' :: ':' :: cs) ↔
      part <:+: key.toList ∨ part <:+: cs := by
  have hmark : '"' ∉ part := h.plain '"' (by simp)
  rw [h.infix_cons_iff hmark, Text.infix_append_cons_iff hmark,
    h.infix_cons_iff (h.plain ':' (by simp)), h.infix_flatMap_escapeChar_iff]

end IsFindable

/-! ### Layouts -/

mutual

/-- A path is found in the layout of a value exactly when it is found in one of its keys or
texts. -/
theorem IsFindable.infix_compact_iff {part : List Char} (h : IsFindable part) : ∀ v : Json,
    part <:+: v.compact.toList ↔ ∃ s ∈ v.texts, part <:+: s.toList
  | null => iff_of_false (h.not_infix (by decide)) (by simp [texts])
  | bool true => iff_of_false (h.not_infix (by decide)) (by simp [texts])
  | bool false => iff_of_false (h.not_infix (by decide)) (by simp [texts])
  | number n => by
    have hslash : '/' ∉ n.text.toList := by
      rw [n.toList_text]
      exact fun hmem => absurd (n.isProper_numeral.mem_chars hmem) (by decide)
    exact iff_of_false (h.not_infix hslash) (by simp [texts])
  | string s => by
    rw [compact, texts, infix_quote_iff h.plain, h.infix_flatMap_escapeChar_iff]
    simp
  | array items => by
    rw [toList_compact_array, texts, h.infix_cons_iff (h.plain '[' (by simp)),
      h.infix_concat_iff (h.plain ']' (by simp)), h.infix_compactItems_iff items]
  | object members => by
    rw [toList_compact_object, texts, h.infix_cons_iff (h.plain '\x7b' (by simp)),
      h.infix_concat_iff (h.plain '\x7d' (by simp)), h.infix_compactMembers_iff members]

/-- A path is found in the layout of the items of an array exactly when it is found in one of their
keys or texts. -/
theorem IsFindable.infix_compactItems_iff {part : List Char} (h : IsFindable part) :
    ∀ items : List Json,
      part <:+: (compactItems items).toList ↔ ∃ s ∈ itemTexts items, part <:+: s.toList
  | [] => iff_of_false (h.not_infix (by decide)) (by simp [itemTexts])
  | [item] => by
    rw [compactItems, itemTexts, itemTexts, List.append_nil]
    exact h.infix_compact_iff item
  | item :: next :: more => by
    rw [itemTexts, toList_compactItems_cons, Text.infix_append_cons_iff (h.plain ',' (by simp)),
      h.infix_compact_iff item, h.infix_compactItems_iff (next :: more)]
    simp only [List.mem_append, or_and_right, exists_or]

/-- A path is found in the layout of the members of an object exactly when it is found in one of
their keys or texts. -/
theorem IsFindable.infix_compactMembers_iff {part : List Char} (h : IsFindable part) :
    ∀ members : List (String × Json),
      part <:+: (compactMembers members).toList ↔ ∃ s ∈ memberTexts members, part <:+: s.toList
  | [] => iff_of_false (h.not_infix (by decide)) (by simp [memberTexts])
  | [(key, value)] => by
    rw [toList_compactMembers_one, h.infix_member_iff, h.infix_compact_iff value, memberTexts,
      memberTexts, List.append_nil, List.exists_mem_cons_iff]
  | (key, value) :: next :: more => by
    rw [memberTexts, toList_compactMembers_cons, h.infix_member_iff,
      Text.infix_append_cons_iff (h.plain ',' (by simp)), h.infix_compact_iff value,
      h.infix_compactMembers_iff (next :: more), List.exists_mem_cons_iff]
    simp only [List.mem_append, or_and_right, exists_or]

end

end InteractiveBook.Json
