import InteractiveBook.Proofs.Json.RoundTrip
import InteractiveBook.Text.Trim

/-!
# Occurrences in a printed value

A text without quotation marks and without the signs between the parts of a value can only occur
inside a key or a text of the value. Two values that differ in texts in which it does not occur are
therefore alike: it occurs in the layout of both or of neither.
-/

namespace InteractiveBook.Text

/-- What occurs on both sides of a sign that it does not have occurs on one of them. -/
theorem infix_append_cons_iff {part left right : List Char} {c : Char} (hc : c ∉ part) :
    part <:+: left ++ c :: right ↔ part <:+: left ∨ part <:+: right := by
  constructor
  · rintro ⟨s, t, h⟩
    rcases List.append_eq_append_iff.1 h with ⟨l, hleft, -⟩ | ⟨l, hsplit, hright⟩
    · exact .inl ⟨s, l, hleft.symm⟩
    · cases l with
      | nil => exact .inl ⟨s, [], by simpa using hsplit⟩
      | cons d l =>
        obtain ⟨rfl, hright⟩ := List.cons.inj hright
        -- The sign stands before the part, for it cannot stand inside.
        rcases List.append_eq_append_iff.1 hsplit with ⟨m, -, hpart⟩ | ⟨m, -, hrest⟩
        · exact (hc (by rw [hpart]; simp)).elim
        · cases m with
          | nil => exact (hc (by rw [← List.nil_append part, ← hrest]; simp)).elim
          | cons e m =>
            obtain ⟨-, hl⟩ := List.cons.inj hrest
            exact .inr ⟨m, t, by rw [← List.append_cancel_left_eq [c]]; simp [hright, hl]⟩
  · rintro (⟨s, t, rfl⟩ | ⟨s, t, rfl⟩)
    · exact ⟨s, t ++ c :: right, by simp⟩
    · exact ⟨left ++ c :: s, t, by simp⟩

end InteractiveBook.Text

namespace InteractiveBook.Json

variable {part : List Char}

/-- A list of characters has neither quotation marks nor signs between the parts of a value. -/
def IsPlain (part : List Char) : Prop :=
  ∀ c ∈ ['"', ',', ':', '[', ']', '\x7b', '\x7d'], c ∉ part

/-- A text in whose printed form a list of characters does not occur. -/
def Lacks (part : List Char) (s : String) : Prop := ¬part <:+: s.toList.flatMap escapeChar

mutual

/-- Values that differ at most in texts in which a list of characters does not occur. -/
inductive Alike (part : List Char) : Json → Json → Prop
  /-- The null value. -/
  | null : Alike part null null
  /-- Equal truth values. -/
  | bool (b : Bool) : Alike part (bool b) (bool b)
  /-- Equal numbers. -/
  | number (n : Number) : Alike part (number n) (number n)
  /-- Equal texts. -/
  | string (s : String) : Alike part (string s) (string s)
  /-- Texts in which the characters do not occur. -/
  | lacking {s t : String} (hs : Lacks part s) (ht : Lacks part t) :
    Alike part (string s) (string t)
  /-- Arrays of alike items. -/
  | array {items others : List Json} (h : AlikeItems part items others) :
    Alike part (array items) (array others)
  /-- Objects of alike members. -/
  | object {members others : List (String × Json)} (h : AlikeMembers part members others) :
    Alike part (object members) (object others)

/-- Items that are alike one by one. -/
inductive AlikeItems (part : List Char) : List Json → List Json → Prop
  /-- No items. -/
  | nil : AlikeItems part [] []
  /-- Two alike items in front of further ones. -/
  | cons {v w : Json} {items others : List Json} (hv : Alike part v w)
    (h : AlikeItems part items others) : AlikeItems part (v :: items) (w :: others)

/-- Members with the same keys whose values are alike one by one. -/
inductive AlikeMembers (part : List Char) : List (String × Json) → List (String × Json) → Prop
  /-- No members. -/
  | nil : AlikeMembers part [] []
  /-- Two alike values of one key in front of further members. -/
  | cons {key : String} {v w : Json} {members others : List (String × Json)} (hv : Alike part v w)
    (h : AlikeMembers part members others) :
    AlikeMembers part ((key, v) :: members) ((key, w) :: others)

end

mutual

/-- A value is like itself. -/
theorem Alike.refl : ∀ v : Json, Alike part v v
  | null => .null
  | bool b => .bool b
  | number n => .number n
  | string s => .string s
  | array items => .array (AlikeItems.refl items)
  | object members => .object (AlikeMembers.refl members)

/-- Items are like themselves. -/
theorem AlikeItems.refl : ∀ items : List Json, AlikeItems part items items
  | [] => .nil
  | item :: rest => .cons (Alike.refl item) (AlikeItems.refl rest)

/-- Members are like themselves. -/
theorem AlikeMembers.refl : ∀ members : List (String × Json), AlikeMembers part members members
  | [] => .nil
  | (_, value) :: rest => .cons (Alike.refl value) (AlikeMembers.refl rest)

end

/-! ### Likeness and the canonical form -/

/-- Inserting alike values under one key keeps members alike. -/
theorem AlikeMembers.insertMember {members others : List (String × Json)}
    (h : AlikeMembers part members others) (key : String) {v w : Json} (hv : Alike part v w) :
    AlikeMembers part (insertMember key v members) (insertMember key w others) := by
  induction members generalizing others with
  | nil =>
    cases h
    exact .cons hv .nil
  | cons m rest ih =>
    cases h with
    | cons hx hrest =>
      rw [Json.insertMember, Json.insertMember]
      split
      · exact .cons hv hrest
      · split
        · exact .cons hv (.cons hx hrest)
        · exact .cons hx (ih hrest)

/-- Sorting keeps members alike. -/
theorem AlikeMembers.sortMembers {members others : List (String × Json)}
    (h : AlikeMembers part members others) :
    AlikeMembers part (sortMembers members) (sortMembers others) := by
  have hfold : ∀ (others sorted sorted' : List (String × Json)),
      AlikeMembers part members others → AlikeMembers part sorted sorted' →
        AlikeMembers part (members.foldl (fun sorted m => Json.insertMember m.1 m.2 sorted) sorted)
          (others.foldl (fun sorted m => Json.insertMember m.1 m.2 sorted) sorted') := by
    clear h
    induction members with
    | nil =>
      intro others sorted sorted' h hs
      cases h
      exact hs
    | cons m rest ih =>
      intro others sorted sorted' h hs
      cases h with
      | @cons key v w rest others hx hrest => exact ih others _ _ hrest (hs.insertMember key hx)
  exact hfold others [] [] h .nil

mutual

/-- The canonical forms of alike values are alike. -/
theorem Alike.canonical : ∀ {v w : Json}, Alike part v w → Alike part v.canonical w.canonical
  | _, _, .null => .null
  | _, _, .bool b => .bool b
  | _, _, .number n => .number n
  | _, _, .string s => .string s
  | _, _, .lacking hs ht => .lacking hs ht
  | _, _, .array h => .array h.canonicalItems
  | _, _, .object h => .object h.canonicalMembers.sortMembers

/-- The canonical forms of alike items are alike. -/
theorem AlikeItems.canonicalItems : ∀ {items others : List Json}, AlikeItems part items others →
    AlikeItems part (canonicalItems items) (canonicalItems others)
  | _, _, .nil => .nil
  | _, _, .cons hv h => .cons hv.canonical h.canonicalItems

/-- The canonical forms of alike members are alike. -/
theorem AlikeMembers.canonicalMembers : ∀ {members others : List (String × Json)},
    AlikeMembers part members others →
      AlikeMembers part (canonicalMembers members) (canonicalMembers others)
  | _, _, .nil => .nil
  | _, _, .cons hv h => .cons hv.canonical h.canonicalMembers

end

/-! ### Likeness and the layout -/

/-- Where a sign parts two texts, occurrence is decided by the two sides. -/
theorem infix_congr {c : Char} (hc : c ∉ part) {left right left' right' : List Char}
    (hl : part <:+: left ↔ part <:+: left') (hr : part <:+: right ↔ part <:+: right') :
    part <:+: left ++ c :: right ↔ part <:+: left' ++ c :: right' := by
  rw [Text.infix_append_cons_iff hc, Text.infix_append_cons_iff hc, hl, hr]

/-- Behind a sign, occurrence is decided by what follows. -/
theorem infix_cons_congr {c : Char} (hc : c ∉ part) {right right' : List Char}
    (hr : part <:+: right ↔ part <:+: right') :
    part <:+: c :: right ↔ part <:+: c :: right' := by
  have hnil : part <:+: ([] : List Char) ↔ part <:+: ([] : List Char) := Iff.rfl
  exact infix_congr hc hnil hr

/-- In the layout of a text, occurrence is decided by the escaped characters. -/
theorem infix_quote_iff (hp : IsPlain part) (s : String) :
    part <:+: (quote s).toList ↔ part <:+: s.toList.flatMap escapeChar := by
  have hmark : '"' ∉ part := hp '"' (by simp)
  rw [toList_quote, ← List.nil_append ('"' :: _), Text.infix_append_cons_iff hmark,
    Text.infix_append_cons_iff hmark, List.infix_nil]
  constructor
  · rintro (rfl | h | rfl)
    · exact List.nil_infix
    · exact h
    · exact List.nil_infix
  · exact fun h => .inr (.inl h)

mutual

/-- A plain text occurs in the layouts of two alike values or in none of them. -/
theorem Alike.infix_compact_iff (hp : IsPlain part) : ∀ {v w : Json}, Alike part v w →
    (part <:+: v.compact.toList ↔ part <:+: w.compact.toList)
  | _, _, .null => Iff.rfl
  | _, _, .bool _ => Iff.rfl
  | _, _, .number _ => Iff.rfl
  | _, _, .string _ => Iff.rfl
  | _, _, .lacking hs ht => by
    rw [compact, compact, infix_quote_iff hp, infix_quote_iff hp]
    exact ⟨fun h => (hs h).elim, fun h => (ht h).elim⟩
  | _, _, .array h => by
    rw [toList_compact_array, toList_compact_array]
    exact infix_cons_congr (hp '[' (by simp))
      (infix_congr (hp ']' (by simp)) (h.infix_compactItems_iff hp) Iff.rfl)
  | _, _, .object h => by
    rw [toList_compact_object, toList_compact_object]
    exact infix_cons_congr (hp '\x7b' (by simp))
      (infix_congr (hp '\x7d' (by simp)) (h.infix_compactMembers_iff hp) Iff.rfl)

/-- A plain text occurs in the layouts of two lists of alike items or in none of them. -/
theorem AlikeItems.infix_compactItems_iff (hp : IsPlain part) : ∀ {items others : List Json},
    AlikeItems part items others →
      (part <:+: (compactItems items).toList ↔ part <:+: (compactItems others).toList)
  | _, _, .nil => Iff.rfl
  | _, _, .cons hv .nil => by
    rw [compactItems, compactItems]
    exact hv.infix_compact_iff hp
  | _, _, .cons hv (.cons hw h) => by
    rw [toList_compactItems_cons, toList_compactItems_cons]
    exact infix_congr (hp ',' (by simp)) (hv.infix_compact_iff hp)
      ((AlikeItems.cons hw h).infix_compactItems_iff hp)

/-- A plain text occurs in the layouts of two lists of alike members or in none of them. -/
theorem AlikeMembers.infix_compactMembers_iff (hp : IsPlain part) :
    ∀ {members others : List (String × Json)}, AlikeMembers part members others →
      (part <:+: (compactMembers members).toList ↔ part <:+: (compactMembers others).toList)
  | _, _, .nil => Iff.rfl
  | _, _, .cons hv .nil => by
    rw [toList_compactMembers_one, toList_compactMembers_one]
    exact infix_cons_congr (hp '"' (by simp)) (infix_congr (hp '"' (by simp)) Iff.rfl
      (infix_cons_congr (hp ':' (by simp)) (hv.infix_compact_iff hp)))
  | _, _, .cons hv (.cons hw h) => by
    rw [toList_compactMembers_cons, toList_compactMembers_cons]
    exact infix_cons_congr (hp '"' (by simp)) (infix_congr (hp '"' (by simp)) Iff.rfl
      (infix_cons_congr (hp ':' (by simp)) (infix_congr (hp ',' (by simp))
        (hv.infix_compact_iff hp) ((AlikeMembers.cons hw h).infix_compactMembers_iff hp))))

end

end InteractiveBook.Json
