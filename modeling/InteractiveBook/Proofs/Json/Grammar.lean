import InteractiveBook.Proofs.Json.Numeral

/-!
# The grammar of JSON texts

How a value of each kind is written is said by itself: the literals, the numbers, and the containers
with white space around their parts; the characters of a text are those that are read up to its
closing mark. The reader finds a syntax tree in a text exactly when the text is a value of that tree
with white space around it.
-/

namespace InteractiveBook.Json

/-! ### White space -/

/-- White space that may stand around a value. -/
def IsGap (gap : List Char) : Prop := ∀ c ∈ gap, isSpace c = true

/-- There may be no white space. -/
theorem isGap_nil : IsGap [] := nofun

/-- What is skipped is white space. -/
theorem exists_gap (cs : List Char) : ∃ gap, IsGap gap ∧ cs = gap ++ skipSpace cs :=
  ⟨cs.takeWhile isSpace, fun _ hc => List.mem_takeWhile_imp hc,
    List.takeWhile_append_dropWhile.symm⟩

/-- White space is skipped. -/
theorem IsGap.skipSpace_append {gap : List Char} (h : IsGap gap) (cs : List Char) :
    skipSpace (gap ++ cs) = skipSpace cs :=
  List.dropWhile_append_of_pos h

/-- Nothing is skipped where there is no white space. -/
theorem skipSpace_cons {c : Char} (h : isSpace c = false) (cs : List Char) :
    skipSpace (c :: cs) = c :: cs :=
  List.dropWhile_cons_of_neg (by rw [h]; decide)

/-- White space is skipped once. -/
theorem skipSpace_skipSpace (cs : List Char) : skipSpace (skipSpace cs) = skipSpace cs := by
  obtain ⟨gap, hgap, hcs⟩ := exists_gap cs
  exact (hgap.skipSpace_append _).symm.trans (congrArg skipSpace hcs.symm)

/-- A list with which no value goes on: it is at its end, or goes on with white space, a comma or a
closing mark. -/
def Follows (rest : List Char) : Prop :=
  ∀ c ∈ rest.head?, isSpace c = true ∨ c = ',' ∨ c = ']' ∨ c = '\x7d'

/-- Nothing may stand behind a value. -/
theorem follows_nil : Follows [] := nofun

/-- A comma or a closing mark may stand behind a value. -/
theorem follows_cons {c : Char} (h : c = ',' ∨ c = ']' ∨ c = '\x7d') (cs : List Char) :
    Follows (c :: cs) := by
  intro d hd
  obtain rfl := Option.some.inj hd
  exact .inr h

/-- White space may stand behind a value. -/
theorem IsGap.follows_append {gap rest : List Char} (h : IsGap gap) (hr : Follows rest) :
    Follows (gap ++ rest) := by
  cases gap with
  | nil => exact hr
  | cons c gap =>
    intro d hd
    obtain rfl := Option.some.inj hd
    exact .inl (h c List.mem_cons_self)

/-- A character is white space when it is one of four. -/
theorem isSpace_iff {c : Char} : isSpace c = true ↔ c = ' ' ∨ c = '\t' ∨ c = '\n' ∨ c = '\r' := by
  simp only [isSpace, Bool.or_eq_true, beq_iff_eq, or_assoc]

/-- No number goes on behind a value. -/
theorem Follows.stopsNumber {rest : List Char} (h : Follows rest) : StopsNumber rest := by
  intro c hc
  have hcases := h c hc
  rw [isSpace_iff] at hcases
  rcases hcases with (rfl | rfl | rfl | rfl) | rfl | rfl | rfl <;> decide

/-! ### Texts -/

/-- How a text is read from certain characters up to its closing mark, whatever stands behind
them. -/
def ReadsBody (soFar : TextSoFar) (high? : Option Nat) (text? : Option String)
    (cs : List Char) : Prop :=
  ∀ rest, textBody soFar high? (cs ++ rest) = some (text?, rest)

/-- Signs that the reader of a text steps over stand in front of what it reads then. -/
theorem exists_readsBody_append {soFar soFar' : TextSoFar} {high? high'? : Option Nat}
    {text? : Option String} {more rest : List Char} (signs : List Char)
    (hsigns : ∀ cs, textBody soFar high? (signs ++ cs) = textBody soFar' high'? cs)
    (h : ∃ front, more = front ++ rest ∧ ReadsBody soFar' high'? text? front) :
    ∃ front, signs ++ more = front ++ rest ∧ ReadsBody soFar high? text? front := by
  obtain ⟨front, rfl, hfront⟩ := h
  refine ⟨signs ++ front, (List.append_assoc ..).symm, fun behind => ?_⟩
  rw [List.append_assoc, hsigns, hfront]

/-- A text is read from the characters in front of what is left. -/
theorem readsBody_of_textBody {soFar : TextSoFar} {high? : Option Nat} {cs rest : List Char}
    {text? : Option String} (h : textBody soFar high? cs = some (text?, rest)) :
    ∃ front, cs = front ++ rest ∧ ReadsBody soFar high? text? front := by
  fun_induction textBody soFar high? cs with
  | case1 => cases h
  | case2 soFar high? cs =>
    obtain ⟨rfl, rfl⟩ := Prod.mk.inj (Option.some.inj h)
    exact ⟨['"'], rfl, fun rest => by simp only [List.singleton_append, textBody]; rfl⟩
  | case3 => cases h
  | case4 soFar a b c d more n hn high hlow ih =>
    exact exists_readsBody_append ['\\', 'u', a, b, c, d]
      (fun cs => by simp [textBody, hn, hlow]) (ih h)
  | case5 soFar a b c d more n hn high hlow ih =>
    exact exists_readsBody_append ['\\', 'u', a, b, c, d]
      (fun cs => by simp [textBody, hn, hlow]) (ih h)
  | case6 soFar a b c d more n hn hhigh ih =>
    exact exists_readsBody_append ['\\', 'u', a, b, c, d]
      (fun cs => by simp [textBody, hn, hhigh]) (ih h)
  | case7 soFar a b c d more n hn hhigh hlow ih =>
    exact exists_readsBody_append ['\\', 'u', a, b, c, d]
      (fun cs => by simp [textBody, hn, hhigh, hlow]) (ih h)
  | case8 soFar a b c d more n hn hhigh hlow ih =>
    exact exists_readsBody_append ['\\', 'u', a, b, c, d]
      (fun cs => by simp [textBody, hn, hhigh, hlow]) (ih h)
  | case9 => cases h
  | case10 soFar high? e more hunit c hc ih =>
    have he : e ≠ 'u' := by
      rintro rfl
      cases hc
    refine exists_readsBody_append ['\\', e] (fun cs => ?_) (ih h)
    rw [List.cons_append, List.singleton_append, textBody]
    · rw [hc]
    · exact fun _ _ _ _ _ heq => absurd heq he
  | case11 => cases h
  | case12 soFar high? c more hmark hunit hescape hplain ih =>
    refine exists_readsBody_append [c] (fun cs => ?_) (ih h)
    have hslash : c ≠ '\\' := fun heq => hplain (.inr heq)
    rw [List.singleton_append, textBody]
    · rw [if_neg hplain]
    · exact hmark
    · exact fun _ _ _ _ _ heq => absurd heq hslash
    · exact fun _ _ heq => absurd heq hslash

/-! ### Values -/

mutual

/-- How a value is written. -/
inductive IsValueText : Tree → List Char → Prop
  /-- The null literal. -/
  | null : IsValueText .null ['n', 'u', 'l', 'l']
  /-- The literal of truth. -/
  | yes : IsValueText (.bool true) ['t', 'r', 'u', 'e']
  /-- The literal of falsehood. -/
  | no : IsValueText (.bool false) ['f', 'a', 'l', 's', 'e']
  /-- A number. -/
  | number {n : Numeral} {exponent : List Char} (h : IsNumeralText n exponent) :
    IsValueText (.number n) (n.charsWith exponent)
  /-- A text. -/
  | string {text? : Option String} {body : List Char} (h : ReadsBody (some []) none text? body) :
    IsValueText (.string text?) ('"' :: body)
  /-- An array without items. -/
  | noItems {gap : List Char} (h : IsGap gap) : IsValueText (.array []) ('[' :: (gap ++ [']']))
  /-- An array with items. -/
  | items {items : List Tree} {cs : List Char} (h : IsItemsText items cs) :
    IsValueText (.array items) ('[' :: (cs ++ [']']))
  /-- An object without members. -/
  | noMembers {gap : List Char} (h : IsGap gap) :
    IsValueText (.object []) ('\x7b' :: (gap ++ ['\x7d']))
  /-- An object with members. -/
  | members {members : List (Option String × Tree)} {cs : List Char}
    (h : IsMembersText members cs) : IsValueText (.object members) ('\x7b' :: (cs ++ ['\x7d']))

/-- How a value is written with white space around it. -/
inductive IsSpacedText : Tree → List Char → Prop
  /-- There is white space on both sides, or none. -/
  | spaced {t : Tree} {front cs back : List Char} (hfront : IsGap front) (h : IsValueText t cs)
    (hback : IsGap back) : IsSpacedText t (front ++ (cs ++ back))

/-- How the items of an array are written. -/
inductive IsItemsText : List Tree → List Char → Prop
  /-- The last item. -/
  | last {item : Tree} {cs : List Char} (h : IsSpacedText item cs) : IsItemsText [item] cs
  /-- An item in front of others. -/
  | more {item : Tree} {items : List Tree} {cs rest : List Char} (h : IsSpacedText item cs)
    (hmore : IsItemsText items rest) : IsItemsText (item :: items) (cs ++ ',' :: rest)

/-- How a member of an object is written. -/
inductive IsMemberText : Option String × Tree → List Char → Prop
  /-- A key, a colon and a value. -/
  | member {key? : Option String} {item : Tree} {front body back cs : List Char}
    (hfront : IsGap front) (hkey : ReadsBody (some []) none key? body) (hback : IsGap back)
    (h : IsSpacedText item cs) :
    IsMemberText (key?, item) (front ++ '"' :: (body ++ (back ++ ':' :: cs)))

/-- How the members of an object are written. -/
inductive IsMembersText : List (Option String × Tree) → List Char → Prop
  /-- The last member. -/
  | last {member : Option String × Tree} {cs : List Char} (h : IsMemberText member cs) :
    IsMembersText [member] cs
  /-- A member in front of others. -/
  | more {member : Option String × Tree} {members : List (Option String × Tree)}
    {cs rest : List Char} (h : IsMemberText member cs) (hmore : IsMembersText members rest) :
    IsMembersText (member :: members) (cs ++ ',' :: rest)

end

/-- White space stands around what is written with it. -/
theorem IsSpacedText.exists_gaps {t : Tree} {cs : List Char} (h : IsSpacedText t cs) :
    ∃ gap value gap', cs = gap ++ (value ++ gap') ∧ IsGap gap ∧ IsValueText t value ∧
      IsGap gap' := by
  obtain ⟨hfront, h, hback⟩ := h
  exact ⟨_, _, _, rfl, hfront, h, hback⟩

/-- There may be no white space around a value. -/
theorem IsValueText.spaced {t : Tree} {cs : List Char} (h : IsValueText t cs) :
    IsSpacedText t cs := by
  have hspaced := IsSpacedText.spaced isGap_nil h isGap_nil
  rwa [List.nil_append, List.append_nil] at hspaced

/-- A character that a value begins with. -/
def OpensValue (c : Char) : Prop :=
  c ∈ ['n', 't', 'f', '"', '[', '\x7b', '-'] ∨ c.isDigit = true

instance (c : Char) : Decidable (OpensValue c) := inferInstanceAs (Decidable (_ ∨ _))

/-- A value begins with no white space. -/
theorem OpensValue.isSpace {c : Char} (h : OpensValue c) : isSpace c = false := by
  rw [Bool.eq_false_iff, Ne, isSpace_iff]
  rintro (rfl | rfl | rfl | rfl) <;> exact absurd h (by decide)

/-- What is written of a value begins with a character that does so. -/
theorem IsValueText.eq_cons {t : Tree} {cs : List Char} (h : IsValueText t cs) :
    ∃ c rest, cs = c :: rest ∧ OpensValue c := by
  cases h with
  | number hn =>
    obtain ⟨c, rest, hcs, hc⟩ := hn.charsWith_eq_cons
    exact ⟨c, rest, hcs, hc.imp (fun heq => by simp [heq]) id⟩
  | _ => exact ⟨_, _, rfl, .inl (by simp)⟩

/-- No white space is skipped before a value. -/
theorem IsValueText.skipSpace_append {t : Tree} {cs : List Char} (h : IsValueText t cs)
    (rest : List Char) : skipSpace (cs ++ rest) = cs ++ rest := by
  obtain ⟨c, cs, rfl, hc⟩ := h.eq_cons
  exact skipSpace_cons hc.isSpace (cs ++ rest)

/-- What is written of a value with white space around it begins with white space or with the
value. -/
theorem IsSpacedText.eq_cons {t : Tree} {cs : List Char} (h : IsSpacedText t cs) :
    ∃ c rest, cs = c :: rest ∧ (isSpace c = true ∨ OpensValue c) := by
  obtain ⟨gap, value, gap', rfl, hgap, hvalue, -⟩ := h.exists_gaps
  cases gap with
  | nil =>
    obtain ⟨c, rest, rfl, hc⟩ := hvalue.eq_cons
    exact ⟨c, _, rfl, .inr hc⟩
  | cons c gap => exact ⟨c, _, rfl, .inl (hgap c List.mem_cons_self)⟩

/-- A value comes behind white space. -/
theorem IsSpacedText.skipSpace_append {t : Tree} {cs : List Char} (h : IsSpacedText t cs)
    (rest : List Char) : ∃ c more, skipSpace (cs ++ rest) = c :: more ∧ OpensValue c := by
  obtain ⟨hfront, h, hback⟩ := h
  obtain ⟨c, more, rfl, hc⟩ := h.eq_cons
  rw [List.append_assoc, hfront.skipSpace_append, List.append_assoc, h.skipSpace_append]
  exact ⟨c, _, rfl, hc⟩

/-- A value comes before all items behind white space. -/
theorem IsItemsText.skipSpace_append {items : List Tree} {cs : List Char}
    (h : IsItemsText items cs) (rest : List Char) :
    ∃ c more, skipSpace (cs ++ rest) = c :: more ∧ OpensValue c := by
  cases h with
  | last h => exact h.skipSpace_append rest
  | more h _ =>
    rw [List.append_assoc]
    exact h.skipSpace_append _

/-- The mark of a key comes behind white space. -/
theorem IsMemberText.skipSpace_append {m : Option String × Tree} {cs : List Char}
    (h : IsMemberText m cs) (rest : List Char) :
    ∃ more, skipSpace (cs ++ rest) = '"' :: more := by
  obtain ⟨hfront, hkey, hback, h⟩ := h
  rw [List.append_assoc, hfront.skipSpace_append, List.cons_append]
  exact ⟨_, skipSpace_cons rfl _⟩

/-- The mark of a key comes before all members behind white space. -/
theorem IsMembersText.skipSpace_append {members : List (Option String × Tree)} {cs : List Char}
    (h : IsMembersText members cs) (rest : List Char) :
    ∃ more, skipSpace (cs ++ rest) = '"' :: more := by
  cases h with
  | last h => exact h.skipSpace_append rest
  | more h _ =>
    rw [List.append_assoc]
    exact h.skipSpace_append _

/-! ### Reading -/

/-- What starts a number starts no other value. -/
theorem treeAt_number {fuel : Nat} {c : Char} (cs : List Char)
    (h : c = '-' ∨ c.isDigit = true) :
    treeAt (fuel + 1) (c :: cs) =
      (numeral? (c :: cs)).map fun (n, rest) => (Tree.number n, rest) := by
  have hn : c ≠ 'n' ∧ c ≠ 't' ∧ c ≠ 'f' ∧ c ≠ '"' ∧ c ≠ '[' ∧ c ≠ '\x7b' := by
    refine ⟨?_, ?_, ?_, ?_, ?_, ?_⟩ <;> (rintro rfl; revert h; decide)
  obtain ⟨h1, h2, h3, h4, h5, h6⟩ := hn
  rw [treeAt]
  all_goals simp [h1, h2, h3, h4, h5, h6]

/-- Items are read behind white space. -/
theorem itemsAt_skipSpace (fuel : Nat) (cs : List Char) :
    itemsAt fuel (skipSpace cs) = itemsAt fuel cs := by
  cases fuel with
  | zero => rfl
  | succ fuel => rw [itemsAt, itemsAt, skipSpace_skipSpace]

/-- Members are read behind white space. -/
theorem membersAt_skipSpace (fuel : Nat) (cs : List Char) :
    membersAt fuel (skipSpace cs) = membersAt fuel cs := by
  cases fuel with
  | zero => rfl
  | succ fuel => rw [membersAt, membersAt, skipSpace_skipSpace]

/-- An array is read item by item unless it is closed at once. -/
theorem treeAt_array {fuel : Nat} {cs : List Char} (h : ∀ rest, skipSpace cs ≠ ']' :: rest) :
    treeAt (fuel + 1) ('[' :: cs) =
      (itemsAt fuel cs).map fun (items, rest) => (Tree.array items, rest) := by
  rw [treeAt, ← itemsAt_skipSpace fuel cs]
  split
  · next hclose => exact (h _ hclose).elim
  · rfl

/-- An object is read member by member unless it is closed at once. -/
theorem treeAt_object {fuel : Nat} {cs : List Char} (h : ∀ rest, skipSpace cs ≠ '\x7d' :: rest) :
    treeAt (fuel + 1) ('\x7b' :: cs) =
      (membersAt fuel cs).map fun (members, rest) => (Tree.object members, rest) := by
  rw [treeAt, ← membersAt_skipSpace fuel cs]
  split
  · next hclose => exact (h _ hclose).elim
  · rfl

-- The recursion is on how a value is written; the marks around the parts of a container pay for the
-- fuel that is spent on them.
mutual

/-- A value is read where it may end. -/
theorem IsValueText.treeAt_append : ∀ {t : Tree} {cs : List Char}, IsValueText t cs →
    ∀ {fuel : Nat} {rest : List Char}, cs.length < fuel → Follows rest →
      treeAt fuel (cs ++ rest) = some (t, rest)
  | _, _, _, 0, _ => fun hfuel _ => (Nat.not_lt_zero _ hfuel).elim
  | _, _, .null, _ + 1, _ => fun _ _ => rfl
  | _, _, .yes, _ + 1, _ => fun _ _ => rfl
  | _, _, .no, _ + 1, _ => fun _ _ => rfl
  | _, _, .number hn, fuel + 1, rest => by
    intro _ hr
    obtain ⟨c, cs, hcs, hc⟩ := hn.charsWith_eq_cons
    have hread := hn.numeral?_append hr.stopsNumber
    rw [hcs, List.cons_append] at hread ⊢
    rw [treeAt_number _ hc, hread]
    rfl
  | _, _, .string hbody, fuel + 1, rest => by
    intro _ _
    rw [List.cons_append, treeAt, hbody]
    rfl
  | _, _, .noItems hgap, fuel + 1, rest => by
    intro _ _
    rw [List.cons_append, List.append_assoc, treeAt, hgap.skipSpace_append]
    rfl
  | _, _, .noMembers hgap, fuel + 1, rest => by
    intro _ _
    rw [List.cons_append, List.append_assoc, treeAt, hgap.skipSpace_append]
    rfl
  | _, _, .items h, fuel + 1, rest => by
    intro hfuel _
    rw [List.length_cons, List.length_append, List.length_singleton] at hfuel
    rw [List.cons_append, List.append_assoc, List.singleton_append, treeAt_array,
      h.itemsAt_append (by omega)]
    · rfl
    · intro more hclose
      obtain ⟨c, _, hcs, hc⟩ := h.skipSpace_append (']' :: rest)
      obtain rfl := (List.cons.inj (hcs.symm.trans hclose)).1
      exact absurd hc (by decide)
  | _, _, .members h, fuel + 1, rest => by
    intro hfuel _
    rw [List.length_cons, List.length_append, List.length_singleton] at hfuel
    rw [List.cons_append, List.append_assoc, List.singleton_append, treeAt_object,
      h.membersAt_append (by omega)]
    · rfl
    · intro more hclose
      obtain ⟨_, hcs⟩ := h.skipSpace_append ('\x7d' :: rest)
      cases hcs.symm.trans hclose

/-- A value is read between white space. -/
theorem IsSpacedText.treeAt_append : ∀ {t : Tree} {cs : List Char}, IsSpacedText t cs →
    ∀ {fuel : Nat} {rest : List Char}, cs.length < fuel → Follows rest →
      ∃ gap, IsGap gap ∧ treeAt fuel (skipSpace (cs ++ rest)) = some (t, gap ++ rest)
  | _, _, .spaced hfront h hback, fuel, rest => by
    intro hfuel hr
    simp only [List.length_append] at hfuel
    refine ⟨_, hback, ?_⟩
    rw [List.append_assoc, hfront.skipSpace_append, List.append_assoc, h.skipSpace_append,
      h.treeAt_append (by omega) (hback.follows_append hr)]

/-- Items are read up to the closing bracket. -/
theorem IsItemsText.itemsAt_append : ∀ {items : List Tree} {cs : List Char}, IsItemsText items cs →
    ∀ {fuel : Nat} {rest : List Char}, cs.length + 1 < fuel →
      itemsAt fuel (cs ++ ']' :: rest) = some (items, rest)
  | _, _, _, 0, _ => fun hfuel => (Nat.not_lt_zero _ hfuel).elim
  | _, _, .last h, fuel + 1, rest => by
    intro hfuel
    have hend : Follows (']' :: rest) := follows_cons (by simp) rest
    obtain ⟨gap, hgap, hread⟩ := h.treeAt_append (Nat.lt_of_succ_lt_succ hfuel) hend
    simp only [itemsAt, hread, hgap.skipSpace_append, skipSpace_cons (c := ']') rfl]
  | _, _, @IsItemsText.more item items cs more h hmore, fuel + 1, rest => by
    intro hfuel
    rw [List.length_append, List.length_cons] at hfuel
    have hend : Follows (',' :: (more ++ ']' :: rest)) := follows_cons (.inl rfl) _
    have hfirst : cs.length < fuel := by omega
    obtain ⟨gap, hgap, hread⟩ := h.treeAt_append hfirst hend
    have hnext : itemsAt fuel (more ++ ']' :: rest) = some (items, rest) :=
      hmore.itemsAt_append (by omega)
    simp only [List.append_assoc, List.cons_append, itemsAt, hread, hgap.skipSpace_append,
      skipSpace_cons (c := ',') rfl, hnext, Option.map_some]

/-- A member is read in front of a closing brace and in front of a comma. -/
theorem IsMemberText.membersAt_append : ∀ {m : Option String × Tree} {cs : List Char},
    IsMemberText m cs → ∀ {fuel : Nat}, cs.length < fuel →
      (∀ rest, membersAt (fuel + 1) (cs ++ '\x7d' :: rest) = some ([m], rest)) ∧
        ∀ rest {members : List (Option String × Tree)} {behind : List Char},
          membersAt fuel rest = some (members, behind) →
            membersAt (fuel + 1) (cs ++ ',' :: rest) = some (m :: members, behind)
  | _, _, @IsMemberText.member _ _ _ body back cs hfront hkey hback h, fuel => by
    intro hfuel
    simp only [List.length_append, List.length_cons] at hfuel
    have hvalue : cs.length < fuel := by omega
    constructor
    · intro rest
      have hend : Follows ('\x7d' :: rest) := follows_cons (by simp) rest
      obtain ⟨gap, hgap, hread⟩ := h.treeAt_append hvalue hend
      simp only [List.append_assoc, List.cons_append, membersAt, hfront.skipSpace_append,
        skipSpace_cons (c := '"') rfl, hkey _, hback.skipSpace_append,
        skipSpace_cons (c := ':') rfl, hread, hgap.skipSpace_append,
        skipSpace_cons (c := '\x7d') rfl]
    · intro rest members behind hnext
      have hend : Follows (',' :: rest) := follows_cons (.inl rfl) rest
      obtain ⟨gap, hgap, hread⟩ := h.treeAt_append hvalue hend
      simp only [List.append_assoc, List.cons_append, membersAt, hfront.skipSpace_append,
        skipSpace_cons (c := '"') rfl, hkey _, hback.skipSpace_append,
        skipSpace_cons (c := ':') rfl, hread, hgap.skipSpace_append,
        skipSpace_cons (c := ',') rfl, hnext, Option.map_some]

/-- Members are read up to the closing brace. -/
theorem IsMembersText.membersAt_append : ∀ {members : List (Option String × Tree)}
    {cs : List Char}, IsMembersText members cs →
    ∀ {fuel : Nat} {rest : List Char}, cs.length + 1 < fuel →
      membersAt fuel (cs ++ '\x7d' :: rest) = some (members, rest)
  | _, _, _, 0, _ => fun hfuel => (Nat.not_lt_zero _ hfuel).elim
  | _, _, .last h, fuel + 1, rest => fun hfuel =>
    (h.membersAt_append (Nat.lt_of_succ_lt_succ hfuel)).1 rest
  | _, _, .more h hmore, fuel + 1, rest => by
    intro hfuel
    rw [List.length_append, List.length_cons] at hfuel
    rw [List.append_assoc, List.cons_append]
    exact (h.membersAt_append (by omega)).2 _ (hmore.membersAt_append (by omega))

end

/-- What was read and turned into something else was read before. -/
theorem exists_of_map_eq_some {α β : Type} {f : α → β} {x : Option (α × List Char)} {b : β}
    {rest : List Char} (h : (x.map fun (a, rest) => (f a, rest)) = some (b, rest)) :
    ∃ a, x = some (a, rest) ∧ f a = b := by
  obtain ⟨⟨a, rest'⟩, hx, heq⟩ := Option.map_eq_some_iff.1 h
  obtain ⟨rfl, rfl⟩ := Prod.mk.inj heq
  exact ⟨a, hx, rfl⟩

-- The recursion is on the fuel, as that of the reader.
mutual

/-- What is read as a value is written as one. -/
theorem isValueText_of_treeAt : ∀ {fuel : Nat} {cs rest : List Char} {t : Tree},
    treeAt fuel cs = some (t, rest) → ∃ front, IsValueText t front ∧ cs = front ++ rest
  | 0, _, _, _ => fun h => by cases h
  | fuel + 1, cs, rest, t => by
    intro h
    unfold treeAt at h
    split at h
    · obtain ⟨rfl, rfl⟩ := Prod.mk.inj (Option.some.inj h)
      exact ⟨_, .null, rfl⟩
    · obtain ⟨rfl, rfl⟩ := Prod.mk.inj (Option.some.inj h)
      exact ⟨_, .yes, rfl⟩
    · obtain ⟨rfl, rfl⟩ := Prod.mk.inj (Option.some.inj h)
      exact ⟨_, .no, rfl⟩
    · obtain ⟨text?, hbody, rfl⟩ := exists_of_map_eq_some h
      obtain ⟨body, rfl, hreads⟩ := readsBody_of_textBody hbody
      exact ⟨_, .string hreads, rfl⟩
    · next inner =>
      obtain ⟨gap, hgap, hinner⟩ := exists_gap inner
      split at h
      · next more hclose =>
        obtain ⟨rfl, rfl⟩ := Prod.mk.inj (Option.some.inj h)
        rw [hinner, hclose]
        exact ⟨_, .noItems hgap, by simp⟩
      · obtain ⟨items, hitems, rfl⟩ := exists_of_map_eq_some h
        rw [itemsAt_skipSpace] at hitems
        obtain ⟨front, hfront, rfl⟩ := isItemsText_of_itemsAt hitems
        exact ⟨_, .items hfront, by simp⟩
    · next inner =>
      obtain ⟨gap, hgap, hinner⟩ := exists_gap inner
      split at h
      · next more hclose =>
        obtain ⟨rfl, rfl⟩ := Prod.mk.inj (Option.some.inj h)
        rw [hinner, hclose]
        exact ⟨_, .noMembers hgap, by simp⟩
      · obtain ⟨members, hmembers, rfl⟩ := exists_of_map_eq_some h
        rw [membersAt_skipSpace] at hmembers
        obtain ⟨front, hfront, rfl⟩ := isMembersText_of_membersAt hmembers
        exact ⟨_, .members hfront, by simp⟩
    · obtain ⟨n, hn, rfl⟩ := exists_of_map_eq_some h
      obtain ⟨exponent, htext, hcs⟩ := isNumeralText_of_numeral? hn
      exact ⟨_, .number htext, hcs⟩

/-- What is read as items is written as items up to the closing bracket. -/
theorem isItemsText_of_itemsAt : ∀ {fuel : Nat} {cs rest : List Char} {items : List Tree},
    itemsAt fuel cs = some (items, rest) →
      ∃ front, IsItemsText items front ∧ cs = front ++ ']' :: rest
  | 0, _, _, _ => fun h => by cases h
  | fuel + 1, cs, rest, items => by
    intro h
    obtain ⟨gap, hgap, hcs⟩ := exists_gap cs
    rw [itemsAt] at h
    split at h
    · cases h
    next item behind hitem =>
    obtain ⟨value, hvalue, hvaluecs⟩ := isValueText_of_treeAt hitem
    obtain ⟨gap', hgap', hbehind⟩ := exists_gap behind
    have hspaced : IsSpacedText item (gap ++ (value ++ gap')) := .spaced hgap hvalue hgap'
    split at h
    · next more hclose =>
      obtain ⟨rfl, rfl⟩ := Prod.mk.inj (Option.some.inj h)
      refine ⟨_, .last hspaced, ?_⟩
      rw [hcs, hvaluecs, hbehind, hclose]
      simp only [List.append_assoc]
    · next more hcomma =>
      obtain ⟨items, hitems, rfl⟩ := exists_of_map_eq_some h
      obtain ⟨front, hfront, rfl⟩ := isItemsText_of_itemsAt hitems
      refine ⟨_, .more hspaced hfront, ?_⟩
      rw [hcs, hvaluecs, hbehind, hcomma]
      simp only [List.append_assoc, List.cons_append]
    · cases h

/-- What is read as members is written as members up to the closing brace. -/
theorem isMembersText_of_membersAt : ∀ {fuel : Nat} {cs rest : List Char}
    {members : List (Option String × Tree)}, membersAt fuel cs = some (members, rest) →
      ∃ front, IsMembersText members front ∧ cs = front ++ '\x7d' :: rest
  | 0, _, _, _ => fun h => by cases h
  | fuel + 1, cs, rest, members => by
    intro h
    obtain ⟨gap, hgap, hcs⟩ := exists_gap cs
    rw [membersAt] at h
    split at h
    case h_2 => cases h
    next inner hmark =>
    split at h
    · cases h
    next key? behindKey hkey =>
    obtain ⟨body, hbody, hreads⟩ := readsBody_of_textBody hkey
    obtain ⟨gapColon, hgapColon, hbehindKey⟩ := exists_gap behindKey
    split at h
    case h_2 => cases h
    next behindColon hcolon =>
    obtain ⟨gapValue, hgapValue, hbehindColon⟩ := exists_gap behindColon
    split at h
    · cases h
    next item behind hitem =>
    obtain ⟨value, hvalue, hvaluecs⟩ := isValueText_of_treeAt hitem
    obtain ⟨gapEnd, hgapEnd, hbehind⟩ := exists_gap behind
    have hmember : IsMemberText (key?, item)
        (gap ++ '"' :: (body ++ (gapColon ++ ':' :: (gapValue ++ (value ++ gapEnd))))) :=
      .member hgap hreads hgapColon (.spaced hgapValue hvalue hgapEnd)
    split at h
    · next more hclose =>
      obtain ⟨rfl, rfl⟩ := Prod.mk.inj (Option.some.inj h)
      refine ⟨_, .last hmember, ?_⟩
      rw [hcs, hmark, hbody, hbehindKey, hcolon, hbehindColon, hvaluecs, hbehind, hclose]
      simp only [List.append_assoc, List.cons_append]
    · next more hcomma =>
      obtain ⟨members, hmembers, rfl⟩ := exists_of_map_eq_some h
      obtain ⟨front, hfront, rfl⟩ := isMembersText_of_membersAt hmembers
      refine ⟨_, .more hmember hfront, ?_⟩
      rw [hcs, hmark, hbody, hbehindKey, hcolon, hbehindColon, hvaluecs, hbehind, hcomma]
      simp only [List.append_assoc, List.cons_append]
    · cases h

end

/-- A text has a syntax tree exactly when it is a value of the tree with white space around it. -/
theorem ofText?_eq_some_iff {s : String} {t : Tree} :
    Tree.ofText? s = some t ↔ IsSpacedText t s.toList := by
  rw [Tree.ofText?]
  constructor
  · intro h
    obtain ⟨gap, hgap, hs⟩ := exists_gap s.toList
    split at h
    · next found rest hread =>
      split at h
      · next hend =>
        obtain rfl := Option.some.inj h
        obtain ⟨front, hfront, hcs⟩ := isValueText_of_treeAt hread
        obtain ⟨gap', hgap', hrest⟩ := exists_gap rest
        rw [hend, List.append_nil] at hrest
        rw [hs, hcs, hrest]
        exact .spaced hgap hfront hgap'
      · cases h
    · cases h
  · intro h
    obtain ⟨gap, hgap, hread⟩ := h.treeAt_append (Nat.lt_succ_self _) follows_nil
    rw [List.append_nil, List.append_nil] at hread
    have hend : skipSpace gap = [] := List.dropWhile_eq_nil_iff.2 hgap
    simp only [hread, hend, if_true]

end InteractiveBook.Json
