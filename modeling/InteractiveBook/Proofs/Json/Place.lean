import InteractiveBook.Proofs.Json.Grammar

/-!
# Places in JSON texts

A part of a syntax tree has a place in every text of the tree: the signs in front of it and the
signs behind it do not depend on it. Between them any other value with white space around it may be
written, and the text is then that of the tree with the other value in the place of the part.
-/

namespace InteractiveBook.Json

/-- Signs between which a value stands that has a tree around it. Which value it is does not
matter. -/
def IsPlace (front back : List Char) (around : Tree → Tree) : Prop :=
  ∀ t cs, IsSpacedText t cs → IsSpacedText (around t) (front ++ (cs ++ back))

/-- What is written is what stands at a place, with a tree around it. -/
def StandsIn (t : Tree) (around : Tree → Tree) (cs : List Char) : Prop :=
  ∃ front value back, cs = front ++ (value ++ back) ∧ IsSpacedText t value ∧
    IsPlace front back around

/-- A place within a place is a place. -/
theorem IsPlace.comp {front front' back back' : List Char} {around around' : Tree → Tree}
    (h : IsPlace front back around) (h' : IsPlace front' back' around') :
    IsPlace (front ++ front') (back' ++ back) (fun t => around (around' t)) := by
  intro t cs ht
  have hboth := h _ _ (h' t cs ht)
  simpa only [List.append_assoc] using hboth

/-- What stands at a place of a part stands at a place of the whole. -/
theorem StandsIn.trans {t : Tree} {cs : List Char} {around : Tree → Tree} (around' : Tree → Tree)
    (h : StandsIn (around' t) around cs)
    (hinner : ∀ cs, IsSpacedText (around' t) cs → StandsIn t around' cs) :
    StandsIn t (fun t => around (around' t)) cs := by
  obtain ⟨front, cs', back, rfl, hcs', hplace⟩ := h
  obtain ⟨front', value, back', rfl, hvalue, hplace'⟩ := hinner cs' hcs'
  exact ⟨front ++ front', value, back' ++ back, by simp only [List.append_assoc], hvalue,
    hplace.comp hplace'⟩

/-- An item has a place among the items of an array. -/
theorem IsItemsText.exists_place {before after : List Tree} {item : Tree} {cs : List Char}
    (h : IsItemsText (before ++ item :: after) cs) :
    ∃ front value back, cs = front ++ (value ++ back) ∧ IsSpacedText item value ∧
      ∀ t cs, IsSpacedText t cs → IsItemsText (before ++ t :: after) (front ++ (cs ++ back)) := by
  induction before generalizing cs with
  | nil =>
    cases h with
    | last h =>
      refine ⟨[], cs, [], (List.append_nil cs).symm, h, fun t cs h => ?_⟩
      rw [List.append_nil]
      exact .last h
    | more h hmore => exact ⟨[], _, _, rfl, h, fun t cs h => .more h hmore⟩
  | cons first before ih =>
    rw [List.cons_append] at h
    generalize hitems : before ++ item :: after = items at h
    cases h with
    | last _ => simp at hitems
    | @more _ _ text _ hfirst hmore =>
      obtain ⟨front, value, back, rfl, hvalue, hplace⟩ := ih (hitems ▸ hmore)
      refine ⟨text ++ ',' :: front, value, back, by simp, hvalue, fun t cs h => ?_⟩
      simpa using IsItemsText.more hfirst (hplace t cs h)

/-- The value of a member has a place behind its key. -/
theorem IsMemberText.exists_place {key? : Option String} {item : Tree} {cs : List Char}
    (h : IsMemberText (key?, item) cs) :
    ∃ front value, cs = front ++ value ∧ IsSpacedText item value ∧
      ∀ t cs, IsSpacedText t cs → IsMemberText (key?, t) (front ++ cs) := by
  cases h with
  | @member _ _ gap body gap' value hgap hkey hgap' hvalue =>
    refine ⟨gap ++ '"' :: (body ++ (gap' ++ [':'])), value, by simp, hvalue, fun t cs h => ?_⟩
    simpa using IsMemberText.member hgap hkey hgap' h

/-- The value of a member has a place among the members of an object. -/
theorem IsMembersText.exists_place {before after : List (Option String × Tree)}
    {key? : Option String} {item : Tree} {cs : List Char}
    (h : IsMembersText (before ++ (key?, item) :: after) cs) :
    ∃ front value back, cs = front ++ (value ++ back) ∧ IsSpacedText item value ∧
      ∀ t cs, IsSpacedText t cs →
        IsMembersText (before ++ (key?, t) :: after) (front ++ (cs ++ back)) := by
  induction before generalizing cs with
  | nil =>
    cases h with
    | last h =>
      obtain ⟨front, value, rfl, hvalue, hplace⟩ := h.exists_place
      refine ⟨front, value, [], by rw [List.append_nil], hvalue, fun t cs h => ?_⟩
      rw [List.append_nil]
      exact .last (hplace t cs h)
    | more h hmore =>
      obtain ⟨front, value, rfl, hvalue, hplace⟩ := h.exists_place
      refine ⟨front, value, _, List.append_assoc .., hvalue, fun t cs h => ?_⟩
      rw [← List.append_assoc]
      exact .more (hplace t cs h) hmore
  | cons first before ih =>
    rw [List.cons_append] at h
    generalize hmembers : before ++ (key?, item) :: after = members at h
    cases h with
    | last _ => simp at hmembers
    | @more _ _ text _ hfirst hmore =>
      obtain ⟨front, value, back, rfl, hvalue, hplace⟩ := ih (hmembers ▸ hmore)
      refine ⟨text ++ ',' :: front, value, back, by simp, hvalue, fun t cs h => ?_⟩
      simpa using IsMembersText.more hfirst (hplace t cs h)

/-- An item of an array has a place in what is written of the array. -/
theorem IsSpacedText.standsIn_array {before after : List Tree} {item : Tree} {cs : List Char}
    (h : IsSpacedText (.array (before ++ item :: after)) cs) :
    StandsIn item (fun t => .array (before ++ t :: after)) cs := by
  obtain ⟨gap, inner, gap', rfl, hgap, hinner, hgap'⟩ := h.exists_gaps
  generalize hitems : before ++ item :: after = items at hinner
  cases hinner with
  | noItems _ => simp at hitems
  | items hinner =>
    obtain ⟨front, value, back, rfl, hvalue, hplace⟩ := (hitems ▸ hinner).exists_place
    refine ⟨gap ++ '[' :: front, value, back ++ ']' :: gap', by simp, hvalue, ?_⟩
    intro t cs h
    simpa using IsSpacedText.spaced hgap (.items (hplace t cs h)) hgap'

/-- The value of a member of an object has a place in what is written of the object. -/
theorem IsSpacedText.standsIn_object {before after : List (Option String × Tree)}
    {key? : Option String} {item : Tree} {cs : List Char}
    (h : IsSpacedText (.object (before ++ (key?, item) :: after)) cs) :
    StandsIn item (fun t => .object (before ++ (key?, t) :: after)) cs := by
  obtain ⟨gap, inner, gap', rfl, hgap, hinner, hgap'⟩ := h.exists_gaps
  generalize hmembers : before ++ (key?, item) :: after = members at hinner
  cases hinner with
  | noMembers _ => simp at hmembers
  | members hinner =>
    obtain ⟨front, value, back, rfl, hvalue, hplace⟩ := (hmembers ▸ hinner).exists_place
    refine ⟨gap ++ '\x7b' :: front, value, back ++ '\x7d' :: gap', by simp, hvalue, ?_⟩
    intro t cs h
    simpa using IsSpacedText.spaced hgap (.members (hplace t cs h)) hgap'

end InteractiveBook.Json
