import InteractiveBook.Text.Trim
import Mathlib.Data.List.Basic
import Mathlib.Data.List.TakeWhile

/-!
# What trimming takes away

Trimming takes the white space at both ends of a list and nothing else. A list whose own ends are no
white space is at the end of a trimmed list exactly when only white space follows it.
-/

namespace InteractiveBook.Text

variable {cs part back : List Char}

/-- A digit is no white space. -/
theorem isWhiteSpace_of_isDigit {c : Char} (h : c.isDigit = true) : isWhiteSpace c = false := by
  have hrange : 48 ≤ c.toNat ∧ c.toNat ≤ 57 := by
    simpa [Char.isDigit, UInt32.le_iff_toNat_le] using h
  simp only [isWhiteSpace, Bool.or_eq_false_iff, Bool.and_eq_false_iff, decide_eq_false_iff_not,
    beq_eq_false_iff_ne]
  omega

/-- What is trimmed at the start of a list is white space. -/
theorem exists_space_of_trimStartChars {rest : List Char} (h : trimStartChars cs = rest) :
    ∃ space, (∀ c ∈ space, isWhiteSpace c = true) ∧ cs = space ++ rest :=
  ⟨cs.takeWhile isWhiteSpace, fun _ hc => List.mem_takeWhile_imp hc,
    h ▸ List.takeWhile_append_dropWhile.symm⟩

/-- White space in front of something else is trimmed. -/
theorem trimStartChars_append {space : List Char} (h : ∀ c ∈ space, isWhiteSpace c = true)
    {c : Char} (hc : isWhiteSpace c = false) (rest : List Char) :
    trimStartChars (space ++ c :: rest) = c :: rest := by
  rw [trimStartChars, List.dropWhile_append_of_pos h, List.dropWhile_cons_of_neg (by simp [hc])]

/-- Trimming takes white space from both ends. -/
theorem exists_trimChars (cs : List Char) : ∃ front back, cs = front ++ trimChars cs ++ back ∧
    (∀ c ∈ front, isWhiteSpace c = true) ∧ ∀ c ∈ back, isWhiteSpace c = true := by
  obtain ⟨front, hfront, hcs⟩ := exists_space_of_trimStartChars (Eq.refl (trimStartChars cs))
  obtain ⟨back, hback, hrest⟩ :=
    exists_space_of_trimStartChars (Eq.refl (trimStartChars (trimStartChars cs).reverse))
  refine ⟨front, back.reverse, ?_, hfront, fun c hc => hback c (List.mem_reverse.1 hc)⟩
  have hend : trimChars cs ++ back.reverse = trimStartChars cs := by
    rw [trimChars, trimEndChars, ← trimStartChars, ← List.reverse_append, ← hrest,
      List.reverse_reverse]
  rw [List.append_assoc, hend]
  exact hcs

/-- A trimmed list is a part of the list. -/
theorem trimChars_sublist (cs : List Char) : (trimChars cs).Sublist cs := by
  obtain ⟨front, back, hcs, -⟩ := exists_trimChars cs
  conv_rhs => rw [hcs]
  exact (List.sublist_append_right front _).trans (List.sublist_append_left _ back)

/-- What starts with no white space is left when the list before it is trimmed at its start. -/
theorem trimStartChars_append_of_head (hhead : ∀ c ∈ part.head?, isWhiteSpace c = false)
    (front : List Char) : trimStartChars (front ++ part) = trimStartChars front ++ part := by
  have hpart : trimStartChars part = part := by
    cases part with
    | nil => rfl
    | cons c part => exact List.dropWhile_cons_of_neg (by simpa using hhead c rfl)
  rw [trimStartChars, List.dropWhile_append]
  split
  · rename_i hempty
    rw [trimStartChars, List.isEmpty_iff.1 hempty]
    exact hpart
  · rfl

/-- What ends in no white space is left when the white space behind it is trimmed. -/
theorem trimEndChars_append_space (hlast : ∀ c ∈ part.getLast?, isWhiteSpace c = false)
    (hne : part ≠ []) (hback : ∀ c ∈ back, isWhiteSpace c = true) (front : List Char) :
    trimEndChars (front ++ part ++ back) = front ++ part := by
  obtain ⟨init, last, rfl⟩ : ∃ init last, part = init ++ [last] :=
    ⟨_, _, (List.dropLast_concat_getLast hne).symm⟩
  have hback' : ∀ c ∈ back.reverse, isWhiteSpace c = true := fun c hc =>
    hback c (List.mem_reverse.1 hc)
  have hstop : ¬isWhiteSpace last = true := by simpa using hlast last (by simp)
  rw [trimEndChars, List.reverse_append, List.dropWhile_append_of_pos hback', ← List.append_assoc,
    List.reverse_append, List.reverse_singleton, List.singleton_append,
    List.dropWhile_cons_of_neg hstop, List.reverse_cons, List.reverse_reverse]

/-- What neither starts nor ends in white space is left when the white space around it is
trimmed. -/
theorem trimChars_append {front : List Char} (hfront : ∀ c ∈ front, isWhiteSpace c = true)
    (hhead : ∀ c ∈ part.head?, isWhiteSpace c = false)
    (hlast : ∀ c ∈ part.getLast?, isWhiteSpace c = false) (hne : part ≠ [])
    (hback : ∀ c ∈ back, isWhiteSpace c = true) : trimChars (front ++ (part ++ back)) = part := by
  have hhead' : ∀ c ∈ (part ++ back).head?, isWhiteSpace c = false := by
    rwa [List.head?_append_of_ne_nil _ hne]
  have hspace : trimStartChars front = [] := List.dropWhile_eq_nil_iff.2 hfront
  have hend := trimEndChars_append_space hlast hne hback []
  rw [trimChars, trimStartChars_append_of_head hhead', hspace]
  exact hend

/-- A list that ends in a part and white space ends in the last sign of the part, unless it ends in
white space. -/
theorem getLast?_of_part {front : List Char} {c : Char} (hc : cs.getLast? = some c)
    (hplain : isWhiteSpace c = false) (hne : part ≠ []) (hcs : cs = front ++ part ++ back)
    (hback : ∀ c ∈ back, isWhiteSpace c = true) : part.getLast? = some c := by
  obtain rfl | ⟨init, last, rfl⟩ := List.eq_nil_or_concat back
  · rwa [hcs, List.append_nil, List.getLast?_append_of_ne_nil _ hne] at hc
  · have hlast : last = c := by
      rw [hcs, List.concat_eq_append, ← List.append_assoc, List.getLast?_concat] at hc
      exact Option.some.inj hc
    rw [← hlast, hback last (by simp)] at hplain
    cases hplain

/-- A list without white space at its ends is at the end of a trimmed list exactly when only white
space stands behind it. -/
theorem suffix_trimChars_iff (hhead : ∀ c ∈ part.head?, isWhiteSpace c = false)
    (hlast : ∀ c ∈ part.getLast?, isWhiteSpace c = false) : part <:+ trimChars cs ↔
      ∃ front back, cs = front ++ part ++ back ∧ ∀ c ∈ back, isWhiteSpace c = true := by
  constructor
  · rintro ⟨front, hfront⟩
    obtain ⟨before, back, hcs, -, hback⟩ := exists_trimChars cs
    refine ⟨before ++ front, back, ?_, hback⟩
    rw [List.append_assoc before, hfront]
    exact hcs
  · rintro ⟨front, back, rfl, hback⟩
    by_cases hne : part = []
    · exact hne ▸ List.nil_suffix
    · have hhead' : ∀ c ∈ (part ++ back).head?, isWhiteSpace c = false := by
        rwa [List.head?_append_of_ne_nil _ hne]
      rw [trimChars, List.append_assoc, trimStartChars_append_of_head hhead', ← List.append_assoc,
        trimEndChars_append_space hlast hne hback]
      exact List.suffix_append _ _

end InteractiveBook.Text
