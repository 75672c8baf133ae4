import InteractiveBook.Html.Escape
import Mathlib.Data.List.Basic
import Mathlib.Logic.Function.Defs

/-!
# Escaping writes each character for itself

Replacing characters one after the other is replacing them at once as long as no replacement has a
character in it that is replaced later. The ampersand, which every replacement has in it, is
replaced first, so that a text is escaped character by character. Each character can be told from
the start of what is written for it, and so can the text.
-/

namespace InteractiveBook.Html

/-! ### Replacements in a row -/

section Replacements

variable {rs : List (Char × List Char)} {cs : List Char}

/-- What is written for a character: the first of its replacements, or the character itself. -/
def replacedBy : List (Char × List Char) → Char → List Char
  | [], c => [c]
  | r :: rs, c => if c = r.1 then r.2 else replacedBy rs c

/-- A character without a replacement is written as it is. -/
theorem replacedBy_of_forall_ne {c : Char} (h : ∀ r ∈ rs, c ≠ r.1) : replacedBy rs c = [c] := by
  induction rs with
  | nil => rfl
  | cons r rs ih =>
    obtain ⟨hr, hrs⟩ := List.forall_mem_cons.1 h
    rw [replacedBy, if_neg hr, ih hrs]

/-- A list in which no character has a replacement is written as it is. -/
theorem flatMap_replacedBy_of_not_mem (h : ∀ r ∈ rs, r.1 ∉ cs) :
    cs.flatMap (replacedBy rs) = cs := by
  have hsame : ∀ c ∈ cs, replacedBy rs c = [c] := fun c hc =>
    replacedBy_of_forall_ne fun r hr heq => h r hr (heq ▸ hc)
  rw [List.flatMap_congr hsame, List.flatMap_singleton']

/-- Replacements in a row are made at once when no later one touches what an earlier one wrote. -/
theorem foldl_substitute (h : rs.Pairwise fun r later => later.1 ∉ r.2) (cs : List Char) :
    rs.foldl (fun out r => substitute r.1 r.2 out) cs = cs.flatMap (replacedBy rs) := by
  induction h generalizing cs with
  | nil => exact (flatMap_replacedBy_of_not_mem (by simp)).symm
  | @cons r rs hr _ ih =>
    -- The later replacements find nothing in what the first one wrote.
    have hfirst : r.2.flatMap (replacedBy rs) = r.2 := flatMap_replacedBy_of_not_mem hr
    have hone : ∀ c, (if c = r.1 then r.2 else [c]).flatMap (replacedBy rs) =
        replacedBy (r :: rs) c := by
      intro c
      rw [replacedBy]
      by_cases hc : c = r.1
      · rw [if_pos hc, if_pos hc, hfirst]
      · rw [if_neg hc, if_neg hc, List.flatMap_singleton]
    calc (r :: rs).foldl (fun out r => substitute r.1 r.2 out) cs
        = (substitute r.1 r.2 cs).flatMap (replacedBy rs) := ih (substitute r.1 r.2 cs)
      _ = cs.flatMap fun c => (if c = r.1 then r.2 else [c]).flatMap (replacedBy rs) :=
          List.flatMap_assoc
      _ = cs.flatMap (replacedBy (r :: rs)) := List.flatMap_congr fun c _ => hone c

end Replacements

/-! ### What can be read back -/

/-- A list is known from what is written for its members when nothing written is empty or begins
what is written for another member. -/
theorem flatMap_injective_of_starts {α β : Type} {written : α → List β}
    (hne : ∀ a, written a ≠ []) (hstarts : ∀ a b, written a <+: written b → a = b) :
    Function.Injective fun xs : List α => xs.flatMap written := by
  intro xs ys h
  dsimp only at h
  induction xs generalizing ys with
  | nil =>
    cases ys with
    | nil => rfl
    | cons y ys => exact absurd (List.append_eq_nil_iff.1 h.symm).1 (hne y)
  | cons x xs ih =>
    cases ys with
    | nil => exact absurd (List.append_eq_nil_iff.1 h).1 (hne x)
    | cons y ys =>
      rw [List.flatMap_cons, List.flatMap_cons] at h
      have hx : written x <+: written x ++ xs.flatMap written := List.prefix_append _ _
      have hy : written y <+: written x ++ xs.flatMap written := h ▸ List.prefix_append _ _
      have hxy : x = y := by
        rcases List.prefix_or_prefix_of_prefix hx hy with hstart | hstart
        · exact hstarts x y hstart
        · exact (hstarts y x hstart).symm
      subst hxy
      rw [ih (List.append_cancel_left h)]

/-! ### Escaped characters -/

/-- What a character is written as in HTML. -/
def escapedChar : Char → List Char
  | '&' => "&amp;".toList
  | '<' => "&lt;".toList
  | '>' => "&gt;".toList
  | '"' => "&quot;".toList
  | '\'' => "&#x27;".toList
  | c => [c]

/-- A character is one of those with a meaning in HTML and has its replacement, or is none of them
and is written as it is. -/
theorem escapedChar_cases (c : Char) : (c, escapedChar c) ∈ replacements ∨
    (∀ r ∈ replacements, c ≠ r.1) ∧ escapedChar c = [c] := by
  rw [escapedChar.eq_def]
  split
  case h_6 => exact .inr ⟨by simp_all [replacements], rfl⟩
  all_goals exact .inl (by decide)

/-- The replacements write each character as it is written in HTML. -/
theorem replacedBy_replacements (c : Char) : replacedBy replacements c = escapedChar c := by
  rcases escapedChar_cases c with hmem | ⟨hplain, hc⟩
  · have hall : ∀ r ∈ replacements, replacedBy replacements r.1 = r.2 := by decide
    exact hall _ hmem
  · rw [replacedBy_of_forall_ne hplain, hc]

/-- Of the characters that are replaced only the ampersand is written for any character. -/
theorem not_mem_escapedChar {mark : Char} (h : mark ∈ replacements.map Prod.fst)
    (hamp : mark ≠ '&') (c : Char) : mark ∉ escapedChar c := by
  obtain ⟨r, hr, rfl⟩ := List.mem_map.1 h
  rcases escapedChar_cases c with hmem | ⟨hplain, hc⟩
  · have hall : ∀ r ∈ replacements, r.1 ≠ '&' → ∀ r' ∈ replacements, r.1 ∉ r'.2 := by decide
    exact hall r hr hamp _ hmem
  · rw [hc, List.mem_singleton]
    exact (hplain r hr).symm

/-- A character is known from the start of what is written for it. -/
theorem eq_of_escapedChar_starts {c d : Char} (h : escapedChar c <+: escapedChar d) : c = d := by
  rcases escapedChar_cases c with hc | ⟨hplain, hc⟩
  · have hlong : ∀ r ∈ replacements, 1 < r.2.length := by decide
    rcases escapedChar_cases d with hd | ⟨-, hd⟩
    · -- No replacement begins another one.
      have hall : ∀ r ∈ replacements, ∀ r' ∈ replacements, r.2 <+: r'.2 → r.1 = r'.1 := by decide
      exact hall _ hc _ hd h
    · have hlength : (escapedChar c).length ≤ 1 := by simpa [hd] using h.length_le
      exact absurd (hlong _ hc) (Nat.not_lt.2 hlength)
  · have hamp : ∀ r ∈ replacements, r.2.head? = some '&' := by decide
    rcases escapedChar_cases d with hd | ⟨-, hd⟩
    · -- Replacements begin with an ampersand, which is not written as it is.
      obtain ⟨rest, hrest⟩ := h
      have hhead : (escapedChar d).head? = some c := by rw [← hrest, hc]; rfl
      have hc' : c = '&' := Option.some.inj (hhead.symm.trans (hamp _ hd))
      exact absurd hc' (hplain ('&', "&amp;".toList) (by decide))
    · simpa [hc, hd] using h

/-- Something is written for every character. -/
theorem escapedChar_ne_nil (c : Char) : escapedChar c ≠ [] := by
  have hall : ∀ r ∈ replacements, r.2 ≠ [] := by decide
  rcases escapedChar_cases c with hmem | ⟨-, hc⟩
  · exact hall _ hmem
  · rw [hc]
    exact List.cons_ne_nil c []

/-! ### Escaped texts -/

/-- A text is escaped character by character. -/
theorem toList_escape (s : String) : (escape s).toList = s.toList.flatMap escapedChar := by
  have huntouched : replacements.Pairwise fun r later => later.1 ∉ r.2 := by decide
  rw [escape, String.toList_ofList, escapeChars, foldl_substitute huntouched]
  exact List.flatMap_congr fun c _ => replacedBy_replacements c

/-- Of the characters that are replaced an escaped text has only the ampersand. -/
theorem not_mem_toList_escape {mark : Char} (h : mark ∈ replacements.map Prod.fst)
    (hamp : mark ≠ '&') (s : String) : mark ∉ (escape s).toList := by
  intro hmem
  rw [toList_escape, List.mem_flatMap] at hmem
  obtain ⟨c, -, hc⟩ := hmem
  exact not_mem_escapedChar h hamp c hc

/-- Texts may be escaped before they are put together. -/
theorem escape_append (s t : String) : escape (s ++ t) = escape s ++ escape t := by
  have hlists : (escape (s ++ t)).toList = (escape s ++ escape t).toList := by
    rw [String.toList_append, toList_escape, toList_escape, toList_escape, String.toList_append,
      List.flatMap_append]
  exact String.toList_inj.1 hlists

/-- A text is known from its escaped form. -/
theorem escape_injective : Function.Injective escape := by
  intro s t h
  have hlists : s.toList.flatMap escapedChar = t.toList.flatMap escapedChar := by
    rw [← toList_escape, ← toList_escape, h]
  have hstarts : ∀ c d, escapedChar c <+: escapedChar d → c = d :=
    fun _ _ => eq_of_escapedChar_starts
  exact String.toList_inj.1 (flatMap_injective_of_starts escapedChar_ne_nil hstarts hlists)

/-- Escaping is done in one pass over the text, although the characters are replaced one after the
other: nothing that is written for a character is replaced again. Of the marks of HTML only the
ampersand is left, texts may be escaped piece by piece, and no two texts become the same. -/
theorem escape_onePass :
    (∀ s, (escape s).toList = s.toList.flatMap escapedChar) ∧
      (∀ s, '<' ∉ (escape s).toList ∧ '>' ∉ (escape s).toList ∧ '"' ∉ (escape s).toList ∧
        '\'' ∉ (escape s).toList) ∧
      (∀ s t, escape (s ++ t) = escape s ++ escape t) ∧ Function.Injective escape := by
  refine ⟨toList_escape, fun s => ⟨?_, ?_, ?_, ?_⟩, escape_append, escape_injective⟩
  all_goals exact not_mem_toList_escape (by decide) (by decide) s

/-- An ampersand that belongs to a reference is escaped again, and the reference stays whole. -/
example : escape "&lt;'" = "&amp;lt;&#x27;" := by decide

end InteractiveBook.Html
