import InteractiveBook.Text.Line
import Mathlib.Data.List.Basic

/-!
# The lines of a text are its only cut

The lines of a text hold no terminator, and with one terminator behind each of them they are the
text again, whose last line is terminated unless it already is. There is one such list of lines,
so that nothing else can be meant by the lines of a text.
-/

namespace InteractiveBook.Text

/-- Pieces put behind one another, each closed with the separator. -/
def closePieces (sep : Char) (pieces : List (List Char)) : List Char :=
  pieces.flatMap fun piece => piece ++ [sep]

/-- The text with its last line terminated. -/
def terminated (cs : List Char) : List Char :=
  if cs = [] ∨ cs.getLast? = some '\n' then cs else cs ++ ['\n']

/-- What makes a list of texts the lines of a text. -/
structure IsLines (text : String) (ls : List String) : Prop where
  /-- No line holds a terminator. -/
  bare : ∀ line ∈ ls, '\n' ∉ line.toList
  /-- Terminated, the lines are the text. -/
  whole : closePieces '\n' (ls.map String.toList) = terminated text.toList

section Pieces

variable {sep c : Char} {cs : List Char}

/-- A separator in front ends an empty piece. -/
theorem splitOnChar_sep (sep : Char) (cs : List Char) :
    splitOnChar sep (sep :: cs) = [] :: splitOnChar sep cs := by
  simp [splitOnChar, splitStep]

/-- A list is cut into at least one piece. -/
theorem splitOnChar_ne_nil (sep : Char) (cs : List Char) : splitOnChar sep cs ≠ [] := by
  cases cs with
  | nil => simp [splitOnChar]
  | cons c cs =>
    simp only [splitOnChar, List.foldr_cons, splitStep]
    split
    · simp
    · split <;> simp

/-- Any other character in front belongs to the first piece. -/
theorem splitOnChar_of_ne (cs : List Char) (h : c ≠ sep) :
    ∃ first rest, splitOnChar sep cs = first :: rest ∧
      splitOnChar sep (c :: cs) = (c :: first) :: rest := by
  obtain ⟨first, rest, hcs⟩ := List.exists_cons_of_ne_nil (splitOnChar_ne_nil sep cs)
  refine ⟨first, rest, hcs, ?_⟩
  have hstep : splitOnChar sep (c :: cs) = splitStep sep c (splitOnChar sep cs) := rfl
  rw [hstep, hcs]
  simp [splitStep, h]

/-- A piece holds no separator. -/
theorem not_mem_of_mem_splitOnChar {piece : List Char} (h : piece ∈ splitOnChar sep cs) :
    sep ∉ piece := by
  induction cs generalizing piece with
  | nil => simp_all [splitOnChar]
  | cons c cs ih =>
    by_cases hc : c = sep
    · subst hc
      rw [splitOnChar_sep] at h
      rcases List.mem_cons.1 h with rfl | h
      · exact List.not_mem_nil
      · exact ih h
    · obtain ⟨first, rest, hcs, hcons⟩ := splitOnChar_of_ne cs hc
      rw [hcons] at h
      rcases List.mem_cons.1 h with rfl | h
      · have hfirst : sep ∉ first := ih (by simp [hcs])
        simp [hfirst, Ne.symm hc]
      · exact ih (by simp [hcs, h])

/-- The closed pieces of a list are the list with one more separator. -/
theorem closePieces_splitOnChar (sep : Char) (cs : List Char) :
    closePieces sep (splitOnChar sep cs) = cs ++ [sep] := by
  induction cs with
  | nil => simp [splitOnChar, closePieces]
  | cons c cs ih =>
    by_cases hc : c = sep
    · subst hc
      rw [splitOnChar_sep]
      simpa [closePieces] using ih
    · obtain ⟨first, rest, hcs, hcons⟩ := splitOnChar_of_ne cs hc
      rw [hcs] at ih
      rw [hcons]
      simpa [closePieces] using ih

/-- The first of several closed pieces ends at the first separator. -/
theorem takeWhile_closed {piece : List Char} (h : sep ∉ piece) (tail : List Char) :
    (piece ++ sep :: tail).takeWhile (· ≠ sep) = piece := by
  have hpiece : ∀ c ∈ piece, decide (c ≠ sep) = true := by
    intro c hc
    simpa using fun hcs : c = sep => h (hcs ▸ hc)
  rw [List.takeWhile_append_of_pos hpiece]
  simp

/-- A list is cut at its first separator into a piece without separators and what stands behind. -/
theorem cut_iff {piece tail : List Char} :
    cs.takeWhile (· ≠ sep) = piece ∧ cs.dropWhile (· ≠ sep) = sep :: tail ↔
      cs = piece ++ sep :: tail ∧ sep ∉ piece := by
  have hsplit : cs.takeWhile (· ≠ sep) ++ cs.dropWhile (· ≠ sep) = cs :=
    List.takeWhile_append_dropWhile
  constructor
  · rintro ⟨hpiece, htail⟩
    rw [hpiece, htail] at hsplit
    refine ⟨hsplit.symm, fun hmem => ?_⟩
    rw [← hpiece] at hmem
    simpa using List.all_eq_true.1 List.all_takeWhile sep hmem
  · rintro ⟨hcs, hpiece⟩
    have htake : cs.takeWhile (· ≠ sep) = piece := by rw [hcs, takeWhile_closed hpiece]
    rw [htake, hcs, List.append_cancel_left_eq] at hsplit
    exact ⟨htake, hcs ▸ hsplit⟩

/-- A list that is longer than its first piece has a separator behind it. -/
theorem exists_closed_of_lt (h : (cs.takeWhile (· ≠ sep)).length < cs.length) :
    ∃ tail, cs = cs.takeWhile (· ≠ sep) ++ sep :: tail := by
  have hsplit : cs.takeWhile (· ≠ sep) ++ cs.dropWhile (· ≠ sep) = cs :=
    List.takeWhile_append_dropWhile
  cases hrest : cs.dropWhile (· ≠ sep) with
  | nil =>
    rw [hrest, List.append_nil] at hsplit
    rw [hsplit] at h
    exact absurd h (Nat.lt_irrefl _)
  | cons c tail =>
    have hc := List.head?_dropWhile_not (fun c : Char => decide (c ≠ sep)) cs
    rw [hrest] at hc hsplit
    obtain rfl : c = sep := by simpa using hc
    exact ⟨tail, hsplit.symm⟩

/-- Pieces without separators are known from their closed form. -/
theorem closePieces_injective {ps qs : List (List Char)} (hp : ∀ p ∈ ps, sep ∉ p)
    (hq : ∀ q ∈ qs, sep ∉ q) (h : closePieces sep ps = closePieces sep qs) : ps = qs := by
  induction ps generalizing qs with
  | nil => cases qs <;> simp_all [closePieces]
  | cons p ps ih =>
    cases qs with
    | nil => simp [closePieces] at h
    | cons q qs =>
      have hcons : p ++ sep :: closePieces sep ps = q ++ sep :: closePieces sep qs := by
        simpa [closePieces] using h
      have hpq : p = q := by
        rw [← takeWhile_closed (hp p (by simp)) (closePieces sep ps), hcons,
          takeWhile_closed (hq q (by simp))]
      subst hpq
      have hrest : closePieces sep ps = closePieces sep qs := by simpa using hcons
      rw [ih (fun r hr => hp r (by simp [hr])) (fun r hr => hq r (by simp [hr])) hrest]

/-- Closed pieces, if there are any, end with the separator. -/
theorem closePieces_eq_nil_or (sep : Char) (ps : List (List Char)) :
    closePieces sep ps = [] ∨ (closePieces sep ps).getLast? = some sep := by
  rcases List.eq_nil_or_concat ps with rfl | ⟨init, last, rfl⟩
  · exact .inl rfl
  · right
    simp [closePieces]

end Pieces

/-- The last piece is dropped exactly when the text is empty or terminated. -/
theorem closePieces_linesOfChars (cs : List Char) :
    closePieces '\n' (linesOfChars cs) = terminated cs := by
  have hwhole := closePieces_splitOnChar '\n' cs
  have hbare : ∀ piece ∈ splitOnChar '\n' cs, '\n' ∉ piece :=
    fun _ => not_mem_of_mem_splitOnChar
  rcases List.eq_nil_or_concat (splitOnChar '\n' cs) with hnil | ⟨init, last, hsplit⟩
  · exact absurd hnil (splitOnChar_ne_nil '\n' cs)
  rw [hsplit] at hwhole hbare
  have hcs : closePieces '\n' init ++ last = cs := by
    simpa [closePieces, ← List.append_assoc] using hwhole
  by_cases hlast : last = []
  · have hlines : linesOfChars cs = init := by simp [linesOfChars, hsplit, hlast]
    have hterminated : cs = [] ∨ cs.getLast? = some '\n' := by
      rw [← hcs, hlast, List.append_nil]
      exact closePieces_eq_nil_or '\n' init
    rw [hlines, terminated, if_pos hterminated, ← hcs, hlast, List.append_nil]
  · have hlines : linesOfChars cs = splitOnChar '\n' cs := by
      simp [linesOfChars, hsplit, hlast]
    have hopen : ¬(cs = [] ∨ cs.getLast? = some '\n') := by
      rw [← hcs, List.getLast?_append_of_ne_nil _ hlast]
      rintro (hnil | hend)
      · exact hlast (List.append_eq_nil_iff.1 hnil).2
      · exact hbare last (by simp) (List.mem_of_getLast? hend)
    rw [hlines, terminated, if_neg hopen, closePieces_splitOnChar]

/-- A line holds no terminator. -/
theorem not_mem_of_mem_linesOfChars {cs line : List Char} (h : line ∈ linesOfChars cs) :
    '\n' ∉ line := by
  rw [linesOfChars] at h
  split at h
  · exact not_mem_of_mem_splitOnChar (List.dropLast_subset _ h)
  · exact not_mem_of_mem_splitOnChar h

/-- The lines of a text are what the cut of the text is, and nothing else is. -/
theorem isLines_iff {text : String} {ls : List String} : IsLines text ls ↔ ls = lines text := by
  have hmap : (lines text).map String.toList = linesOfChars text.toList := by
    simp [lines, Function.comp_def]
  constructor
  · intro h
    have hbare : ∀ piece ∈ ls.map String.toList, '\n' ∉ piece := by
      simpa using h.bare
    have heq : ls.map String.toList = linesOfChars text.toList :=
      closePieces_injective hbare (fun _ => not_mem_of_mem_linesOfChars)
        (h.whole.trans (closePieces_linesOfChars _).symm)
    rw [lines, ← heq]
    simp [Function.comp_def]
  · rintro rfl
    constructor
    · intro line hline
      have hmem : line.toList ∈ linesOfChars text.toList := hmap ▸ List.mem_map_of_mem hline
      exact not_mem_of_mem_linesOfChars hmem
    · rw [hmap, closePieces_linesOfChars]

end InteractiveBook.Text
