import InteractiveBook.Text.Character

/-!
# Trimming, splitting and joining

Small operations on texts, each given on lists of characters and wrapped for strings.
-/

namespace InteractiveBook.Text

/-- The list without the white space at its start. -/
def trimStartChars (cs : List Char) : List Char := cs.dropWhile isWhiteSpace

/-- The list without the white space at its end. -/
def trimEndChars (cs : List Char) : List Char := (cs.reverse.dropWhile isWhiteSpace).reverse

/-- The list without the white space at either end. -/
def trimChars (cs : List Char) : List Char := trimEndChars (trimStartChars cs)

/-- The text without the white space at its start. -/
def trimStart (s : String) : String := String.ofList (trimStartChars s.toList)

/-- The text without the white space at either end. -/
def trim (s : String) : String := String.ofList (trimChars s.toList)

/-- A text is blank when all of it is white space. -/
def isBlank (s : String) : Bool := s.toList.all isWhiteSpace

/-- The rest of a list after a given start, when it has that start. -/
def afterStart? : List Char → List Char → Option (List Char)
  | [], cs => some cs
  | _ :: _, [] => none
  | p :: ps, c :: cs => if p = c then afterStart? ps cs else none

/-- The rest of a text after a given start, when it has that start. -/
def dropStart? (start s : String) : Option String :=
  (afterStart? start.toList s.toList).map String.ofList

/-- Whether one list of characters begins with another. -/
def beginsWith (start cs : List Char) : Bool := (afterStart? start cs).isSome

/-- Whether a list of characters occurs somewhere in another. -/
def containsChars (part : List Char) : List Char → Bool
  | [] => part.isEmpty
  | c :: cs => beginsWith part (c :: cs) || containsChars part cs

/-- Whether a text occurs somewhere in another. -/
def containsText (part s : String) : Bool := containsChars part.toList s.toList

/-- The pieces of a list after one more character is put in front of it. -/
def splitStep (sep c : Char) (pieces : List (List Char)) : List (List Char) :=
  if c = sep then [] :: pieces
  else match pieces with
    | [] => [[c]]
    | piece :: rest => (c :: piece) :: rest

/-- The pieces between the separators, one more than there are separators. -/
def splitOnChar (sep : Char) (cs : List Char) : List (List Char) :=
  cs.foldr (splitStep sep) [[]]

/-- Texts joined by a separator. -/
def join (sep : String) (parts : List String) : String := sep.intercalate parts

/-- What follows the start of a list is what was put there. -/
theorem afterStart?_append (ps cs : List Char) : afterStart? ps (ps ++ cs) = some cs := by
  induction ps with
  | nil => rfl
  | cons p ps ih => simp [afterStart?, ih]

/-- A list splits into its start and the rest. -/
theorem eq_append_of_afterStart? {ps cs rest : List Char}
    (h : afterStart? ps cs = some rest) : cs = ps ++ rest := by
  induction ps generalizing cs with
  | nil => simpa [afterStart?] using h
  | cons p ps ih =>
    cases cs with
    | nil => simp [afterStart?] at h
    | cons c cs =>
      simp only [afterStart?] at h
      split at h
      · next hpc => rw [hpc, ih h]; rfl
      · cases h

/-- The rest behind a start is what stands there. -/
theorem afterStart?_eq_some_iff {ps cs rest : List Char} :
    afterStart? ps cs = some rest ↔ cs = ps ++ rest :=
  ⟨eq_append_of_afterStart?, fun h => h ▸ afterStart?_append ps rest⟩

/-- The rest of a text is what follows its start, if it has that start. -/
theorem dropStart?_eq (start s : String) : dropStart? start s =
    if start.toList <+: s.toList then some (String.ofList (s.toList.drop start.toList.length))
    else none := by
  rw [dropStart?]
  cases hrest : afterStart? start.toList s.toList with
  | some rest =>
    have hs : s.toList = start.toList ++ rest := afterStart?_eq_some_iff.1 hrest
    rw [if_pos ⟨rest, hs.symm⟩, hs, List.drop_left]
    rfl
  | none =>
    have hnone : ¬start.toList <+: s.toList := by
      rintro ⟨rest, hs⟩
      rw [afterStart?_eq_some_iff.2 hs.symm] at hrest
      cases hrest
    rw [if_neg hnone]
    rfl

/-- A list begins with another one when it has it as a prefix. -/
theorem beginsWith_iff {part cs : List Char} : beginsWith part cs = true ↔ part <+: cs := by
  rw [beginsWith, Option.isSome_iff_exists]
  simp only [afterStart?_eq_some_iff]
  exact exists_congr fun rest => eq_comm

/-- A list occurs in another one when it is a consecutive part of it. -/
theorem containsChars_iff {part cs : List Char} : containsChars part cs = true ↔ part <:+: cs := by
  induction cs with
  | nil => simp [containsChars]
  | cons c cs ih =>
    rw [containsChars, Bool.or_eq_true, beginsWith_iff, ih, List.infix_cons_iff]

end InteractiveBook.Text
