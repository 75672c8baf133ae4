import InteractiveBook.Proofs.Text.Lines
import Mathlib.Data.List.Chain

/-!
# Line terminators

A line is terminated by a line feed, a carriage return, or both, and a text is read with line feeds
as its only terminators. Two texts can be normalized and cut into lines apart, unless the first one
ends with a carriage return and the second one starts with a line feed: these two are one
terminator. So the lines of a text are those that were written, whatever terminators they have.
-/

namespace InteractiveBook.Text

/-! ### Normalizing a text in parts -/

section Normalize

variable {c : Char} {cs front rest : List Char}

/-- What came before is put in front of what is replaced. -/
theorem joinReturns_append (later before cs : List Char) :
    joinReturns (later ++ before) cs = before.reverse ++ joinReturns later cs := by
  fun_induction joinReturns later cs with
  | case1 later cs ih => exact ih
  | case2 later c cs hsingle ih =>
    rw [joinReturns.eq_2 _ _ _ hsingle]
    exact ih
  | case3 later => rw [joinReturns, List.reverse_append]

/-- A character that is not a carriage return before a line feed stays at first. -/
theorem joinReturns_cons (h : c = '\r' → cs.head? ≠ some '\n') :
    joinReturns [] (c :: cs) = c :: joinReturns [] cs := by
  have hsingle : ∀ rest, c = '\r' → cs = '\n' :: rest → False := by
    rintro rest hc rfl
    exact h hc rfl
  rw [joinReturns.eq_2 _ _ _ hsingle]
  exact joinReturns_append [] [c] cs

/-- A carriage return vanishes before a line feed and becomes one elsewhere. -/
theorem normalizeChars_return (cs : List Char) : normalizeChars ('\r' :: cs) =
    if cs.head? = some '\n' then normalizeChars cs else '\n' :: normalizeChars cs := by
  rw [normalizeChars, normalizeChars]
  split
  · next hfeed =>
    -- The pair becomes a line feed, and so does the line feed alone.
    obtain ⟨rest, rfl⟩ := List.head?_eq_some_iff.1 hfeed
    have hpair : joinReturns [] ('\r' :: '\n' :: rest) = '\n' :: joinReturns [] rest :=
      joinReturns_append [] ['\n'] rest
    have hsingle : joinReturns [] ('\n' :: rest) = '\n' :: joinReturns [] rest :=
      joinReturns_cons nofun
    rw [hpair, hsingle]
  · next hfeed =>
    rw [joinReturns_cons fun _ => hfeed]
    rfl

/-- Any other character stays. -/
theorem normalizeChars_of_ne (h : c ≠ '\r') (cs : List Char) :
    normalizeChars (c :: cs) = c :: normalizeChars cs := by
  rw [normalizeChars, normalizeChars, joinReturns_cons fun hc => absurd hc h, List.map_cons,
    if_neg h]

/-- A text without carriage returns is normalized. -/
theorem normalizeChars_append_of_not_mem (h : '\r' ∉ front) (rest : List Char) :
    normalizeChars (front ++ rest) = front ++ normalizeChars rest := by
  induction front with
  | nil => rfl
  | cons c front ih =>
    obtain ⟨hc, hfront⟩ := List.ne_and_not_mem_of_not_mem_cons h
    rw [List.cons_append, normalizeChars_of_ne (Ne.symm hc), ih hfront, List.cons_append]

/-- Two texts are normalized apart, unless a carriage return and a line feed meet. -/
theorem normalizeChars_append (h : front.getLast? = some '\r' → rest.head? ≠ some '\n') :
    normalizeChars (front ++ rest) = normalizeChars front ++ normalizeChars rest := by
  induction front with
  | nil => rfl
  | cons c front ih =>
    by_cases hc : c = '\r'
    · subst hc
      cases front with
      | nil =>
        rw [List.singleton_append, normalizeChars_return, if_neg (h rfl)]
        rfl
      | cons d front =>
        have htail := ih h
        rw [List.cons_append, normalizeChars_return, htail, normalizeChars_return]
        -- Either way the first character behind the return is the same.
        by_cases hd : d = '\n' <;> simp [hd]
    · have htail : front.getLast? = some '\r' → rest.head? ≠ some '\n' := by
        intro hlast
        apply h
        rw [List.getLast?_cons, hlast, Option.getD_some]
      rw [List.cons_append, normalizeChars_of_ne hc, normalizeChars_of_ne hc, ih htail,
        List.cons_append]

/-- A text that ends in a terminator ends in a line feed when it is normalized. -/
theorem getLast?_normalizeChars (h : cs.getLast? = some '\n' ∨ cs.getLast? = some '\r') :
    (normalizeChars cs).getLast? = some '\n' := by
  rcases List.eq_nil_or_concat' cs with rfl | ⟨init, last, rfl⟩
  · simp at h
  rw [List.getLast?_concat, Option.some_inj, Option.some_inj] at h
  by_cases hmeet : init.getLast? = some '\r' ∧ last = '\n'
  · obtain ⟨hinit, rfl⟩ := hmeet
    obtain ⟨body, rfl⟩ : ∃ body, init = body ++ ['\r'] := List.getLast?_eq_some_iff.1 hinit
    have hpair : body.getLast? = some '\r' → ['\r', '\n'].head? ≠ some '\n' := by simp
    rw [List.append_assoc, List.singleton_append, normalizeChars_append hpair,
      List.getLast?_append]
    rfl
  · have hapart : init.getLast? = some '\r' → [last].head? ≠ some '\n' := by
      rintro hinit heq
      exact hmeet ⟨hinit, Option.some_inj.1 heq⟩
    have hlast : normalizeChars [last] = ['\n'] := by
      rcases h with rfl | rfl <;> rfl
    rw [normalizeChars_append hapart, hlast, List.getLast?_concat]

end Normalize

/-! ### The lines of a text in parts -/

/-- Behind a line feed a text is cut into lines apart. -/
theorem linesOfChars_append {front : List Char} (h : front = [] ∨ front.getLast? = some '\n')
    (rest : List Char) :
    linesOfChars (front ++ rest) = linesOfChars front ++ linesOfChars rest := by
  have hclosed : terminated (front ++ rest) = terminated front ++ terminated rest := by
    rw [terminated, terminated, terminated, if_pos h]
    by_cases hrest : rest = []
    · subst hrest
      rw [List.append_nil, if_pos h, if_pos (.inl rfl), List.append_nil]
    · have hlast : (front ++ rest).getLast? = rest.getLast? :=
        List.getLast?_append_of_ne_nil _ hrest
      simp only [hlast, List.append_eq_nil_iff, hrest, and_false, false_or]
      split <;> simp
  refine closePieces_injective (fun _ => not_mem_of_mem_linesOfChars) ?_ ?_
  · intro line hline
    rcases List.mem_append.1 hline with hline | hline <;> exact not_mem_of_mem_linesOfChars hline
  · rw [closePieces_linesOfChars, hclosed, closePieces, List.flatMap_append, ← closePieces,
      ← closePieces, closePieces_linesOfChars, closePieces_linesOfChars]

/-- The lines of a text, once its terminators are line feeds. -/
def sourceLines (s : String) : List String := lines (normalizeLineEndings s)

/-- A text that ends in a line terminator, or is empty. -/
def IsClosed (s : String) : Prop :=
  s = "" ∨ s.toList.getLast? = some '\n' ∨ s.toList.getLast? = some '\r'

instance : DecidablePred IsClosed := fun s =>
  inferInstanceAs
    (Decidable (s = "" ∨ s.toList.getLast? = some '\n' ∨ s.toList.getLast? = some '\r'))

/-- Behind a terminator a text that does not start with a line feed is cut into lines apart. -/
theorem sourceLines_append {front rest : String} (h : IsClosed front)
    (hrest : rest.toList.head? ≠ some '\n') :
    sourceLines (front ++ rest) = sourceLines front ++ sourceLines rest := by
  have hclosed : normalizeChars front.toList = [] ∨
      (normalizeChars front.toList).getLast? = some '\n' := by
    rcases h with rfl | h
    · exact .inl rfl
    · exact .inr (getLast?_normalizeChars h)
  simp only [sourceLines, lines, normalizeLineEndings, String.toList_ofList, String.toList_append]
  rw [normalizeChars_append fun _ => hrest, linesOfChars_append hclosed, List.map_append]

/-! ### Terminators of any kind -/

/-- How a line is terminated. -/
inductive LineEnd where
  /-- By a line feed. -/
  | lineFeed
  /-- By a carriage return and a line feed. -/
  | both
  /-- By a carriage return. -/
  | carriageReturn
  deriving DecidableEq, Repr

/-- The characters of a terminator. -/
def LineEnd.chars : LineEnd → List Char
  | lineFeed => ['\n']
  | both => ['\r', '\n']
  | carriageReturn => ['\r']

/-- A line without terminators in it. -/
def IsBare (line : String) : Prop := '\n' ∉ line.toList ∧ '\r' ∉ line.toList

instance : DecidablePred IsBare := fun line =>
  inferInstanceAs (Decidable ('\n' ∉ line.toList ∧ '\r' ∉ line.toList))

/-- The text of lines with a terminator behind each of them and of one more line that is left open,
if it is not empty. -/
def writeLines (ls : List (String × LineEnd)) (last : String) : String :=
  String.ofList (ls.flatMap (fun l => l.1.toList ++ l.2.chars) ++ last.toList)

/-- The line that is left open, if there is one. -/
def openLine (last : String) : List String := if last = "" then [] else [last]

/-- Terminators are told apart: after a carriage return there is no empty line with a line feed. -/
def AreApart (ls : List (String × LineEnd)) : Prop :=
  ls.IsChain fun l l' => l.2 = .carriageReturn → l' ≠ ("", .lineFeed)

instance : DecidablePred AreApart := fun ls =>
  inferInstanceAs
    (Decidable (ls.IsChain fun l l' => l.2 = .carriageReturn → l' ≠ ("", .lineFeed)))

section WriteLines

variable {ls : List (String × LineEnd)} {last : String}

/-- A terminator is normalized to a line feed, unless it is a carriage return before a line feed. -/
theorem normalizeChars_lineEnd (e : LineEnd) {rest : List Char}
    (h : e = .carriageReturn → rest.head? ≠ some '\n') :
    normalizeChars (e.chars ++ rest) = '\n' :: normalizeChars rest := by
  cases e with
  | lineFeed => exact normalizeChars_of_ne (by decide) rest
  | both =>
    have hpair : LineEnd.both.chars ++ rest = '\r' :: '\n' :: rest := rfl
    rw [hpair, normalizeChars_return, List.head?_cons, if_pos rfl,
      normalizeChars_of_ne (by decide)]
  | carriageReturn =>
    have hsingle : LineEnd.carriageReturn.chars ++ rest = '\r' :: rest := rfl
    rw [hsingle, normalizeChars_return, if_neg (h rfl)]

/-- The text of lines starts with a line feed only when the first line is empty and terminated by
one. -/
theorem head?_writeLines_ne (hlast : IsBare last)
    (hbare : ∀ l ∈ ls, IsBare l.1) (h : ls.head? ≠ some ("", .lineFeed)) :
    (writeLines ls last).toList.head? ≠ some '\n' := by
  have hline : ∀ line : String, IsBare line → line.toList.head? ≠ some '\n' :=
    fun line hline hhead => hline.1 (List.mem_of_mem_head? hhead)
  rw [writeLines, String.toList_ofList]
  cases ls with
  | nil => exact hline last hlast
  | cons l rest =>
    obtain ⟨line, e⟩ := l
    rw [List.flatMap_cons, List.append_assoc, List.append_assoc, List.head?_append]
    cases hhead : line.toList.head? with
    | some c =>
      rw [Option.some_or]
      exact hhead ▸ hline line (hbare (line, e) List.mem_cons_self)
    | none =>
      have hempty : line = "" := String.toList_eq_nil_iff.1 (List.head?_eq_none_iff.1 hhead)
      subst hempty
      cases e with
      | lineFeed => exact absurd rfl h
      | both => simp [LineEnd.chars]
      | carriageReturn => simp [LineEnd.chars]

/-- The text of lines is normalized to the lines with line feeds behind them. -/
theorem normalizeChars_writeLines (hbare : ∀ l ∈ ls, IsBare l.1) (hlast : IsBare last)
    (hapart : AreApart ls) : normalizeChars (writeLines ls last).toList =
      closePieces '\n' (ls.map fun l => l.1.toList) ++ last.toList := by
  induction ls with
  | nil =>
    have hopen := normalizeChars_append_of_not_mem hlast.2 []
    rw [List.append_nil] at hopen
    have hwritten : (writeLines [] last).toList = last.toList := by simp [writeLines]
    rw [hwritten, hopen]
    exact List.append_nil _
  | cons l rest ih =>
    obtain ⟨line, e⟩ := l
    obtain ⟨hline, hrest⟩ := List.forall_mem_cons.1 hbare
    obtain ⟨hnext, hapart⟩ := List.isChain_cons.1 hapart
    have hwritten : (writeLines ((line, e) :: rest) last).toList =
        line.toList ++ (e.chars ++ (writeLines rest last).toList) := by
      simp [writeLines]
    have hhead : e = .carriageReturn → (writeLines rest last).toList.head? ≠ some '\n' :=
      fun he => head?_writeLines_ne hlast hrest fun hfirst => hnext _ hfirst he rfl
    rw [hwritten, normalizeChars_append_of_not_mem hline.2, normalizeChars_lineEnd e hhead,
      ih hrest hapart]
    simp [closePieces]

/-- The lines of a text are those that were written, whatever terminators were chosen. -/
theorem sourceLines_writeLines (hbare : ∀ l ∈ ls, IsBare l.1) (hlast : IsBare last)
    (hapart : AreApart ls) :
    sourceLines (writeLines ls last) = ls.map Prod.fst ++ openLine last := by
  symm
  rw [sourceLines, ← isLines_iff]
  constructor
  case bare =>
    intro line hline
    rcases List.mem_append.1 hline with hline | hline
    · obtain ⟨l, hl, rfl⟩ := List.mem_map.1 hline
      exact (hbare l hl).1
    · rw [openLine] at hline
      split at hline
      · cases hline
      · exact List.mem_singleton.1 hline ▸ hlast.1
  case whole =>
    rw [normalizeLineEndings, String.toList_ofList, normalizeChars_writeLines hbare hlast hapart,
      List.map_append, List.map_map, openLine, terminated]
    by_cases hnone : last = ""
    · have hclosed := closePieces_eq_nil_or '\n' (ls.map fun l => l.1.toList)
      subst hnone
      rw [String.toList_empty, List.append_nil, if_pos hclosed]
      simp [Function.comp_def]
    · have hne : last.toList ≠ [] := fun h => hnone (String.toList_eq_nil_iff.1 h)
      have hopen : ¬(closePieces '\n' (ls.map fun l => l.1.toList) ++ last.toList = [] ∨
          (closePieces '\n' (ls.map fun l => l.1.toList) ++ last.toList).getLast? =
            some '\n') := by
        rw [List.getLast?_append_of_ne_nil _ hne]
        rintro (hnil | hend)
        · exact hne (List.append_eq_nil_iff.1 hnil).2
        · exact hlast.1 (List.mem_of_getLast? hend)
      rw [if_neg hnone, if_neg hopen]
      simp [closePieces, Function.comp_def]

end WriteLines

/-- The text of lines with a line feed behind each of them. -/
def feedLines (ls : List String) : String := writeLines (ls.map fun line => (line, .lineFeed)) ""

/-- Line feeds are told apart. -/
theorem areApart_lineFeed (ls : List String) : AreApart (ls.map fun line => (line, .lineFeed)) := by
  rw [AreApart, List.isChain_map]
  induction ls with
  | nil => exact .nil
  | cons line ls ih => exact ih.cons fun next _ hreturn => nomatch hreturn

/-- The lines of such a text are those that were written. -/
theorem sourceLines_feedLines {ls : List String} (h : ∀ line ∈ ls, IsBare line) :
    sourceLines (feedLines ls) = ls := by
  have hbare : ∀ l ∈ ls.map fun line => (line, LineEnd.lineFeed), IsBare l.1 := by simpa using h
  rw [feedLines, sourceLines_writeLines hbare (by simp [IsBare]) (areApart_lineFeed ls)]
  simp [openLine, Function.comp_def]

end InteractiveBook.Text
