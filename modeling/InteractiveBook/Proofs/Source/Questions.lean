import InteractiveBook.Proofs.Source.Sections
import InteractiveBook.Source.BlockPart

/-!
# The questions of a quiz are its sections

The lines of a quiz are cut before each question into a lead and sections. The questions are the
sections in order, and the lead is dropped. Of the lines below a question only the answers count:
the right ones come first, the last of them in front, and the wrong ones follow in source order.
-/

namespace InteractiveBook.Source

/-- A line that starts with a mark after white space. -/
def IsMarked (mark : Char) (line : String) : Prop := [mark] <+: (Text.trim line).toList

instance (mark : Char) : DecidablePred (IsMarked mark) := fun line =>
  inferInstanceAs (Decidable ([mark] <+: (Text.trim line).toList))

/-- What follows the mark of a line, trimmed. -/
def markedText (line : String) : String :=
  Text.trim (String.ofList ((Text.trim line).toList.drop 1))

/-- The texts of the lines with a mark, in order. -/
def textsMarked (mark : Char) (lines : List String) : List String :=
  (lines.filter fun line => IsMarked mark line).map markedText

/-- The question that a section asks. -/
def Section.question (s : Section) : Question where
  text := markedText s.heading
  answers := (textsMarked '*' s.body).reverse ++ textsMarked '-' s.body

/-- A question after further lines. -/
def Question.after (q : Question) (lines : List String) : Question :=
  { q with answers := (textsMarked '*' lines).reverse ++ q.answers ++ textsMarked '-' lines }

/-- What a line says is told by its mark. -/
theorem ofLine_eq (line : String) : QuizLine.ofLine line =
    if IsMarked '?' line then .question (markedText line)
    else if IsMarked '*' line then .right (markedText line)
    else if IsMarked '-' line then .wrong (markedText line)
    else .other := by
  simp only [QuizLine.ofLine, IsMarked, markedText, Text.trim, String.toList_ofList]
  cases Text.trimChars line.toList with
  | nil => simp
  | cons c cs =>
    by_cases hquestion : c = '?'
    · simp [hquestion]
    · by_cases hright : c = '*'
      · simp [hright]
      · by_cases hwrong : c = '-'
        · simp [hwrong]
        · simp [hquestion, hright, hwrong, Ne.symm]

section Line

variable {mark : Char} {line : String}

/-- A line with a mark has no other one. -/
theorem IsMarked.unique {mark' : Char} (h : IsMarked mark line) (h' : IsMarked mark' line) :
    mark' = mark := by
  obtain ⟨rest, hrest⟩ := h
  obtain ⟨rest', hrest'⟩ := h'
  rw [← hrest'] at hrest
  exact (List.cons.inj hrest).1.symm

/-- The text of a line with the mark comes first. -/
theorem textsMarked_cons_of_pos (h : IsMarked mark line) (lines : List String) :
    textsMarked mark (line :: lines) = markedText line :: textsMarked mark lines := by
  simp [textsMarked, h]

/-- Any other line counts for nothing. -/
theorem textsMarked_cons_of_neg (h : ¬IsMarked mark line) (lines : List String) :
    textsMarked mark (line :: lines) = textsMarked mark lines := by
  simp [textsMarked, h]

end Line

/-- A line that asks no question is one more line after the question in progress. -/
theorem after_cons {line : String} (h : ¬IsMarked '?' line) (q : Question) (lines : List String) :
    q.after (line :: lines) =
      Question.after { q with answers := addAnswer q.answers (QuizLine.ofLine line) } lines := by
  rw [ofLine_eq, if_neg h]
  by_cases hright : IsMarked '*' line
  · have hwrong : ¬IsMarked '-' line := fun hwrong => absurd (hright.unique hwrong) (by decide)
    simp [Question.after, addAnswer, hright, textsMarked_cons_of_pos,
      textsMarked_cons_of_neg hwrong]
  · by_cases hwrong : IsMarked '-' line
    · simp [Question.after, addAnswer, hright, hwrong, textsMarked_cons_of_pos hwrong,
        textsMarked_cons_of_neg hright]
    · simp [Question.after, addAnswer, hright, hwrong, textsMarked_cons_of_neg]

/-- Any line but a question may add an answer to the question in progress. -/
theorem questionsFrom_cons {l : QuizLine} (h : ∀ text, l ≠ .question text) (open? : Option Question)
    (rest : List QuizLine) : questionsFrom open? (l :: rest) =
      questionsFrom (open?.map fun q => { q with answers := addAnswer q.answers l }) rest := by
  cases l with
  | question text => exact absurd rfl (h text)
  | _ => rfl

/-- The question in progress ends with the lead of the remaining lines, and the questions of their
sections follow. -/
theorem questionsFrom_eq (open? : Option Question) (lines : List String) :
    questionsFrom open? (lines.map QuizLine.ofLine) =
      (open?.map fun q => q.after (cutAt (IsMarked '?') lines).1).toList ++
        (cutAt (IsMarked '?') lines).2.map Section.question := by
  induction lines generalizing open? with
  | nil => cases open? <;> simp [questionsFrom, cutAt, Question.after, textsMarked]
  | cons line lines ih =>
    rw [List.map_cons]
    by_cases hline : IsMarked '?' line
    · have hask : QuizLine.ofLine line = .question (markedText line) := by
        rw [ofLine_eq, if_pos hline]
      have hsection : (⟨markedText line, []⟩ : Question).after (cutAt (IsMarked '?') lines).1 =
          Section.question ⟨line, (cutAt (IsMarked '?') lines).1⟩ := by
        simp [Question.after, Section.question]
      have hopen : (open?.map fun q => q.after []).toList = open?.toList := by
        cases open? <;> simp [Question.after, textsMarked]
      rw [hask, questionsFrom, ih, cutAt_opens hline, hopen, List.map_cons, ← hsection]
      rfl
    · have hask : ∀ text, QuizLine.ofLine line ≠ .question text := by
        intro text hask
        rw [ofLine_eq, if_neg hline] at hask
        split at hask
        · cases hask
        · split at hask <;> cases hask
      rw [questionsFrom_cons hask, ih, cutAt_plain hline, Option.map_map]
      simp only [after_cons hline, Function.comp_def]

/-- The first answer is the right one that comes last. -/
theorem head?_answers {s : Section} {line : String}
    (h : line ∈ (s.body.filter fun line => IsMarked '*' line).getLast?) :
    s.question.answers.head? = some (markedText line) := by
  obtain ⟨front, hfront⟩ := List.getLast?_eq_some_iff.1 (Option.mem_def.1 h)
  simp [Section.question, textsMarked, hfront]

/-- The questions of a quiz are the sections into which its lines are cut before each question.
Below a question the right answers are put in front one after the other, so that the last of them
comes first, and the wrong ones follow in source order. -/
theorem parseQuestions_exact (ls : List String) :
    ∃ lead sections,
      (∀ lead' sections', IsCutAt (IsMarked '?') ls lead' sections' ↔
        lead' = lead ∧ sections' = sections) ∧
      parseQuestions ls = sections.map Section.question ∧
      ∀ s ∈ sections, ∀ line ∈ (s.body.filter fun line => IsMarked '*' line).getLast?,
        s.question.answers.head? = some (markedText line) := by
  refine ⟨_, _, isCutAt_cutAt_iff ls, ?_, fun s _ line hline => head?_answers hline⟩
  rw [parseQuestions, questionsFrom_eq]
  rfl

/-- A quiz with an answer before its first question, two right answers to it, and a line that says
nothing. -/
def mixedQuiz : List String :=
  ["* early", "? Sky?", "* grey", "see above", "- green", "  *blue", "?", "-"]

/-- The sections of the quiz. -/
def mixedSections : List Section :=
  [⟨"? Sky?", ["* grey", "see above", "- green", "  *blue"]⟩, ⟨"?", ["-"]⟩]

/-- Of the two right answers the one that comes last is the first answer. -/
theorem mixedQuiz_parsed : IsCutAt (IsMarked '?') mixedQuiz ["* early"] mixedSections ∧
    parseQuestions mixedQuiz = [⟨"Sky?", ["blue", "grey", "green"]⟩, ⟨"", [""]⟩] ∧
    ∃ s ∈ mixedSections, "  *blue" ∈ (s.body.filter fun line => IsMarked '*' line).getLast? ∧
      s.question.answers.head? = some "blue" := by
  obtain ⟨lead, sections, hcut, hparsed, hfirst⟩ := parseQuestions_exact mixedQuiz
  have hmixed : IsCutAt (IsMarked '?') mixedQuiz ["* early"] mixedSections :=
    isCutAt_iff.2 (by decide +kernel)
  obtain ⟨rfl, rfl⟩ := (hcut _ _).1 hmixed
  have hquestions : mixedSections.map Section.question =
    [⟨"Sky?", ["blue", "grey", "green"]⟩, ⟨"", [""]⟩] := by decide +kernel
  have hlast : "  *blue" ∈ (["* grey", "see above", "- green", "  *blue"].filter
      fun line => IsMarked '*' line).getLast? := by decide +kernel
  have htext : markedText "  *blue" = "blue" := by decide +kernel
  refine ⟨hmixed, hparsed.trans hquestions, _, List.mem_cons_self, hlast, ?_⟩
  rw [hfirst _ List.mem_cons_self _ hlast, htext]

end InteractiveBook.Source
