import InteractiveBook.Source.Chapter
import InteractiveBook.Proofs.Source.Sections
import InteractiveBook.Proofs.Text.Lines

/-!
# The chapters of a source are its sections

The lines of a source are cut before each heading into a lead and sections, in one way only. The
chapters are the lead and the sections that have a title or something to read, in order and with
their lines verbatim, so that no line with something to read is lost or comes twice.
-/

namespace InteractiveBook.Source

/-- A line that opens a section: it starts with a number sign and a space. -/
def IsHeading (line : String) : Prop := "# ".toList <+: line.toList

instance : DecidablePred IsHeading := fun line =>
  inferInstanceAs (Decidable ("# ".toList <+: line.toList))

/-- The title of a section: what follows the number sign and the space, trimmed. -/
def Section.title (s : Section) : String := Text.trim (String.ofList (s.heading.toList.drop 2))

/-- Lines cut before each heading: a lead without headings, and sections with one heading each. -/
structure IsCut (ls lead : List String) (sections : List Section) : Prop where
  /-- Nothing is lost and nothing moves. -/
  whole : lead ++ sections.flatMap (fun s => s.heading :: s.body) = ls
  /-- A section opens with a heading. -/
  headings : ∀ s ∈ sections, IsHeading s.heading
  /-- The lead has no heading. -/
  lead_plain : ∀ line ∈ lead, ¬IsHeading line
  /-- A section has no second heading. -/
  body_plain : ∀ s ∈ sections, ∀ line ∈ s.body, ¬IsHeading line

/-- A body with nothing to read: all its characters are white space. -/
def IsBlankBody (body : List String) : Prop :=
  ∀ line ∈ body, ∀ c ∈ line.toList, Text.isWhiteSpace c = true

instance : DecidablePred IsBlankBody := fun body =>
  inferInstanceAs (Decidable (∀ line ∈ body, ∀ c ∈ line.toList, Text.isWhiteSpace c = true))

/-- The chapter of the lead, if there is something to read in it. -/
def introduction? (lead : List String) : Option Chapter :=
  if IsBlankBody lead then none else some ⟨"Introduction", lead⟩

/-- The chapter of a section, unless it has neither a title nor something to read. -/
def Section.chapter? (s : Section) : Option Chapter :=
  if s.title ≠ "" then some ⟨s.title, s.body⟩
  else if IsBlankBody s.body then none
  else some ⟨"Untitled", s.body⟩

/-- The chapters that a cut leaves. -/
def keptChapters (lead : List String) (sections : List Section) : List Chapter :=
  (introduction? lead).toList ++ sections.filterMap Section.chapter?

/-- The cut of a list of lines, from its end. -/
def cutLines : List String → List String × List Section
  | [] => ([], [])
  | line :: rest =>
    let (lead, sections) := cutLines rest
    if IsHeading line then ([], ⟨line, lead⟩ :: sections) else (line :: lead, sections)

section Cut

variable {ls lead : List String} {sections : List Section} {line : String}

/-- A heading opens the first section. -/
theorem cutLines_heading (hline : IsHeading line) :
    cutLines (line :: ls) = ([], ⟨line, (cutLines ls).1⟩ :: (cutLines ls).2) := by
  simp [cutLines, hline]

/-- Any other line is the first of the lead. -/
theorem cutLines_plain (hline : ¬IsHeading line) :
    cutLines (line :: ls) = (line :: (cutLines ls).1, (cutLines ls).2) := by
  simp [cutLines, hline]

/-- The cut before headings is a cut of lines into sections. -/
theorem isCut_iff_isCutAt : IsCut ls lead sections ↔ IsCutAt IsHeading ls lead sections :=
  ⟨fun h => ⟨h.whole, h.headings, h.lead_plain, h.body_plain⟩,
    fun h => ⟨h.whole, h.headings, h.lead_plain, h.body_plain⟩⟩

/-- The cut before headings is found as that of any lines that open sections. -/
theorem cutLines_eq (ls : List String) : cutLines ls = cutAt IsHeading ls := by
  induction ls with
  | nil => rfl
  | cons line ls ih => rw [cutLines, cutAt, ih]

/-- The lines can be cut in one way. -/
theorem isCut_iff : IsCut ls lead sections ↔ (lead, sections) = cutLines ls := by
  rw [isCut_iff_isCutAt, isCutAt_iff, cutLines_eq]

end Cut

/-- The title on a line is that of the section it opens. -/
theorem headingTitle?_eq (line : String) (body : List String) :
    headingTitle? line = if IsHeading line then some (Section.title ⟨line, body⟩) else none := by
  rw [headingTitle?, Text.dropStart?_eq, apply_ite (Option.map Text.trim)]
  rfl

/-- A blank block has a blank body. -/
theorem isBlank_iff (b : Block) : b.isBlank = true ↔ IsBlankBody b.lines := by
  simp [Block.isBlank, IsBlankBody, Text.isBlank]

/-- A chapter has content when there is something to read in it. -/
theorem hasContent_iff (title : String) (body : List String) :
    (Chapter.mk title body).hasContent = true ↔ ¬IsBlankBody body := by
  simp [Chapter.hasContent, IsBlankBody, Text.isBlank]

/-- A lead is kept when there is something to read in it. -/
theorem pushChapter_lead (chapters : List Chapter) (lead : List String) :
    pushChapter chapters ⟨introductionTitle, lead⟩ true =
      chapters ++ (introduction? lead).toList := by
  have hcontent := hasContent_iff introductionTitle lead
  rw [pushChapter, introduction?, if_pos rfl]
  by_cases hblank : IsBlankBody lead
  · rw [if_pos hblank, if_neg (by simp [hcontent, hblank]), Option.toList_none, List.append_nil]
  · rw [if_neg hblank, if_pos (hcontent.2 hblank)]
    rfl

/-- A section is kept when it has a title or there is something to read in it. -/
theorem pushChapter_section (chapters : List Chapter) (s : Section) :
    pushChapter chapters ⟨s.title, s.body⟩ false = chapters ++ s.chapter?.toList := by
  have hcontent := hasContent_iff s.title s.body
  rw [pushChapter, Section.chapter?, if_neg Bool.false_ne_true]
  dsimp only
  by_cases htitle : s.title ≠ ""
  · rw [if_pos htitle, if_pos htitle]
    rfl
  · rw [if_neg htitle, if_neg htitle]
    by_cases hblank : IsBlankBody s.body
    · rw [if_pos hblank, if_neg (by simp [hcontent, hblank]), Option.toList_none,
        List.append_nil]
    · rw [if_neg hblank, if_pos (hcontent.2 hblank)]
      rfl

namespace Splitting

variable {line : String}

/-- A heading finishes the chapter in progress and opens that of its section. -/
theorem step_heading (h : IsHeading line) (s : Splitting) (body : List String) :
    s.step line = ⟨s.finish, .empty (Section.title ⟨line, body⟩), false⟩ := by
  rw [step, headingTitle?_eq line body, if_pos h]

/-- Any other line is added to the chapter in progress. -/
theorem step_plain (h : ¬IsHeading line) (s : Splitting) :
    s.step line = { s with current := s.current.pushLine line } := by
  rw [step, headingTitle?_eq line [], if_neg h]

/-- The lines up to the next heading are added to the chapter in progress, and the chapters of the
sections behind them follow. -/
theorem finish_foldl_step (ls : List String) (chapters : List Chapter) (c : Chapter)
    (implicit : Bool) :
    (ls.foldl step ⟨chapters, c, implicit⟩).finish =
      pushChapter chapters (c.withLines (c.bodyLines ++ (cutLines ls).1)) implicit ++
        (cutLines ls).2.filterMap Section.chapter? := by
  induction ls generalizing chapters c implicit with
  | nil => simp [cutLines, Chapter.withLines, finish]
  | cons line ls ih =>
    rw [List.foldl_cons]
    by_cases hline : IsHeading line
    · have hopened := pushChapter_section (finish ⟨chapters, c, implicit⟩)
        ⟨line, (cutLines ls).1⟩
      rw [step_heading hline _ (cutLines ls).1, ih, Chapter.withLines, Chapter.empty,
        List.nil_append, hopened, cutLines_heading hline, finish, Chapter.withLines,
        List.append_nil, List.append_assoc, List.filterMap_cons]
      cases Section.chapter? ⟨line, (cutLines ls).1⟩ <;> rfl
    · rw [step_plain hline, ih, cutLines_plain hline, Chapter.withLines, Chapter.withLines,
        Chapter.pushLine, List.append_assoc, List.singleton_append]

end Splitting

/-- The chapters of a source are those of the cut of its lines. -/
theorem chaptersOf_eq (source : String) :
    chaptersOf source =
      keptChapters (cutLines (Text.lines (Text.normalizeLineEndings source))).1
        (cutLines (Text.lines (Text.normalizeLineEndings source))).2 := by
  have hlead := pushChapter_lead [] (cutLines (Text.lines (Text.normalizeLineEndings source))).1
  rw [List.nil_append] at hlead
  rw [chaptersOf, Splitting.start, Splitting.finish_foldl_step, keptChapters, ← hlead,
    Chapter.withLines, Chapter.empty, List.nil_append]

/-- The lines of a list in which there is something to read. -/
def readable (ls : List String) : List String := ls.filter fun line => ¬IsBlankBody [line]

/-- There is nothing to read in a blank body. -/
theorem readable_of_isBlankBody {body : List String} (h : IsBlankBody body) :
    readable body = [] := by
  rw [readable, List.filter_eq_nil_iff]
  intro line hline
  simpa [IsBlankBody] using h line hline

/-- What can be read in two lists of lines is what can be read in either. -/
theorem readable_append (xs ys : List String) :
    readable (xs ++ ys) = readable xs ++ readable ys := List.filter_append _ _

/-- A lead that is dropped has nothing to read. -/
theorem readable_introduction? (lead : List String) :
    readable ((introduction? lead).toList.flatMap Chapter.bodyLines) = readable lead := by
  rw [introduction?]
  split
  · next hblank => rw [readable_of_isBlankBody hblank]; rfl
  · simp

/-- A section that is dropped has nothing to read below its heading. -/
theorem readable_chapter? (s : Section) :
    readable (s.chapter?.toList.flatMap Chapter.bodyLines) = readable s.body := by
  rw [Section.chapter?]
  split
  · simp
  · split
    · next hblank => rw [readable_of_isBlankBody hblank]; rfl
    · simp

/-- What can be read below the headings can be read in the chapters. -/
theorem readable_filterMap_chapter? (sections : List Section) :
    readable ((sections.filterMap Section.chapter?).flatMap Chapter.bodyLines) =
      readable (sections.flatMap Section.body) := by
  induction sections with
  | nil => rfl
  | cons s rest ih =>
    have hs := readable_chapter? s
    rw [List.flatMap_cons, readable_append, ← ih, ← hs]
    cases hc : s.chapter? with
    | none => simp [hc, readable]
    | some c => simp [hc, readable_append]

/-- Without its headings a cut is its lead and its bodies. -/
theorem IsCut.filter_plain {ls lead : List String} {sections : List Section}
    (h : IsCut ls lead sections) :
    ls.filter (fun line => ¬IsHeading line) = lead ++ sections.flatMap Section.body := by
  have hplain (body : List String) (hbody : ∀ line ∈ body, ¬IsHeading line) :
      body.filter (fun line => ¬IsHeading line) = body := by
    rw [List.filter_eq_self]
    simpa using hbody
  have hsection : ∀ s ∈ sections,
      (s.heading :: s.body).filter (fun line => ¬IsHeading line) = s.body := by
    intro s hs
    rw [List.filter_cons_of_neg (by simpa using h.headings s hs)]
    exact hplain s.body (h.body_plain s hs)
  rw [← h.whole, List.filter_append, hplain lead h.lead_plain, List.filter_flatMap]
  rw [List.flatMap_congr hsection]

/-- Nothing that can be read is lost or comes twice in the chapters of a cut. -/
theorem readable_keptChapters {ls lead : List String} {sections : List Section}
    (h : IsCut ls lead sections) :
    readable ((keptChapters lead sections).flatMap Chapter.bodyLines) =
      readable (ls.filter fun line => ¬IsHeading line) := by
  rw [keptChapters, List.flatMap_append, readable_append, readable_introduction?,
    readable_filterMap_chapter?, h.filter_plain, readable_append]

/-- A source is split into exactly the chapters that the cut of its lines leaves: its lines are
cut before each heading, what stands before the first one is the introduction and every other
piece is titled by its heading. -/
theorem splitChapters_exact (source : String) :
    ∃ ls lead sections,
      (∀ ls', Text.IsLines (Text.normalizeLineEndings source) ls' ↔ ls' = ls) ∧
      (∀ lead' sections', IsCut ls lead' sections' ↔ lead' = lead ∧ sections' = sections) ∧
      splitChapters source =
        (if keptChapters lead sections = [] then .error .noChaptersFound
          else .ok (keptChapters lead sections)) ∧
      readable ((keptChapters lead sections).flatMap Chapter.bodyLines) =
        readable (ls.filter fun line => ¬IsHeading line) := by
  have hlines (ls' : List String) : Text.IsLines (Text.normalizeLineEndings source) ls' ↔
      ls' = Text.lines (Text.normalizeLineEndings source) := Text.isLines_iff
  have hchapters := chaptersOf_eq source
  generalize Text.lines (Text.normalizeLineEndings source) = ls at hlines hchapters
  have huniq (lead' : List String) (sections' : List Section) :
      IsCut ls lead' sections' ↔ (lead', sections') = cutLines ls := isCut_iff
  rcases hparts : cutLines ls with ⟨lead, sections⟩
  rw [hparts] at hchapters
  have hcut : IsCut ls lead sections := (huniq lead sections).2 hparts.symm
  refine ⟨ls, lead, sections, hlines, ?_, ?_, readable_keptChapters hcut⟩
  · intro lead' sections'
    rw [huniq, hparts, Prod.mk.injEq]
  · rw [splitChapters, hchapters]
    cases keptChapters lead sections with
    | nil => rfl
    | cons c rest => rfl

/-- A blank untitled section is dropped, one with a title is kept. -/
example : (splitChapters "pre\r\n# A\nx\n#  \n\n# B").toOption =
    some [⟨"Introduction", ["pre"]⟩, ⟨"A", ["x"]⟩, ⟨"B", []⟩] := by
  decide +kernel

end InteractiveBook.Source
