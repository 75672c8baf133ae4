import Mathlib.Data.List.Basic

/-!
# Lines cut into sections

Where some lines open a section, a list of lines is cut before each of these into a lead and
sections that have one such line each, in one way only.
-/

namespace InteractiveBook.Source

/-- A heading and the lines up to the next one. -/
structure Section where
  /-- The line that opens the section. -/
  heading : String
  /-- The lines below it. -/
  body : List String
  deriving DecidableEq, Repr

/-- Lines cut before each line that opens a section: a lead without such lines, and sections with
one of them each. -/
structure IsCutAt (Opens : String → Prop) (ls lead : List String) (sections : List Section) :
    Prop where
  /-- Nothing is lost and nothing moves. -/
  whole : lead ++ sections.flatMap (fun s => s.heading :: s.body) = ls
  /-- A section begins with a line that opens one. -/
  headings : ∀ s ∈ sections, Opens s.heading
  /-- No line of the lead opens a section. -/
  lead_plain : ∀ line ∈ lead, ¬Opens line
  /-- No other line of a section opens one. -/
  body_plain : ∀ s ∈ sections, ∀ line ∈ s.body, ¬Opens line

/-- The cut of a list of lines, from its end. -/
def cutAt (Opens : String → Prop) [DecidablePred Opens] : List String → List String × List Section
  | [] => ([], [])
  | line :: rest =>
    let (lead, sections) := cutAt Opens rest
    if Opens line then ([], ⟨line, lead⟩ :: sections) else (line :: lead, sections)

variable {Opens : String → Prop} {ls lead : List String} {sections : List Section} {line : String}

/-- An opening line in front ends the lead and makes it the body of a section. -/
theorem IsCutAt.cons_opens (h : IsCutAt Opens ls lead sections) (hline : Opens line) :
    IsCutAt Opens (line :: ls) [] (⟨line, lead⟩ :: sections) where
  whole := by simpa using h.whole
  headings := by simpa [hline] using h.headings
  lead_plain := by simp
  body_plain := by simpa using ⟨h.lead_plain, h.body_plain⟩

/-- Any other line in front belongs to the lead. -/
theorem IsCutAt.cons_plain (h : IsCutAt Opens ls lead sections) (hline : ¬Opens line) :
    IsCutAt Opens (line :: ls) (line :: lead) sections where
  whole := by simpa using h.whole
  headings := h.headings
  lead_plain := by simpa [hline] using h.lead_plain
  body_plain := h.body_plain

/-- A cut of a list that starts with an opening line has no lead, and its first section is cut
off. -/
theorem IsCutAt.of_cons_opens (h : IsCutAt Opens (line :: ls) lead sections) (hline : Opens line) :
    lead = [] ∧ ∃ body rest, sections = ⟨line, body⟩ :: rest ∧ IsCutAt Opens ls body rest := by
  have hlead : lead = [] := by
    cases lead with
    | nil => rfl
    | cons l lead =>
      have hl : l = line := (List.cons.inj h.whole).1
      exact absurd (hl ▸ hline) (h.lead_plain l (by simp))
  refine ⟨hlead, ?_⟩
  subst hlead
  cases sections with
  | nil => simpa using h.whole
  | cons s rest =>
    obtain ⟨hs, hrest⟩ : s.heading = line ∧
        s.body ++ rest.flatMap (fun s => s.heading :: s.body) = ls := by
      simpa using h.whole
    refine ⟨s.body, rest, by rw [← hs], hrest, ?_, ?_, ?_⟩
    · exact fun r hr => h.headings r (by simp [hr])
    · exact h.body_plain s (by simp)
    · exact fun r hr => h.body_plain r (by simp [hr])

/-- A cut of a list that starts with any other line has that line in its lead. -/
theorem IsCutAt.of_cons_plain (h : IsCutAt Opens (line :: ls) lead sections)
    (hline : ¬Opens line) : ∃ tail, lead = line :: tail ∧ IsCutAt Opens ls tail sections := by
  cases lead with
  | nil =>
    cases sections with
    | nil => simpa using h.whole
    | cons s rest =>
      have hs : s.heading = line := (List.cons.inj h.whole).1
      exact absurd (hs ▸ h.headings s (by simp)) hline
  | cons l tail =>
    obtain ⟨hl, htail⟩ := List.cons.inj h.whole
    refine ⟨tail, by rw [hl], htail, h.headings, ?_, h.body_plain⟩
    exact fun r hr => h.lead_plain r (by simp [hr])

variable [DecidablePred Opens]

/-- An opening line opens the first section. -/
theorem cutAt_opens (hline : Opens line) : cutAt Opens (line :: ls) =
    ([], ⟨line, (cutAt Opens ls).1⟩ :: (cutAt Opens ls).2) := by
  simp [cutAt, hline]

/-- Any other line is the first of the lead. -/
theorem cutAt_plain (hline : ¬Opens line) : cutAt Opens (line :: ls) =
    (line :: (cutAt Opens ls).1, (cutAt Opens ls).2) := by
  simp [cutAt, hline]

/-- The lines can be cut in one way. -/
theorem isCutAt_iff : IsCutAt Opens ls lead sections ↔ (lead, sections) = cutAt Opens ls := by
  induction ls generalizing lead sections with
  | nil =>
    constructor
    · intro h
      obtain ⟨hlead, hsections⟩ := List.append_eq_nil_iff.1 h.whole
      have hnone : sections = [] := by
        cases sections with
        | nil => rfl
        | cons s rest => simp at hsections
      rw [hlead, hnone, cutAt]
    · rintro ⟨⟩
      constructor <;> simp
  | cons line ls ih =>
    have hcut : IsCutAt Opens ls (cutAt Opens ls).1 (cutAt Opens ls).2 := ih.2 rfl
    by_cases hline : Opens line
    · rw [cutAt_opens hline]
      constructor
      · intro h
        obtain ⟨hlead, body, rest, hsections, htail⟩ := h.of_cons_opens hline
        rw [hlead, hsections, ← ih.1 htail]
      · rintro ⟨⟩
        exact hcut.cons_opens hline
    · rw [cutAt_plain hline]
      constructor
      · intro h
        obtain ⟨tail, hlead, htail⟩ := h.of_cons_plain hline
        rw [hlead, ← ih.1 htail]
      · rintro ⟨⟩
        exact hcut.cons_plain hline

/-- The parts of the cut are the only ones into which the lines can be cut. -/
theorem isCutAt_cutAt_iff (ls : List String) (lead : List String) (sections : List Section) :
    IsCutAt Opens ls lead sections ↔ lead = (cutAt Opens ls).1 ∧ sections = (cutAt Opens ls).2 := by
  rw [isCutAt_iff, Prod.ext_iff]

end InteractiveBook.Source
