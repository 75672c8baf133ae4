import InteractiveBook.Proofs.Source.Chapters
import Mathlib.Data.List.TakeWhile

/-!
# The spans of a chapter body

A chapter body is read as a row of spans: a tag line that goes back to prose, any other tag line
with all lines up to the next tag line, a line of prose that holds an image, and a run of other
lines of prose that is as long as it can be. Every body can be read in this way, and in one way
only.
-/

namespace InteractiveBook.Source

/-! ### Lines that mean something -/

/-- The tag under which a block of a kind is written. No tag announces an image, which is written
as prose. -/
def BlockKind.tag : BlockKind → String
  | text => "[TEXT]"
  | accordion => "[ACCORDION]"
  | quiz => "[QUIZ]"
  | image => "[TEXT]"
  | video => "[VIDEO]"
  | fillBlanks => "[FILL]"
  | dragWords => "[DRAG]"

/-- A line announces a kind when, trimmed, it is the tag of that kind. -/
def Announces (line : String) (kind : BlockKind) : Prop :=
  kind ≠ .image ∧ Text.trim line = kind.tag

/-- A tag line announces some kind. -/
def IsTag (line : String) : Prop := ∃ kind, Announces line kind

/-- A line holds an image and nothing else. -/
def HoldsImage (line : String) : Prop := (ImageLine.ofLine? line).isSome = true

/-- A line that stays in the prose before it. -/
def IsPlain (line : String) : Prop := ¬IsTag line ∧ ¬HoldsImage line

/-- What a line announces is what its tag is known for. -/
theorem announces_iff {line : String} {kind : BlockKind} :
    Announces line kind ↔ BlockKind.ofTag? line = some kind := by
  rw [Announces, BlockKind.ofTag?]
  split <;> cases kind <;> simp_all [BlockKind.tag]

/-- A line is a tag line when a kind is found for it. -/
theorem isTag_iff {line : String} : IsTag line ↔ (BlockKind.ofTag? line).isSome = true := by
  simp only [IsTag, announces_iff, Option.isSome_iff_exists]

/-- No kind is found for any other line. -/
theorem ofTag?_eq_none_iff {line : String} : BlockKind.ofTag? line = none ↔ ¬IsTag line := by
  rw [isTag_iff, Option.not_isSome_iff_eq_none]

instance : DecidablePred IsTag := fun _ => decidable_of_iff _ isTag_iff.symm

instance : DecidablePred HoldsImage := fun line =>
  inferInstanceAs (Decidable ((ImageLine.ofLine? line).isSome = true))

instance : DecidablePred IsPlain := fun line =>
  inferInstanceAs (Decidable (¬IsTag line ∧ ¬HoldsImage line))

/-- A tag line holds no image: an image begins with an exclamation mark. -/
theorem not_holdsImage_of_isTag {line : String} (h : IsTag line) : ¬HoldsImage line := by
  obtain ⟨kind, -, htag⟩ := h
  have hparts : ImageLine.parts? kind.tag.toList = none := by cases kind <;> rfl
  have htrim : Text.trimChars line.toList = kind.tag.toList := by
    rw [← htag, Text.trim, String.toList_ofList]
  simp [HoldsImage, ImageLine.ofLine?, htrim, hparts]

/-! ### Spans -/

/-- A stretch of a chapter body. -/
inductive Span where
  /-- A tag line that goes back to prose. -/
  | prose (tag : String)
  /-- Any other tag line, the kind that it announces, and the lines up to the next tag line. -/
  | tagged (tag : String) (kind : BlockKind) (body : List String)
  /-- A line of prose that holds an image. -/
  | image (line : String)
  /-- Lines of prose between tag lines and images. -/
  | run (lines : List String)
  deriving DecidableEq, Repr

namespace Span

/-- The lines of a span. -/
def lines : Span → List String
  | prose tag => [tag]
  | tagged tag _ body => tag :: body
  | image line => [line]
  | run lines => lines

/-- How a span stands before the lines behind it. A body below a tag ends before a tag line or
with the last line; a run ends before a tag line or an image or with the last line. -/
def Stands (rest : List String) : Span → Prop
  | prose tag => Announces tag .text
  | tagged tag kind body => Announces tag kind ∧ kind ≠ .text ∧ (∀ line ∈ body, ¬IsTag line) ∧
      ∀ line ∈ rest.head?, IsTag line
  | image line => HoldsImage line
  | run lines => lines ≠ [] ∧ (∀ line ∈ lines, IsPlain line) ∧ ∀ line ∈ rest.head?, ¬IsPlain line

end Span

/-- The ways to read a list of lines as a row of spans. -/
def IsReading : List String → List Span → Prop
  | ls, [] => ls = []
  | ls, span :: spans => ∃ rest, span.lines ++ rest = ls ∧ span.Stands rest ∧ IsReading rest spans

/-! ### The span that a line opens -/

section Stretch

variable {α : Type} {p : α → Bool} {front rest : List α}

/-- A stretch of a list that goes as far as a condition holds is found by the condition. -/
theorem takeWhile_stretch (hfront : ∀ x ∈ front, p x = true)
    (hrest : ∀ x ∈ rest.head?, p x = false) : (front ++ rest).takeWhile p = front := by
  rw [List.takeWhile_append_of_pos hfront]
  cases rest with
  | nil => simp
  | cons x rest =>
    have hx : p x = false := hrest x (by simp)
    simp [hx]

/-- Where the longest stretch ends the condition fails. -/
theorem head?_dropWhile_eq_false (xs : List α) : ∀ x ∈ (xs.dropWhile p).head?, p x = false := by
  intro x hx
  have hhead := List.head?_dropWhile_not p xs
  rw [Option.mem_def.1 hx] at hhead
  exact hhead

end Stretch

/-- The span that a line opens before the lines behind it. -/
def openSpan (line : String) (ls : List String) : Span :=
  match BlockKind.ofTag? line with
  | some kind =>
    if kind = .text then .prose line else .tagged line kind (ls.takeWhile fun l => ¬IsTag l)
  | none => if HoldsImage line then .image line else .run (line :: ls.takeWhile fun l => IsPlain l)

variable {span span' : Span} {rest rest' ls : List String} {line : String}
  {spans spans' : List Span}

/-- A tag line that goes back to prose is a span of its own. -/
theorem openSpan_prose (h : Announces line .text) : openSpan line ls = .prose line := by
  rw [openSpan, announces_iff.1 h]
  exact if_pos rfl

/-- Any other tag line takes the lines up to the next tag line. -/
theorem openSpan_tagged {kind : BlockKind} (h : Announces line kind) (hkind : kind ≠ .text) :
    openSpan line ls = .tagged line kind (ls.takeWhile fun l => ¬IsTag l) := by
  rw [openSpan, announces_iff.1 h]
  exact if_neg hkind

/-- A line that holds an image is a span of its own. -/
theorem openSpan_image (h : HoldsImage line) : openSpan line ls = .image line := by
  rw [openSpan, ofTag?_eq_none_iff.2 fun htag => not_holdsImage_of_isTag htag h]
  exact if_pos h

/-- Any other line of prose takes the lines of its run. -/
theorem openSpan_run (h : IsPlain line) :
    openSpan line ls = .run (line :: ls.takeWhile fun l => IsPlain l) := by
  rw [openSpan, ofTag?_eq_none_iff.2 h.1]
  exact if_neg h.2

/-- A span has a line. -/
theorem Span.Stands.lines_ne_nil (h : span.Stands rest) : span.lines ≠ [] := by
  cases span with
  | run lines => exact h.1
  | _ => exact List.cons_ne_nil _ _

/-- A span is the one that its first line opens. -/
theorem Span.Stands.eq_openSpan (h : span.Stands rest) (hls : span.lines ++ rest = line :: ls) :
    span = openSpan line ls := by
  cases span with
  | prose tag =>
    obtain ⟨rfl, rfl⟩ := List.cons.inj hls
    exact (openSpan_prose h).symm
  | tagged tag kind body =>
    obtain ⟨htag, hkind, hbody, hend⟩ := h
    rw [Span.lines, List.cons_append] at hls
    obtain ⟨rfl, rfl⟩ := List.cons.inj hls
    have htake : (body ++ rest).takeWhile (fun l => ¬IsTag l) = body :=
      takeWhile_stretch (by simpa using hbody) (by simpa using hend)
    rw [openSpan_tagged htag hkind, htake]
  | image image =>
    obtain ⟨rfl, rfl⟩ := List.cons.inj hls
    exact (openSpan_image h).symm
  | run lines =>
    obtain ⟨hne, hlines, hend⟩ := h
    cases lines with
    | nil => exact absurd rfl hne
    | cons first lines =>
      rw [Span.lines, List.cons_append] at hls
      obtain ⟨rfl, rfl⟩ := List.cons.inj hls
      obtain ⟨hfirst, hmore⟩ := List.forall_mem_cons.1 hlines
      have htake : (lines ++ rest).takeWhile (fun l => IsPlain l) = lines :=
        takeWhile_stretch (by simpa using hmore) (by simpa using hend)
      rw [openSpan_run hfirst, htake]

/-- The span that a line opens stands there. -/
theorem exists_stands_openSpan (line : String) (ls : List String) :
    ∃ rest, (openSpan line ls).lines ++ rest = line :: ls ∧ (openSpan line ls).Stands rest := by
  by_cases htag : IsTag line
  · obtain ⟨kind, hkind⟩ := htag
    by_cases htext : kind = .text
    · subst htext
      rw [openSpan_prose hkind]
      exact ⟨ls, rfl, hkind⟩
    · rw [openSpan_tagged hkind htext]
      refine ⟨ls.dropWhile fun l => ¬IsTag l, ?_, hkind, htext, fun l hl => ?_, fun l hl => ?_⟩
      · rw [Span.lines, List.cons_append, List.takeWhile_append_dropWhile]
      · simpa using List.mem_takeWhile_imp hl
      · simpa using head?_dropWhile_eq_false ls l hl
  · by_cases himage : HoldsImage line
    · rw [openSpan_image himage]
      exact ⟨ls, rfl, himage⟩
    · have hplain : IsPlain line := ⟨htag, himage⟩
      rw [openSpan_run hplain]
      refine ⟨ls.dropWhile fun l => IsPlain l, ?_, List.cons_ne_nil _ _,
        List.forall_mem_cons.2 ⟨hplain, fun l hl => ?_⟩, fun l hl => ?_⟩
      · rw [Span.lines, List.cons_append, List.takeWhile_append_dropWhile]
      · simpa using List.mem_takeWhile_imp hl
      · simpa using head?_dropWhile_eq_false ls l hl

/-! ### Readings -/

/-- Every list of lines can be read. -/
theorem exists_isReading (ls : List String) : ∃ spans, IsReading ls spans := by
  -- What a span leaves is shorter, but no tail of the lines that could be named beforehand.
  induction hn : ls.length using Nat.strong_induction_on generalizing ls with
  | _ n ih =>
    cases ls with
    | nil => exact ⟨[], rfl⟩
    | cons line ls =>
      obtain ⟨rest, hwhole, hspan⟩ := exists_stands_openSpan line ls
      have hpos := List.length_pos_iff.2 hspan.lines_ne_nil
      have hlength := congrArg List.length hwhole
      rw [List.length_append] at hlength
      have hless : rest.length < n := by omega
      obtain ⟨spans, hspans⟩ := ih rest.length hless rest rfl
      exact ⟨openSpan line ls :: spans, rest, hwhole, hspan, hspans⟩

/-- Two spans that begin the same lines are the same. -/
theorem Span.Stands.unique (h : span.Stands rest) (h' : span'.Stands rest')
    (hls : span.lines ++ rest = span'.lines ++ rest') : span' = span ∧ rest' = rest := by
  obtain ⟨line, more, hmore⟩ := List.exists_cons_of_ne_nil h.lines_ne_nil
  have hfirst : span.lines ++ rest = line :: (more ++ rest) := by rw [hmore, List.cons_append]
  have hspan : span' = span :=
    (h'.eq_openSpan (hls.symm.trans hfirst)).trans (h.eq_openSpan hfirst).symm
  subst hspan
  exact ⟨rfl, (List.append_cancel_left hls).symm⟩

/-- Lines can be read in one way only. -/
theorem IsReading.unique (h : IsReading ls spans) (h' : IsReading ls spans') : spans' = spans := by
  induction spans generalizing ls spans' with
  | nil =>
    have hnil : ls = [] := h
    cases spans' with
    | nil => rfl
    | cons span' spans' =>
      obtain ⟨rest', hwhole', hspan', -⟩ := h'
      rw [hnil] at hwhole'
      exact absurd (List.append_eq_nil_iff.1 hwhole').1 hspan'.lines_ne_nil
  | cons span spans ih =>
    obtain ⟨rest, hwhole, hspan, hspans⟩ := h
    cases spans' with
    | nil =>
      have hnil : ls = [] := h'
      rw [hnil] at hwhole
      exact absurd (List.append_eq_nil_iff.1 hwhole).1 hspan.lines_ne_nil
    | cons span' spans' =>
      obtain ⟨rest', hwhole', hspan', hspans'⟩ := h'
      obtain ⟨hsame, hrest⟩ := hspan.unique hspan' (hwhole.trans hwhole'.symm)
      rw [hrest] at hspans'
      rw [hsame, ih hspans hspans']

/-- The spans of a reading are the lines again. -/
theorem IsReading.flatMap_lines (h : IsReading ls spans) : spans.flatMap Span.lines = ls := by
  induction spans generalizing ls with
  | nil =>
    have hnil : ls = [] := h
    rw [hnil, List.flatMap_nil]
  | cons span spans ih =>
    obtain ⟨rest, hwhole, -, hspans⟩ := h
    rw [List.flatMap_cons, ih hspans, hwhole]

/-- A span of a reading stands before some lines. -/
theorem IsReading.exists_stands (h : IsReading ls spans) :
    ∀ span ∈ spans, ∃ rest, span.Stands rest := by
  induction spans generalizing ls with
  | nil => simp
  | cons span spans ih =>
    obtain ⟨rest, -, hspan, hspans⟩ := h
    exact List.forall_mem_cons.2 ⟨⟨rest, hspan⟩, ih hspans⟩

end InteractiveBook.Source
