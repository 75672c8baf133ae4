import InteractiveBook.Compiler
import InteractiveBook.Proofs.Content.Sharing
import InteractiveBook.Proofs.Source.Joined

/-!
# Building joined sources

When a source is put together from two texts, and the second one starts with a heading, its columns
are those of the first text followed by those of the second one. What a chapter becomes does not
depend on the chapters around it but for the identifiers that it draws, so nothing but these can be
different.
-/

namespace InteractiveBook

open Content Package Source

namespace Content

/-! ### Books one behind the other -/

/-- The supplies of a book whose first chapters draw from some supplies and the others from other
supplies. -/
def IdLanes.append (count : Nat) (lanes lanes' : IdLanes) : IdLanes := fun lane =>
  if lane < count then lanes lane else lanes' (lane - count)

/-- Chapters that are built apart are built in two parts. -/
theorem buildApart_append (ctx : BuildContext) (front rest : List DecodedChapter)
    (lanes lanes' : IdLanes) :
    buildApart ctx (front ++ rest) (IdLanes.append front.length lanes lanes') =
      buildApart ctx front lanes ++ buildApart ctx rest lanes' := by
  have hlength : (buildApart ctx front lanes).length = front.length := by simp [buildApart]
  refine List.ext_getElem? fun i => ?_
  rw [getElem?_buildApart, List.getElem?_append, List.getElem?_append, hlength]
  split
  · next hless => rw [getElem?_buildApart, IdLanes.append, if_pos hless]
  · next hless => rw [getElem?_buildApart, IdLanes.append, if_neg hless]

/-- The chapters of two books are those of the joined book with their identifiers renamed, if none
of its identifiers comes twice. -/
theorem exists_renaming_append {ctx : BuildContext} {front rest : List DecodedChapter}
    {parallel : Bool} {lanes : IdLanes}
    (h : ((buildChapters ctx (front ++ rest) parallel lanes).flatMap ContentObject.ids).Nodup)
    (lanes₁ lanes₂ : IdLanes) : ∃ ρ : SubContentId → SubContentId,
      buildChapters ctx front parallel lanes₁ ++ buildChapters ctx rest parallel lanes₂ =
        (buildChapters ctx (front ++ rest) parallel lanes).map (·.rename ρ) := by
  rw [buildChapters_eq_buildApart] at h
  simp only [buildChapters_eq_buildApart, ← buildApart_append]
  exact exists_renaming_buildApart h _

end Content

namespace Compiler

/-- The columns of the chapters of a source; there are none where a source has no chapters. -/
def columns (c : Compiler) (source : String) (lanes : IdLanes) : List ContentObject :=
  match c.buildChapters source lanes with
  | .ok columns => columns
  | .error _ => []

/-- The columns of a source are built from its chapters. -/
theorem columns_eq (c : Compiler) (source : String) (lanes : IdLanes) :
    c.columns source lanes = Content.buildChapters c.context
      ((chaptersOf source).map Chapter.decode) c.options.parallel lanes := by
  rw [columns, Compiler.buildChapters, decodeSource, splitChapters]
  cases chaptersOf source with
  | nil => cases hparallel : c.options.parallel <;> rfl
  | cons chapter rest => rfl

/-- Building fails for want of chapters alone. -/
theorem buildChapters_eq (c : Compiler) (source : String) (lanes : IdLanes) :
    c.buildChapters source lanes =
      if c.columns source lanes = [] then .error .noChaptersFound
      else .ok (c.columns source lanes) := by
  have hlength := (forall₂_buildChapters c.context ((chaptersOf source).map Chapter.decode)
    c.options.parallel lanes).length_eq
  rw [columns_eq, Compiler.buildChapters, decodeSource, splitChapters]
  cases hchapters : chaptersOf source with
  | nil =>
    rw [hchapters] at hlength
    rw [if_pos (List.length_eq_zero_iff.1 hlength.symm)]
    rfl
  | cons chapter rest =>
    rw [hchapters] at hlength
    have hsome : Content.buildChapters c.context ((chapter :: rest).map Chapter.decode)
        c.options.parallel lanes ≠ [] := fun hnil => by
      rw [hnil] at hlength
      cases hlength
    rw [if_neg hsome]
    rfl

/-- Chapters are independent: behind a terminator a heading starts afresh, and the columns of a
source, in which no identifier comes twice, are those of the text before it followed by those of the
text from it on, up to a renaming of identifiers. No two of them get the same name when those of the
two texts are different. -/
theorem columns_append (c : Compiler) {front rest : String} (hfront : Text.IsClosed front)
    (hrest : StartsWithHeading rest) {lanes : IdLanes}
    (h : ((c.columns (front ++ rest) lanes).flatMap ContentObject.ids).Nodup)
    (lanes₁ lanes₂ : IdLanes) :
    (∀ source lanes, c.buildChapters source lanes =
      if c.columns source lanes = [] then .error .noChaptersFound
      else .ok (c.columns source lanes)) ∧
    ∃ ρ : SubContentId → SubContentId,
      c.columns front lanes₁ ++ c.columns rest lanes₂ =
        (c.columns (front ++ rest) lanes).map (·.rename ρ) ∧
      (((c.columns front lanes₁ ++ c.columns rest lanes₂).flatMap ContentObject.ids).Nodup →
        Set.InjOn ρ {id | id ∈ (c.columns (front ++ rest) lanes).flatMap ContentObject.ids}) := by
  refine ⟨buildChapters_eq c, ?_⟩
  rw [columns_eq, chaptersOf_append hfront hrest, List.map_append] at h
  obtain ⟨ρ, hρ⟩ := exists_renaming_append h lanes₁ lanes₂
  rw [← List.map_append, ← chaptersOf_append hfront hrest, ← columns_eq, ← columns_eq,
    ← columns_eq] at hρ
  exact ⟨ρ, hρ, fun hnodup => injOn_of_nodup_rename (hρ ▸ hnodup)⟩

/-- A compiler whose template has libraries for quizzes and accordions, and whose renderer changes
nothing. -/
def plainCompiler : Compiler :=
  let template : Template := ⟨ByteArray.empty, ⟨none, "H5P.InteractiveBook", []⟩,
    ["H5P.SingleChoiceSet-1.11/library.json", "H5P.Accordion-1.0/library.json"]⟩
  { ofTemplate template {} with render := id }

/-- A text that ends with an open question, and one whose first lines would be an answer to it. -/
theorem openQuiz_closed :
    let front := "[QUIZ]\n? q\r"
    let rest := "# B\r\n* a\n[ACCORDION]\n+++ P\n"
    let whole := plainCompiler.columns (front ++ rest) (.ofSeed 0)
    let parts := plainCompiler.columns front (.ofSeed 1) ++ plainCompiler.columns rest (.ofSeed 2)
    Text.IsClosed front ∧ StartsWithHeading rest ∧
      (whole.flatMap ContentObject.ids).Nodup ∧
      (whole.map fun o => (o.info.title, o.items.map ContentObject.shape)) =
        [("Introduction", [.singleChoiceSet]), ("B", [.text, .accordion])] ∧
      (parts.flatMap ContentObject.ids).Nodup ∧
      ∃ ρ : SubContentId → SubContentId, parts = whole.map (·.rename ρ) ∧
        Set.InjOn ρ {id | id ∈ whole.flatMap ContentObject.ids} := by
  intro front rest whole parts
  have hfront : Text.IsClosed "[QUIZ]\n? q\r" := by decide
  have hrest : StartsWithHeading "# B\r\n* a\n[ACCORDION]\n+++ P\n" := by decide
  have hwhole : (whole.flatMap ContentObject.ids).Nodup := by decide +kernel
  have hparts : (parts.flatMap ContentObject.ids).Nodup := by decide +kernel
  obtain ⟨-, ρ, hρ, hinjective⟩ :=
    columns_append plainCompiler hfront hrest hwhole (.ofSeed 1) (.ofSeed 2)
  exact ⟨hfront, hrest, hwhole, by decide +kernel, hparts, ρ, hρ, hinjective hparts⟩

end Compiler

end InteractiveBook
