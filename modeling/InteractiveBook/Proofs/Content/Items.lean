import InteractiveBook.Proofs.Content.Column
import InteractiveBook.Proofs.Source.Chapters

/-!
# The items of a chapter come from its blocks

A chapter becomes a column whose items come from the blocks of the chapter, one from each and in
their order. An item is what its block is built as with the library that the table has for it.
Where the table has none, the item is a text that says so and goes on as prose with the same lines.
-/

namespace InteractiveBook.Content

open Library Source

variable {α β : Type} {ctx : BuildContext}

/-- Every member of a list is built on its own, from the same supply. -/
theorem forall₂_run_mapM (f : α → Draw β) (xs : List α) (ids : IdSource) (n : Nat) :
    List.Forall₂ (fun x y => ∃ k, (ReaderT.run (f x) ids k).1 = y) xs
      (ReaderT.run (xs.mapM f) ids n).1 := by
  induction xs generalizing n with
  | nil => exact .nil
  | cons x xs ih =>
    rw [List.mapM_cons]
    exact .cons ⟨n, rfl⟩ (ih (ReaderT.run (f x) ids n).2)

/-! ### Blocks without a library -/

/-- The notice that the library for blocks of a kind is missing. -/
def missingNotice (kind : BlockKind) : String :=
  "<p><strong>[" ++ kind.label ++ ": library missing]</strong></p>\n"

/-- The HTML that lines become as prose: that of the text which a block of prose with these lines
is built as, whatever library it is built with. -/
def IsProse (ctx : BuildContext) (lines : List String) (html : String) : Prop :=
  ∀ library, Yields (fun o => ∃ info, o = .leaf info (.text html))
    (buildWith ctx library ⟨.text, lines⟩)

/-- The text that stands for a block whose library is missing: a notice, and below it the lines of
the block as prose unless they are blank. -/
def IsStandIn (ctx : BuildContext) (b : Block) (o : ContentObject) : Prop :=
  ∃ id html, IsProse ctx b.lines html ∧
    o = .leaf (.new ((ctx.libraries.get .text).getD ⟨"H5P.AdvancedText", 1, 1⟩) id
        (b.kind.label ++ " (library missing)") .text)
      (.text (missingNotice b.kind ++ if IsBlankBody b.lines then "" else html))

/-- Lines become their joined text, rendered. -/
theorem isProse_html (ctx : BuildContext) (lines : List String) :
    IsProse ctx lines (ctx.html (Text.joinLines lines)) := by
  intro library
  refine (yields_newLeaf _ _ _ _).mono fun o ho => ?_
  obtain ⟨id, rfl⟩ := ho
  exact ⟨_, rfl⟩

/-- No label of a kind has characters with a meaning in HTML. -/
theorem escape_label (kind : BlockKind) : Html.escape kind.label = kind.label := by
  cases kind <;> decide +kernel

/-- A missing library is noticed before the lines of the block. -/
theorem fallbackHtml_eq (ctx : BuildContext) (b : Block) :
    fallbackHtml ctx b =
      missingNotice b.kind ++ if IsBlankBody b.lines then "" else ctx.html b.source := by
  rw [fallbackHtml, escape_label, missingNotice]
  simp only [isBlank_iff]

/-- A block whose library is missing becomes the text that stands for it. -/
theorem yields_buildFallback_standIn (ctx : BuildContext) (b : Block) :
    Yields (IsStandIn ctx b) (buildFallback ctx b) := by
  refine (yields_newLeaf _ _ _ _).mono fun o ho => ?_
  obtain ⟨id, rfl⟩ := ho
  exact ⟨id, ctx.html b.source, isProse_html ctx b.lines, by rw [fallbackHtml_eq]; rfl⟩

/-! ### Columns -/

/-- How an item comes from a block, with identifiers from a supply. -/
def IsItemOf (ctx : BuildContext) (ids : IdSource) (b : Block) (o : ContentObject) : Prop :=
  match ctx.libraries.get (ContentType.ofBlockKind b.kind) with
  | some library =>
    (∃ n, (ReaderT.run (buildWith ctx library b) ids n).1 = o) ∧ o.info.library = library ∧
      o.shape = ContentType.ofBlockKind b.kind
  | none => IsStandIn ctx b o

/-- How a column comes from a chapter, with identifiers from a supply. -/
structure IsAssembled (ctx : BuildContext) (ids : IdSource) (c : DecodedChapter)
    (o : ContentObject) : Prop where
  /-- The chapter becomes a column. -/
  shape : o.shape = .column
  /-- The column has the title of the chapter. -/
  title : o.info.title = c.title
  /-- The column has some item. -/
  nonempty : o.items ≠ []
  /-- The items come from the blocks, one from each and in their order. -/
  items : c.blocks ≠ [] → List.Forall₂ (IsItemOf ctx ids) c.blocks o.items
  /-- Without blocks there is one text, a paragraph with a no-break space. -/
  placeholder : c.blocks = [] → ∃ id, o.items =
    [.leaf (.new ((ctx.libraries.get .text).getD ⟨"H5P.AdvancedText", 1, 1⟩) id "Text" .text)
      (.text "<p>&nbsp;</p>")]

/-- What a block is built as is an item of it. -/
theorem isItemOf_run (ctx : BuildContext) (ids : IdSource) (b : Block) (n : Nat) :
    IsItemOf ctx ids b (ReaderT.run (buildBlock ctx b) ids n).1 := by
  rw [IsItemOf, buildBlock, buildBlock?, blockLibrary?]
  cases ctx.libraries.get (ContentType.ofBlockKind b.kind) with
  | some library =>
    have hbuilt := yields_buildWith ctx library b ids n
    exact ⟨⟨n, rfl⟩, hbuilt.library, hbuilt.shape⟩
  | none => exact yields_buildFallback_standIn ctx b ids n

/-- The items of a chapter that has blocks come from them. -/
theorem forall₂_buildItems {blocks : List Block} (h : blocks ≠ []) (ids : IdSource) (n : Nat) :
    List.Forall₂ (IsItemOf ctx ids) blocks (ReaderT.run (buildItems ctx blocks) ids n).1 := by
  obtain ⟨b, rest, rfl⟩ := List.exists_cons_of_ne_nil h
  refine (forall₂_run_mapM (buildBlock ctx) (b :: rest) ids n).imp fun b o ho => ?_
  obtain ⟨k, rfl⟩ := ho
  exact isItemOf_run ctx ids b k

/-- A chapter becomes the column that comes from it. -/
theorem buildChapter_assembled (ctx : BuildContext) (c : DecodedChapter) (ids : IdSource)
    (n : Nat) : IsAssembled ctx ids c (ReaderT.run (buildChapter ctx c) ids n).1 := by
  have hitems : (ReaderT.run (buildChapter ctx c) ids n).1.items =
      (ReaderT.run (buildItems ctx c.blocks) ids n).1 := rfl
  have hblocks : c.blocks ≠ [] → List.Forall₂ (IsItemOf ctx ids) c.blocks
      (ReaderT.run (buildItems ctx c.blocks) ids n).1 := fun h => forall₂_buildItems h ids n
  have hplaceholder : c.blocks = [] → ∃ id, (ReaderT.run (buildItems ctx c.blocks) ids n).1 =
      [.leaf (.new ((ctx.libraries.get .text).getD ⟨"H5P.AdvancedText", 1, 1⟩) id "Text" .text)
        (.text "<p>&nbsp;</p>")] := by
    intro h
    rw [h]
    exact ⟨ids n, rfl⟩
  refine ⟨rfl, rfl, ?_, hitems ▸ hblocks, hitems ▸ hplaceholder⟩
  rw [hitems]
  intro hnil
  by_cases h : c.blocks = []
  · obtain ⟨id, hid⟩ := hplaceholder h
    rw [hid] at hnil
    cases hnil
  · have hnone := hblocks h
    rw [hnil, List.forall₂_nil_right_iff] at hnone
    exact h hnone

end InteractiveBook.Content
