import InteractiveBook.Content.Build
import Mathlib.Data.List.Forall2

/-!
# The column of a chapter

Whatever supply the identifiers come from, a chapter becomes a column with its title that has one
item for each block, and a single item when it has no blocks. A block that has a library becomes an
accordion of texts or a leaf of its type. The text that stands for a block whose library is missing
can be told from all of these, so that the items of a column show which blocks were replaced.
-/

namespace InteractiveBook.Content

open Library Source

variable {α β : Type} {P Q : α → Prop}

/-- What holds of every result of building, from whatever supply and wherever in it. -/
def Yields (P : α → Prop) (d : Draw α) : Prop := ∀ ids n, P (ReaderT.run d ids n).1

/-- A result that is not drawn for. -/
theorem yields_pure {a : α} (h : P a) : Yields P (pure a) := fun _ _ => h

/-- What holds of the second result, because of what holds of the first one. -/
theorem Yields.bind {R : β → Prop} {d : Draw α} {f : α → Draw β} (hd : Yields P d)
    (hf : ∀ a, P a → Yields R (f a)) : Yields R (d >>= f) := by
  intro ids n
  exact hf _ (hd ids n) ids (ReaderT.run d ids n).2

/-- A weaker statement holds of the results, too. -/
theorem Yields.mono {d : Draw α} (hd : Yields P d) (hPQ : ∀ a, P a → Q a) : Yields Q d :=
  fun ids n => hPQ _ (hd ids n)

/-- Nothing is said of results that are not looked at. -/
theorem yields_true (d : Draw α) : Yields (fun _ => True) d := fun _ _ => trivial

/-- The results of a list are related to its members one by one. -/
theorem yields_mapM {R : α → β → Prop} {f : α → Draw β} (xs : List α)
    (h : ∀ x, Yields (R x) (f x)) : Yields (List.Forall₂ R xs) (xs.mapM f) := by
  induction xs with
  | nil => exact yields_pure .nil
  | cons x xs ih =>
    rw [List.mapM_cons]
    refine (h x).bind fun y hxy => ?_
    exact ih.bind fun ys hxys => yields_pure (.cons hxy hxys)

/-- What is related one by one has in common what holds of each of its members. -/
theorem forall_mem_of_forall₂ {P : β → Prop} {xs : List α} {ys : List β}
    (h : List.Forall₂ (fun _ y => P y) xs ys) : ∀ y ∈ ys, P y := by
  induction h with
  | nil => simp
  | cons hy _ ih => exact List.forall_mem_cons.2 ⟨hy, ih⟩

/-- The items of a column; no other object has any. -/
def ContentObject.items : ContentObject → List ContentObject
  | .column _ items => items
  | _ => []

/-- Whether an object is the text that stands for a block whose library is missing. -/
def isFallback (ctx : BuildContext) (b : Block) : ContentObject → Bool
  | .leaf info (.text html) =>
    info.library = ctx.textLibrary ∧ info.title = b.kind.label ++ " (library missing)" ∧
      html = fallbackHtml ctx b
  | _ => false

/-- A leaf is built with its library, its title and its parameters. -/
theorem yields_newLeaf (library : LibraryId) (title : String) (contentType : ContentType)
    (params : LeafParams) :
    Yields (fun o => ∃ id, o = .leaf (.new library id title contentType) params)
      (newLeaf library title contentType params) :=
  (yields_true drawId).bind fun id _ => yields_pure ⟨id, rfl⟩

/-- What a block is built as with a library. -/
inductive IsBuilt (ctx : BuildContext) (library : LibraryId) (b : Block) : ContentObject → Prop
  /-- A leaf whose parameters are of the type of the block; those of prose are its HTML. -/
  | leaf (id : SubContentId) (title : String) (params : LeafParams)
      (htype : params.contentType = ContentType.ofBlockKind b.kind)
      (hprose : b.kind = .text → title = "Text" ∧ params = .text (ctx.html b.source)) :
      IsBuilt ctx library b (.leaf (.new library id title params.contentType) params)
  /-- An accordion with a rendered text in each of its panels. -/
  | accordion (id : SubContentId) (panels : List (String × ContentObject))
      (hkind : b.kind = .accordion)
      (hpanels : ∀ p ∈ panels, ∃ id title markdown, p.2 =
        .leaf (.new ctx.textLibrary id title .text) (.text (ctx.html markdown))) :
      IsBuilt ctx library b (.accordion (.new library id "Accordion" .accordion) panels "h2")

/-- How a panel is built: its title stands on the panel and on the text in it, which is the body,
rendered and prepared. -/
structure IsPanelOf (ctx : BuildContext) (p : Panel) (built : String × ContentObject) : Prop where
  /-- The title stands on the panel. -/
  title : built.1 = p.title
  /-- The panel holds a text of the same title. -/
  content : ∃ id, built.2 =
    .leaf (.new ((ctx.libraries.get .text).getD ⟨"H5P.AdvancedText", 1, 1⟩) id p.title .text)
      (.text (Html.postprocess (ctx.render ("\n".intercalate p.body))))

/-- The panels of an accordion are built one by one. -/
theorem forall₂_yields_buildPanels (ctx : BuildContext) (panels : List Panel) :
    Yields (List.Forall₂ (IsPanelOf ctx) panels) (buildPanels ctx panels) := by
  refine yields_mapM panels fun p => ?_
  refine (yields_newLeaf _ _ _ _).bind fun content hcontent => yields_pure ?_
  obtain ⟨id, rfl⟩ := hcontent
  exact ⟨rfl, id, rfl⟩

/-- There is a rendered text in each panel of an accordion. -/
theorem yields_buildPanels (ctx : BuildContext) (panels : List Panel) :
    Yields (fun built => ∀ p ∈ built, ∃ id title markdown, p.2 =
      .leaf (.new ctx.textLibrary id title .text) (.text (ctx.html markdown)))
      (buildPanels ctx panels) := by
  refine (forall₂_yields_buildPanels ctx panels).mono fun built hbuilt => ?_
  refine forall_mem_of_forall₂ (hbuilt.imp fun p q hq => ?_)
  obtain ⟨id, hid⟩ := hq.content
  exact ⟨id, p.title, "\n".intercalate p.body, hid⟩

/-- A block becomes what it is built as: an accordion becomes one, and any other block a leaf. -/
theorem yields_buildWith (ctx : BuildContext) (library : LibraryId) (b : Block) :
    Yields (IsBuilt ctx library b) (buildWith ctx library b) := by
  -- The type in the metadata is written out beside the parameters, and has to be theirs.
  have hleaf : ∀ title contentType params, params.contentType = contentType →
      contentType = ContentType.ofBlockKind b.kind →
      (b.kind = .text → title = "Text" ∧ params = .text (ctx.html b.source)) →
        Yields (IsBuilt ctx library b) (newLeaf library title contentType params) := by
    rintro title _ params rfl htype hprose
    refine (yields_newLeaf library title _ params).mono fun o ho => ?_
    obtain ⟨id, rfl⟩ := ho
    exact .leaf id title params htype hprose
  have hother : ∀ title contentType params, params.contentType = contentType →
      contentType = ContentType.ofBlockKind b.kind → b.kind ≠ .text →
        Yields (IsBuilt ctx library b) (newLeaf library title contentType params) :=
    fun title contentType params hparams htype hkind =>
      hleaf title contentType params hparams htype fun htext => absurd htext hkind
  rw [buildWith]
  cases hkind : b.kind with
  | text => exact hleaf "Text" _ _ rfl (by rw [hkind]; rfl) fun _ => ⟨rfl, rfl⟩
  | accordion =>
    refine (yields_buildPanels ctx _).bind fun panels hpanels => ?_
    exact (yields_true drawId).bind fun id _ => yields_pure (.accordion id panels hkind hpanels)
  | quiz =>
    refine (yields_true _).bind fun choices _ => ?_
    exact hother "Quiz" _ _ rfl (by rw [hkind]; rfl) (by simp [hkind])
  | image => exact hother _ _ _ rfl (by rw [hkind]; rfl) (by simp [hkind])
  | video => exact hother "Video" _ _ rfl (by rw [hkind]; rfl) (by simp [hkind])
  | fillBlanks => exact hother "Fill in the blanks" _ _ rfl (by rw [hkind]; rfl) (by simp [hkind])
  | dragWords => exact hother "Drag the words" _ _ rfl (by rw [hkind]; rfl) (by simp [hkind])

/-- What is built with a library has that library. -/
theorem IsBuilt.library {ctx : BuildContext} {library : LibraryId} {b : Block}
    {o : ContentObject} (h : IsBuilt ctx library b o) : o.info.library = library := by
  cases h <;> rfl

/-- What is built with a library is of the type of its block. -/
theorem IsBuilt.shape {ctx : BuildContext} {library : LibraryId} {b : Block} {o : ContentObject}
    (h : IsBuilt ctx library b o) : o.shape = ContentType.ofBlockKind b.kind := by
  cases h with
  | leaf id title params htype hprose => exact htype
  | accordion id panels hkind hpanels => rw [hkind]; rfl

/-- Only prose becomes a text, its HTML. -/
theorem IsBuilt.prose {ctx : BuildContext} {library : LibraryId} {b : Block} {info : ObjectInfo}
    {html : String} (h : IsBuilt ctx library b (.leaf info (.text html))) :
    b.kind = .text ∧ info.title = "Text" ∧ html = ctx.html b.source := by
  have hkind : b.kind = .text := by
    have hshape : ContentType.text = ContentType.ofBlockKind b.kind := h.shape
    revert hshape
    cases b.kind <;> simp [ContentType.ofBlockKind]
  cases h with
  | leaf id title params htype hprose =>
    obtain ⟨htitle, hparams⟩ := hprose hkind
    exact ⟨hkind, htitle, LeafParams.text.inj hparams⟩

/-- The text that stands for a block is known as such. -/
theorem yields_buildFallback (ctx : BuildContext) (b : Block) :
    Yields (fun o => isFallback ctx b o = true) (buildFallback ctx b) := by
  refine (yields_newLeaf _ _ _ _).mono fun o ho => ?_
  obtain ⟨id, rfl⟩ := ho
  simp [isFallback, ObjectInfo.new]

/-- What is built with a library is never taken for a text that stands for a block: the title of
prose is another one. -/
theorem IsBuilt.isFallback {ctx : BuildContext} {library : LibraryId} {b : Block}
    {o : ContentObject} (h : IsBuilt ctx library b o) : isFallback ctx b o = false := by
  cases o with
  | column info items => rfl
  | accordion info panels tag => rfl
  | leaf info params =>
    cases params with
    | text html =>
      obtain ⟨hkind, htitle, -⟩ := h.prose
      have hother : "Text" ≠ BlockKind.text.label ++ " (library missing)" := by decide
      simp [Content.isFallback, hkind, htitle, hother]
    | _ => rfl

/-- A block is replaced exactly when the table has no library for it. -/
theorem yields_buildBlock (ctx : BuildContext) (b : Block) :
    Yields (fun o => isFallback ctx b o = (blockLibrary? ctx b).isNone) (buildBlock ctx b) := by
  rw [buildBlock, buildBlock?]
  cases blockLibrary? ctx b with
  | none => exact yields_buildFallback ctx b
  | some library => exact (yields_buildWith ctx library b).mono fun o ho => ho.isFallback

/-- How a chapter and its column go together. -/
structure IsColumnOf (ctx : BuildContext) (c : DecodedChapter) (o : ContentObject) : Prop where
  /-- The chapter becomes a column. -/
  shape : o.shape = .column
  /-- The column has the title of the chapter. -/
  title : o.info.title = c.title
  /-- There is an item for each block, or a single one. -/
  count : o.items.length = if c.blocks.length = 0 then 1 else c.blocks.length
  /-- The items show which blocks were replaced. -/
  marks : ∀ p ∈ c.blocks.zip o.items, isFallback ctx p.1 p.2 = (blockLibrary? ctx p.1).isNone

/-- The items of a chapter are as many as its blocks, and show which of these were replaced. -/
theorem yields_buildItems (ctx : BuildContext) (blocks : List Block) :
    Yields (fun items => items.length = (if blocks.length = 0 then 1 else blocks.length) ∧
      ∀ p ∈ blocks.zip items, isFallback ctx p.1 p.2 = (blockLibrary? ctx p.1).isNone)
      (buildItems ctx blocks) := by
  cases blocks with
  | nil => exact (yields_true _).bind fun item _ => yields_pure ⟨rfl, by simp⟩
  | cons b blocks =>
    refine (yields_mapM (b :: blocks) (yields_buildBlock ctx)).mono fun items hitems => ?_
    exact ⟨hitems.length_eq.symm, fun p hp => (List.forall₂_iff_zip.1 hitems).2 hp⟩

/-- A chapter becomes its column. -/
theorem yields_buildChapter (ctx : BuildContext) (c : DecodedChapter) :
    Yields (IsColumnOf ctx c) (buildChapter ctx c) := by
  refine (yields_buildItems ctx c.blocks).bind fun items hitems => ?_
  exact (yields_true drawId).bind fun id _ => yields_pure ⟨rfl, rfl, hitems.1, hitems.2⟩

/-- What relates each chapter to what it becomes relates the chapters of a book to what they become,
whether they are built in turn or independently of each other. -/
theorem forall₂_buildChapters_of_yields {ctx : BuildContext}
    {R : DecodedChapter → ContentObject → Prop} (h : ∀ c, Yields (R c) (buildChapter ctx c))
    (chapters : List DecodedChapter) (parallel : Bool) (lanes : IdLanes) :
    List.Forall₂ R chapters (buildChapters ctx chapters parallel lanes) := by
  rw [buildChapters]
  cases parallel with
  | false => exact yields_mapM chapters h (lanes 0) 0
  | true =>
    rw [if_pos rfl, buildApart, List.forall₂_map_right_iff]
    have hfst : chapters.zipIdx.map Prod.fst = chapters := List.zipIdx_map_fst 0 chapters
    rw [← hfst, List.forall₂_map_left_iff, hfst, List.forall₂_same]
    intro p _
    exact h p.1 (lanes p.2) 0

/-- The chapters of a book become their columns in order. -/
theorem forall₂_buildChapters (ctx : BuildContext) (chapters : List DecodedChapter)
    (parallel : Bool) (lanes : IdLanes) :
    List.Forall₂ (IsColumnOf ctx) chapters (buildChapters ctx chapters parallel lanes) :=
  forall₂_buildChapters_of_yields (yields_buildChapter ctx) chapters parallel lanes

end InteractiveBook.Content
