import InteractiveBook.Compiler
import InteractiveBook.Proofs.Content.Column
import InteractiveBook.Proofs.Content.Walk
import InteractiveBook.Proofs.Package.Template

/-!
# Books are well typed

In a book that is built the parameters of every object, its metadata and its library belong to one
content type. A chapter is a column, what it holds is neither a column nor holds anything but texts
in the panels of an accordion, and no text is blank. All this holds for every renderer, also for
one that renders nothing.
-/

namespace InteractiveBook.Content

open Library Source

/-- The library that objects of a content type carry where the table has none. -/
def builtInLibrary? : ContentType → Option LibraryId
  | .text => some ⟨"H5P.AdvancedText", 1, 1⟩
  | .column => some ⟨"H5P.Column", 1, 18⟩
  | _ => none

/-- The library that objects of a content type carry: that of the table, and where the table has
none the built-in one. -/
def carriedLibrary? (table : LibraryTable) (t : ContentType) : Option LibraryId :=
  (table.get t).or (builtInLibrary? t)

/-- A text that is not blank: some character is no white space. -/
def IsReadable (html : String) : Prop := ∃ c ∈ html.toList, Text.isWhiteSpace c = false

/-- An object whose parts belong to one content type. -/
structure IsTyped (table : LibraryTable) (o : ContentObject) : Prop where
  /-- The metadata names the type of the parameters. -/
  contentType : o.info.contentType = o.shape
  /-- The library is the one for this type. -/
  library : carriedLibrary? table o.shape = some o.info.library
  /-- If the object is a text it is not blank. -/
  readable : ∀ info html, o = .leaf info (.text html) → IsReadable html

/-- What is true of every object below a chapter. -/
structure IsTypedItem (table : LibraryTable) (o : ContentObject) : Prop where
  /-- Its parts belong to one content type. -/
  typed : IsTyped table o
  /-- It is no column. -/
  shape : o.shape ≠ .column
  /-- If it holds further objects it is an accordion. -/
  accordion : o.children ≠ [] → o.shape = .accordion
  /-- What it holds are texts, each typed on its own. -/
  texts : ∀ child ∈ o.children, child.shape = .text ∧ IsTyped table child

/-- A chapter in which every object is well typed. -/
structure IsWellTyped (table : LibraryTable) (chapter : ContentObject) : Prop where
  /-- The chapter is a column. -/
  column : chapter.shape = .column
  /-- It holds some object. -/
  nonempty : chapter.children ≠ []
  /-- Wherever a walk goes, parameters, metadata and library belong to one content type and texts
  are not blank. -/
  typed : ∀ o ∈ chapter.walk, IsTyped table o
  /-- Below the chapter there is no column. -/
  below : ∀ o ∈ chapter.walk.tail, o.shape ≠ .column
  /-- Below the chapter only accordions hold objects. -/
  accordions : ∀ o ∈ chapter.walk.tail, o.children ≠ [] → o.shape = .accordion
  /-- Below the chapter the objects that are held are texts. -/
  texts : ∀ o ∈ chapter.walk.tail, ∀ child ∈ o.children, child.shape = .text

variable {ctx : BuildContext} {table : LibraryTable}

/-! ### From items to walks -/

/-- A text holds nothing. -/
theorem children_of_text {o : ContentObject} (h : o.shape = .text) : o.children = [] := by
  cases o with
  | column info items => cases h
  | accordion info panels tag => cases h
  | leaf info params => rfl

/-- A typed text is a typed item. -/
theorem IsTyped.item_of_text {o : ContentObject} (h : IsTyped table o) (hshape : o.shape = .text) :
    IsTypedItem table o := by
  have hchildren := children_of_text hshape
  refine ⟨h, by simp [hshape], fun hne => absurd hchildren hne, ?_⟩
  simp [hchildren]

/-- Everything that a walk over a typed item goes to is a typed item. -/
theorem IsTypedItem.forall_mem_walk {o : ContentObject} (h : IsTypedItem table o) :
    ∀ inner ∈ o.walk, IsTypedItem table inner := by
  refine ContentObject.forall_mem_walk (fun outer houter child hchild => ?_) h
  obtain ⟨hshape, htyped⟩ := houter.texts child hchild
  exact htyped.item_of_text hshape

/-- A typed column of typed items is a well-typed chapter. -/
theorem isWellTyped_column {info : ObjectInfo} {items : List ContentObject}
    (htyped : IsTyped table (.column info items)) (hne : items ≠ [])
    (hitems : ∀ item ∈ items, IsTypedItem table item) :
    IsWellTyped table (.column info items) := by
  have hwalk : (ContentObject.column info items).walk =
      .column info items :: items.flatMap ContentObject.walk :=
    ContentObject.walk_eq _
  have hbelow : ∀ o ∈ (ContentObject.column info items).walk.tail, IsTypedItem table o := by
    rw [hwalk]
    intro o ho
    obtain ⟨item, hitem, hmem⟩ := List.mem_flatMap.1 ho
    exact (hitems item hitem).forall_mem_walk o hmem
  refine ⟨rfl, hne, ?_, fun o ho => (hbelow o ho).shape, fun o ho => (hbelow o ho).accordion,
    fun o ho child hchild => ((hbelow o ho).texts child hchild).1⟩
  rw [hwalk] at hbelow ⊢
  exact List.forall_mem_cons.2 ⟨htyped, fun o ho => (hbelow o ho).typed⟩

/-- A leaf of the type of its parameters is a typed item unless it is a blank text. -/
theorem isTypedItem_leaf {info : ObjectInfo} {params : LeafParams}
    (htype : info.contentType = params.contentType)
    (hlibrary : carriedLibrary? table params.contentType = some info.library)
    (hreadable : ∀ html, params = .text html → IsReadable html) :
    IsTypedItem table (.leaf info params) := by
  have hchildren : (ContentObject.leaf info params).children = [] := rfl
  have hshape : (ContentObject.leaf info params).shape ≠ .column := by
    cases params <;> exact nofun
  refine ⟨⟨htype, hlibrary, ?_⟩, hshape, fun hne => absurd hchildren hne, ?_⟩
  · rintro other html h
    exact hreadable html (ContentObject.leaf.inj h).2
  · simp [hchildren]

/-- A typed accordion of typed texts is a typed item. -/
theorem isTypedItem_accordion {info : ObjectInfo} {panels : List (String × ContentObject)}
    (tag : String) (htype : info.contentType = .accordion)
    (hlibrary : carriedLibrary? table .accordion = some info.library)
    (hpanels : ∀ p ∈ panels, p.2.shape = .text ∧ IsTyped table p.2) :
    IsTypedItem table (.accordion info panels tag) := by
  have hreadable : ∀ other html,
      ContentObject.accordion info panels tag = .leaf other (.text html) → IsReadable html := by
    intro other html h
    cases h
  have hshape : (ContentObject.accordion info panels tag).shape ≠ .column := by
    intro h
    cases h
  refine ⟨⟨htype, hlibrary, hreadable⟩, hshape, fun _ => rfl, fun child hchild => ?_⟩
  obtain ⟨p, hp, rfl⟩ := List.mem_map.1 hchild
  exact hpanels p hp

/-! ### Texts -/

/-- Prepared HTML is not blank. -/
theorem isReadable_html (ctx : BuildContext) (markdown : String) :
    IsReadable (ctx.html markdown) := by
  rw [BuildContext.html, Html.postprocess, Html.nonEmpty]
  split
  · exact ⟨'<', by decide, by decide⟩
  · next hblank => simpa [Text.isBlank, IsReadable] using hblank

/-- The text that stands for a block is not blank. -/
theorem isReadable_fallbackHtml (ctx : BuildContext) (b : Block) :
    IsReadable (fallbackHtml ctx b) := by
  have hopening : '<' ∈ "<p><strong>[".toList := by decide
  refine ⟨'<', ?_, by decide⟩
  simp only [fallbackHtml, String.toList_append, List.mem_append, hopening, true_or]

/-- Texts carry the library for texts. -/
theorem carriedLibrary?_text (ctx : BuildContext) :
    carriedLibrary? ctx.libraries .text = some ctx.textLibrary := by
  rw [carriedLibrary?, BuildContext.textLibrary]
  cases ctx.libraries.get .text <;> rfl

/-- Columns carry the library for columns. -/
theorem carriedLibrary?_column (ctx : BuildContext) :
    carriedLibrary? ctx.libraries .column = some ctx.columnLibrary := by
  rw [carriedLibrary?, BuildContext.columnLibrary]
  cases ctx.libraries.get .column <;> rfl

/-- A text with the library for texts is a typed item unless it is blank. -/
theorem isTypedItem_text (ctx : BuildContext) (id : SubContentId) (title : String) {html : String}
    (h : IsReadable html) :
    IsTypedItem ctx.libraries (.leaf (.new ctx.textLibrary id title .text) (.text html)) := by
  refine isTypedItem_leaf rfl (carriedLibrary?_text ctx) fun other hother => ?_
  rw [← LeafParams.text.inj hother]
  exact h

/-! ### Building -/

/-- What is built with the library of the table is a typed item. -/
theorem IsBuilt.typed {library : LibraryId} {b : Block} {o : ContentObject}
    (h : IsBuilt ctx library b o) (hlibrary : blockLibrary? ctx b = some library) :
    IsTypedItem ctx.libraries o := by
  have hcarried : carriedLibrary? ctx.libraries (ContentType.ofBlockKind b.kind) = some library := by
    rw [blockLibrary?] at hlibrary
    rw [carriedLibrary?, hlibrary, Option.some_or]
  have hprose : ∀ info html, o = .leaf info (.text html) → IsReadable html := by
    rintro info html rfl
    obtain ⟨-, -, hhtml⟩ := h.prose
    rw [hhtml]
    exact isReadable_html ctx b.source
  cases h with
  | leaf id title params htype _ =>
    exact isTypedItem_leaf rfl (htype ▸ hcarried) fun html hhtml => hprose _ html (by rw [hhtml])
  | accordion id panels hkind hpanels =>
    rw [hkind] at hcarried
    refine isTypedItem_accordion _ rfl hcarried fun p hp => ?_
    obtain ⟨id, title, markdown, hcontent⟩ := hpanels p hp
    have htext := isTypedItem_text ctx id title (isReadable_html ctx markdown)
    rw [hcontent]
    exact ⟨rfl, htext.typed⟩

/-- A new text with the library for texts is a typed item unless it is blank. -/
theorem yields_newText_typed (ctx : BuildContext) (title : String) {html : String}
    (h : IsReadable html) :
    Yields (IsTypedItem ctx.libraries) (newText ctx.textLibrary title html) := by
  refine (yields_newLeaf _ _ _ _).mono fun o ho => ?_
  obtain ⟨id, rfl⟩ := ho
  exact isTypedItem_text ctx id title h

/-- The object of a block is a typed item, whether its library is missing or not. -/
theorem yields_buildBlock_typed (ctx : BuildContext) (b : Block) :
    Yields (IsTypedItem ctx.libraries) (buildBlock ctx b) := by
  rw [buildBlock, buildBlock?]
  cases hlibrary : blockLibrary? ctx b with
  | none => exact yields_newText_typed ctx _ (isReadable_fallbackHtml ctx b)
  | some library => exact (yields_buildWith ctx library b).mono fun o ho => ho.typed hlibrary

/-- The items of a chapter are typed, and there is at least one. -/
theorem yields_buildItems_typed (ctx : BuildContext) (blocks : List Block) :
    Yields (fun items => items ≠ [] ∧ ∀ item ∈ items, IsTypedItem ctx.libraries item)
      (buildItems ctx blocks) := by
  cases blocks with
  | nil =>
    have hblank : IsReadable Html.blankParagraph := ⟨'<', by decide, by decide⟩
    refine (yields_newText_typed ctx "Text" hblank).bind fun item hitem => ?_
    exact yields_pure ⟨List.cons_ne_nil _ _, by simpa using hitem⟩
  | cons b blocks =>
    have hbuild : ∀ block, Yields (IsTypedItem ctx.libraries) (buildBlock ctx block) :=
      yields_buildBlock_typed ctx
    refine (yields_mapM (b :: blocks) hbuild).mono fun items hitems => ?_
    refine ⟨?_, forall_mem_of_forall₂ hitems⟩
    rintro rfl
    cases hitems

/-- A chapter becomes a well-typed column. -/
theorem yields_buildChapter_typed (ctx : BuildContext) (c : DecodedChapter) :
    Yields (IsWellTyped ctx.libraries) (buildChapter ctx c) := by
  refine (yields_buildItems_typed ctx c.blocks).bind fun items hitems => ?_
  refine (yields_true drawId).bind fun id _ => yields_pure ?_
  exact isWellTyped_column ⟨rfl, carriedLibrary?_column ctx, nofun⟩ hitems.1 hitems.2

end InteractiveBook.Content

namespace InteractiveBook.Compiler

open Content Library Package Source

/-- The chapters that are built from a source are well typed, whatever the template, its libraries,
the renderer and the options. -/
theorem buildChapters_wellTyped {c : Compiler} {source : String} {lanes : IdLanes}
    {columns : List ContentObject} (h : c.buildChapters source lanes = .ok columns) :
    ∀ column ∈ columns, IsWellTyped c.libraries column := by
  rw [buildChapters, bind_eq_ok_iff] at h
  obtain ⟨chapters, -, hbuilt⟩ := h
  obtain rfl := Except.ok.inj hbuilt
  have hchapter : ∀ chapter, Yields (IsWellTyped c.libraries) (buildChapter c.context chapter) :=
    yields_buildChapter_typed c.context
  exact forall_mem_of_forall₂
    (forall₂_buildChapters_of_yields hchapter chapters c.options.parallel lanes)

/-- A compiler whose template has a library for accordions only, and whose renderer renders
everything as a blank. -/
def blankCompiler : Compiler :=
  let template : Template := ⟨ByteArray.empty, ⟨none, "H5P.InteractiveBook", []⟩,
    ["H5P.Accordion-1.0/library.json"]⟩
  { ofTemplate template {} with render := fun _ => " " }

/-- A source of a quiz beside an accordion, and a chapter without blocks. -/
def panelSource : String := "# A\n[ACCORDION]\n+++ P\nb\n[QUIZ]\n? q\n# B\n"

/-- The chapters of the source. -/
def panelChapters : List DecodedChapter :=
  [⟨"A", [⟨.accordion, ["+++ P", "b"]⟩, ⟨.quiz, ["? q"]⟩]⟩, ⟨"B", []⟩]

/-- The accordion is built with its panel, and the quiz and the chapter without blocks become
texts; all this is well typed. -/
theorem blankCompiler_wellTyped : ∃ columns,
    blankCompiler.buildChapters panelSource (.ofSeed 0) = .ok columns ∧
    (columns.map fun column => column.walk.map ContentObject.shape) =
      [[.column, .accordion, .text, .text], [.column, .text]] ∧
    ∀ column ∈ columns, IsWellTyped blankCompiler.libraries column := by
  have hbuilt : blankCompiler.buildChapters panelSource (.ofSeed 0) =
      .ok (Content.buildChapters blankCompiler.context panelChapters true (.ofSeed 0)) := by
    have hdecode : (decodeSource panelSource).toOption = some panelChapters := by decide +kernel
    rw [buildChapters, eq_ok_of_toOption hdecode]
    rfl
  exact ⟨_, hbuilt, by decide +kernel, buildChapters_wellTyped hbuilt⟩

end InteractiveBook.Compiler
