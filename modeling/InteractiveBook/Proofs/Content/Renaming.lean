import InteractiveBook.Content.Build
import InteractiveBook.Proofs.Content.Walk
import Mathlib.Data.List.Forall2

/-!
# Renaming identifiers

Building draws its identifiers from a supply and does nothing else with them. From a renamed supply
it therefore draws the same objects with the identifiers renamed. The objects have a fixed shape: a
chapter is a column of blocks, and a block is a leaf or an accordion of leaves.
-/

namespace InteractiveBook.Content

open Library Source

variable {ρ : SubContentId → SubContentId}

/-- A question with its identifier renamed. -/
def Choice.rename (ρ : SubContentId → SubContentId) (c : Choice) : Choice := { c with id := ρ c.id }

/-- Parameters with the identifiers of their questions renamed. -/
def LeafParams.rename (ρ : SubContentId → SubContentId) : LeafParams → LeafParams
  | singleChoiceSet choices behaviour feedback =>
    singleChoiceSet (choices.map (Choice.rename ρ)) behaviour feedback
  | text html => text html
  | image name file alt decorative => image name file alt decorative
  | video v => video v
  | blanks task questions behaviour => blanks task questions behaviour
  | dragText task textField behaviour => dragText task textField behaviour

/-- What an object carries, with its identifier renamed. -/
def ObjectInfo.rename (ρ : SubContentId → SubContentId) (info : ObjectInfo) : ObjectInfo :=
  { info with id := ρ info.id }

namespace ContentObject

mutual

/-- An object with the identifiers in it renamed. -/
def rename (ρ : SubContentId → SubContentId) : ContentObject → ContentObject
  | column info items => column (info.rename ρ) (renameItems ρ items)
  | accordion info panels tag => accordion (info.rename ρ) (renamePanels ρ panels) tag
  | leaf info params => leaf (info.rename ρ) (params.rename ρ)

/-- The items of a column with the identifiers in them renamed. -/
def renameItems (ρ : SubContentId → SubContentId) : List ContentObject → List ContentObject
  | [] => []
  | item :: rest => item.rename ρ :: renameItems ρ rest

/-- The panels of an accordion with the identifiers in them renamed. -/
def renamePanels (ρ : SubContentId → SubContentId) :
    List (String × ContentObject) → List (String × ContentObject)
  | [] => []
  | (title, content) :: rest => (title, content.rename ρ) :: renamePanels ρ rest

end

/-- The items are renamed one by one. -/
theorem renameItems_eq_map (ρ : SubContentId → SubContentId) (items : List ContentObject) :
    renameItems ρ items = items.map (rename ρ) := by
  induction items with
  | nil => rfl
  | cons item rest ih => rw [renameItems, ih, List.map_cons]

/-- The panels are renamed one by one. -/
theorem renamePanels_eq_map (ρ : SubContentId → SubContentId)
    (panels : List (String × ContentObject)) :
    renamePanels ρ panels = panels.map fun p => (p.1, p.2.rename ρ) := by
  induction panels with
  | nil => rfl
  | cons p rest ih => rw [renamePanels, ih, List.map_cons]

/-! ### The identifiers of an object -/

/-- The identifiers of a column are its own and those of its items. -/
theorem ids_column (info : ObjectInfo) (items : List ContentObject) :
    (column info items).ids = info.id :: items.flatMap ids := by
  rw [ids, walk, walkItems_eq_flatMap, List.flatMap_cons, List.flatMap_assoc]
  rfl

/-- The identifiers of an accordion are its own and those in its panels. -/
theorem ids_accordion (info : ObjectInfo) (panels : List (String × ContentObject))
    (tag : String) :
    (accordion info panels tag).ids = info.id :: panels.flatMap fun p => p.2.ids := by
  rw [ids, walk, walkPanels_eq_flatMap, List.flatMap_cons, List.flatMap_assoc]
  rfl

/-- The identifiers of a leaf are its own and those of its questions. -/
theorem ids_leaf (info : ObjectInfo) (params : LeafParams) :
    (leaf info params).ids = info.id :: (leaf info params).choiceIds := by
  rw [ids, walk, List.flatMap_cons, List.flatMap_nil, List.append_nil]
  rfl

/-- The identifiers of an object are its own, those of its questions and those of the objects that
it holds. -/
theorem ids_eq (o : ContentObject) :
    o.ids = o.info.id :: (o.choiceIds ++ o.children.flatMap ids) := by
  rw [ids, walk_eq, List.flatMap_cons, List.flatMap_assoc, List.cons_append]
  rfl

/-- The objects that a renamed object holds are renamed. -/
theorem children_rename (ρ : SubContentId → SubContentId) (o : ContentObject) :
    (o.rename ρ).children = o.children.map (·.rename ρ) := by
  cases o with
  | column info items => rw [rename, renameItems_eq_map, children, children]
  | accordion info panels tag =>
    rw [rename, renamePanels_eq_map, children, children, List.map_map, List.map_map]
    rfl
  | leaf info params => rfl

/-- The questions of a renamed object are renamed. -/
theorem choiceIds_rename (ρ : SubContentId → SubContentId) (o : ContentObject) :
    (o.rename ρ).choiceIds = o.choiceIds.map ρ := by
  cases o with
  | column info items => rfl
  | accordion info panels tag => rfl
  | leaf info params =>
    cases params with
    | singleChoiceSet choices behaviour feedback =>
      simp [rename, LeafParams.rename, choiceIds, Choice.rename, Function.comp_def]
    | _ => rfl

/-- The identifiers of a renamed object are those of the object, renamed. -/
theorem ids_rename (ρ : SubContentId → SubContentId) (o : ContentObject) :
    (o.rename ρ).ids = o.ids.map ρ := by
  have hchildren : (o.rename ρ).children.flatMap ids = (o.children.flatMap ids).map ρ := by
    rw [children_rename, List.flatMap_map, List.map_flatMap]
    refine List.flatMap_congr fun child hchild => ?_
    have hless : sizeOf child < sizeOf o := sizeOf_lt_of_mem_children hchild
    exact ids_rename ρ child
  have hown : (o.rename ρ).info.id = ρ o.info.id := by cases o <;> rfl
  rw [ids_eq, ids_eq o, hchildren, choiceIds_rename, hown, List.map_cons, List.map_append]
termination_by sizeOf o

/-- The identifiers of renamed objects are those of the objects, renamed. -/
theorem flatMap_ids_rename (ρ : SubContentId → SubContentId) (objects : List ContentObject) :
    (objects.map (·.rename ρ)).flatMap ids = (objects.flatMap ids).map ρ := by
  rw [List.flatMap_map, List.map_flatMap]
  exact List.flatMap_congr fun o _ => ids_rename ρ o

/-! ### The shapes of objects -/

/-- An object that holds no further objects. -/
def IsLeaf : ContentObject → Prop
  | leaf _ _ => True
  | _ => False

/-- A leaf or an accordion of leaves. -/
def IsBlock : ContentObject → Prop
  | column _ _ => False
  | accordion _ panels _ => ∀ p ∈ panels, p.2.IsLeaf
  | leaf _ _ => True

/-- A column of blocks. -/
def IsChapter : ContentObject → Prop
  | column _ items => ∀ item ∈ items, item.IsBlock
  | _ => False

end ContentObject

/-! ### Building from a renamed supply -/

variable {α β γ δ : Type}

/-- Two ways of building are related: from a supply and the same supply renamed they draw equally
often, and their results are related. -/
def Related (ρ : SubContentId → SubContentId) (R : α → β → Prop) (d : Draw α) (e : Draw β) :
    Prop :=
  ∀ (ids : IdSource) (n : Nat),
    R (ReaderT.run d ids n).1 (ReaderT.run e (fun k => ρ (ids k)) n).1 ∧
      (ReaderT.run d ids n).2 = (ReaderT.run e (fun k => ρ (ids k)) n).2

/-- Results are related if nothing is drawn. -/
theorem related_pure {R : α → β → Prop} {a : α} {b : β} (h : R a b) :
    Related ρ R (pure a) (pure b) :=
  fun _ _ => ⟨h, rfl⟩

/-- Related ways of building can go on in related ways. -/
theorem related_bind {R : α → β → Prop} {Q : γ → δ → Prop} {d : Draw α} {e : Draw β}
    {f : α → Draw γ} {g : β → Draw δ} (hd : Related ρ R d e)
    (hf : ∀ a b, R a b → Related ρ Q (f a) (g b)) : Related ρ Q (d >>= f) (e >>= g) := by
  intro ids n
  obtain ⟨hresult, hcount⟩ := hd ids n
  have hnext := hf _ _ hresult ids (ReaderT.run d ids n).2
  have hleft : ReaderT.run (d >>= f) ids n =
      ReaderT.run (f (ReaderT.run d ids n).1) ids (ReaderT.run d ids n).2 := rfl
  have hright : ReaderT.run (e >>= g) (fun k => ρ (ids k)) n =
      ReaderT.run (g (ReaderT.run e (fun k => ρ (ids k)) n).1) (fun k => ρ (ids k))
        (ReaderT.run e (fun k => ρ (ids k)) n).2 := rfl
  rw [hleft, hright, ← hcount]
  exact hnext

/-- The identifier that is drawn is renamed. -/
theorem related_drawId : Related ρ (fun a b => b = ρ a) drawId drawId :=
  fun _ _ => ⟨rfl, rfl⟩

/-- Parts that are built in related ways one after the other are related one by one. -/
theorem related_mapM {R : β → γ → Prop} {f : α → Draw β} {g : α → Draw γ} (xs : List α)
    (h : ∀ x, Related ρ R (f x) (g x)) :
    Related ρ (List.Forall₂ R) (xs.mapM f) (xs.mapM g) := by
  induction xs with
  | nil => exact related_pure .nil
  | cons x xs ih =>
    rw [List.mapM_cons, List.mapM_cons]
    refine related_bind (h x) fun a b hab => ?_
    exact related_bind ih fun as bs habs => related_pure (.cons hab habs)

/-- An object of a kind, and the same object renamed. -/
structure Renamed (ρ : SubContentId → SubContentId) (kind : ContentObject → Prop)
    (o o' : ContentObject) : Prop where
  /-- The second object is the first one renamed. -/
  eq : o' = o.rename ρ
  /-- The object is of the kind. -/
  kind : kind o

/-- Objects that are renamed one by one are all of the kind. -/
theorem forall₂_renamed {kind : ContentObject → Prop} {os os' : List ContentObject}
    (h : List.Forall₂ (Renamed ρ kind) os os') :
    os' = os.map (·.rename ρ) ∧ ∀ o ∈ os, kind o := by
  induction h with
  | nil => simp
  | cons ho _ ih =>
    rw [List.map_cons, ho.eq, ih.1]
    exact ⟨rfl, List.forall_mem_cons.2 ⟨ho.kind, ih.2⟩⟩

/-- A leaf is built from renamed parameters. -/
theorem related_newLeaf (library : LibraryId) (title : String) (contentType : ContentType)
    {params params' : LeafParams} (hparams : params' = params.rename ρ) :
    Related ρ (Renamed ρ ContentObject.IsLeaf) (newLeaf library title contentType params)
      (newLeaf library title contentType params') := by
  refine related_bind related_drawId fun id id' hid => related_pure ?_
  subst hid hparams
  exact ⟨rfl, trivial⟩

/-- A text is built. -/
theorem related_newText (library : LibraryId) (title html : String) :
    Related ρ (Renamed ρ ContentObject.IsLeaf) (newText library title html)
      (newText library title html) :=
  related_newLeaf library title .text rfl

/-- The panels of an accordion are built. -/
theorem related_buildPanels (ctx : BuildContext) (panels : List Panel) :
    Related ρ (List.Forall₂ fun p q => q.1 = p.1 ∧ Renamed ρ ContentObject.IsLeaf p.2 q.2)
      (buildPanels ctx panels) (buildPanels ctx panels) :=
  related_mapM panels fun p =>
    related_bind (related_newText ctx.textLibrary p.title (ctx.html (Text.joinLines p.body)))
      fun _ _ h => related_pure ⟨rfl, h⟩

/-- The questions of a single choice set are built. -/
theorem related_buildChoices (questions : List Question) :
    Related ρ (List.Forall₂ fun c d => d = c.rename ρ) (buildChoices questions)
      (buildChoices questions) :=
  related_mapM questions fun q =>
    related_bind related_drawId fun id id' hid => related_pure (by subst hid; rfl)

/-- An accordion of related panels is a block. -/
theorem renamed_accordion {info : ObjectInfo} {panels panels' : List (String × ContentObject)}
    (tag : String)
    (h : List.Forall₂ (fun p q => q.1 = p.1 ∧ Renamed ρ ContentObject.IsLeaf p.2 q.2) panels
      panels') :
    Renamed ρ ContentObject.IsBlock (.accordion info panels tag)
      (.accordion (info.rename ρ) panels' tag) := by
  have hall : panels' = panels.map (fun p => (p.1, p.2.rename ρ)) ∧ ∀ p ∈ panels, p.2.IsLeaf := by
    induction h with
    | nil => simp
    | @cons p q _ _ hp _ ih =>
      obtain ⟨title, content⟩ := p
      obtain ⟨title', content'⟩ := q
      obtain ⟨rfl, hcontent⟩ := hp
      refine ⟨by rw [List.map_cons, ← ih.1, ← hcontent.eq], ?_⟩
      exact List.forall_mem_cons.2 ⟨hcontent.kind, ih.2⟩
  refine ⟨?_, hall.2⟩
  rw [ContentObject.rename, ContentObject.renamePanels_eq_map, hall.1]

/-- A leaf is a block. -/
theorem Renamed.block {o o' : ContentObject} (h : Renamed ρ ContentObject.IsLeaf o o') :
    Renamed ρ ContentObject.IsBlock o o' := by
  refine ⟨h.eq, ?_⟩
  have hkind := h.kind
  cases o <;> first | exact hkind.elim | exact trivial

/-- Results are related in a weaker way, too. -/
theorem Related.mono {R Q : α → β → Prop} {d : Draw α} {e : Draw β} (h : Related ρ R d e)
    (hRQ : ∀ a b, R a b → Q a b) : Related ρ Q d e :=
  fun ids n => ⟨hRQ _ _ (h ids n).1, (h ids n).2⟩

/-- The object of a block is built with a given library. -/
theorem related_buildWith (ctx : BuildContext) (library : LibraryId) (b : Block) :
    Related ρ (Renamed ρ ContentObject.IsBlock) (buildWith ctx library b)
      (buildWith ctx library b) := by
  have hleaf : ∀ title contentType {params params'}, params' = LeafParams.rename ρ params →
      Related ρ (Renamed ρ ContentObject.IsBlock) (newLeaf library title contentType params)
        (newLeaf library title contentType params') :=
    fun title contentType _ _ hparams =>
      (related_newLeaf library title contentType hparams).mono fun _ _ h => h.block
  rw [buildWith]
  cases b.kind with
  | text => exact hleaf "Text" _ rfl
  | accordion =>
    refine related_bind (related_buildPanels ctx _) fun panels panels' hpanels => ?_
    refine related_bind related_drawId fun id id' hid => related_pure ?_
    subst hid
    exact renamed_accordion _ hpanels
  | quiz =>
    refine related_bind (related_buildChoices _) fun choices choices' hchoices => ?_
    have hall : choices' = choices.map (Choice.rename ρ) := by
      induction hchoices with
      | nil => rfl
      | cons hc _ ih => rw [List.map_cons, ← ih, hc]
    exact hleaf "Quiz" _ (by rw [hall]; rfl)
  | image => exact hleaf _ _ rfl
  | video => exact hleaf "Video" _ rfl
  | fillBlanks => exact hleaf "Fill in the blanks" _ rfl
  | dragWords => exact hleaf "Drag the words" _ rfl

/-- The object of a block is built, a fallback when its library is missing. -/
theorem related_buildBlock (ctx : BuildContext) (b : Block) :
    Related ρ (Renamed ρ ContentObject.IsBlock) (buildBlock ctx b) (buildBlock ctx b) := by
  rw [buildBlock, buildBlock?]
  cases blockLibrary? ctx b with
  | none => exact (related_newText _ _ _).mono fun _ _ h => h.block
  | some library => exact related_buildWith ctx library b

/-- The items of a chapter are built. -/
theorem related_buildItems (ctx : BuildContext) (blocks : List Block) :
    Related ρ (List.Forall₂ (Renamed ρ ContentObject.IsBlock)) (buildItems ctx blocks)
      (buildItems ctx blocks) := by
  cases blocks with
  | nil =>
    exact related_bind (related_newText _ _ _) fun _ _ h => related_pure (.cons h.block .nil)
  | cons b blocks => exact related_mapM (b :: blocks) (related_buildBlock ctx)

/-- The column of a chapter is built. -/
theorem related_buildChapter (ctx : BuildContext) (c : DecodedChapter) :
    Related ρ (Renamed ρ ContentObject.IsChapter) (buildChapter ctx c) (buildChapter ctx c) := by
  refine related_bind (related_buildItems ctx c.blocks) fun items items' hitems => ?_
  refine related_bind related_drawId fun id id' hid => related_pure ?_
  subst hid
  obtain ⟨hrenamed, hblocks⟩ := forall₂_renamed hitems
  refine ⟨?_, hblocks⟩
  rw [ContentObject.rename, ContentObject.renameItems_eq_map, hrenamed]
  rfl

end InteractiveBook.Content
