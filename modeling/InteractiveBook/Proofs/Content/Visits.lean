import InteractiveBook.Proofs.Content.ObjectJson
import InteractiveBook.Proofs.Content.Walk

/-!
# What a walk visits

The objects of a tree stand at places: a place says which of the objects inside to go to, level by
level. A walk goes to every place of a tree once, in the order of the places, in which the place of
an object comes before those inside it and these come in the order of the objects. What is written
of an object has the identifiers of the objects and questions that a walk finds and no other ones.
-/

namespace InteractiveBook.Content

open Json

namespace ContentObject

/-! ### Places -/

/-- The object at a place of a tree. -/
def at? : ContentObject → List Nat → Option ContentObject
  | o, [] => some o
  | o, n :: place => o.children[n]?.bind fun child => child.at? place

/-- A list of visits to the places of a tree: each place with the object at it, in ascending
order. The order is that of words, so that a place comes before those inside it and the places in
one object come before those in the next. -/
structure IsTour (o : ContentObject) (visits : List (List Nat × ContentObject)) : Prop where
  /-- No place is visited twice, and each comes after those that are less. -/
  ascending : visits.Pairwise fun v w => v.1 < w.1
  /-- What is visited are the places of the tree and the objects at them. -/
  visited : ∀ place inner, (place, inner) ∈ visits ↔ o.at? place = some inner

/-- Tours of the objects of a row make up a list of visits to the places below a row whose first
object has a given number. -/
theorem exists_tour_row {objects : List ContentObject}
    (h : ∀ o ∈ objects, ∃ visits, IsTour o visits ∧ visits.map Prod.snd = o.walk) (first : Nat) :
    ∃ visits : List (List Nat × ContentObject), visits.Pairwise (fun v w => v.1 < w.1) ∧
      (∀ place inner, (place, inner) ∈ visits ↔ ∃ n below, place = (first + n) :: below ∧
        objects[n]?.bind (fun o => o.at? below) = some inner) ∧
      visits.map Prod.snd = objects.flatMap walk := by
  induction objects generalizing first with
  | nil => exact ⟨[], .nil, by simp, rfl⟩
  | cons o objects ih =>
    obtain ⟨ho, hobjects⟩ := List.forall_mem_cons.1 h
    obtain ⟨own, ⟨hown, hvisited⟩, hwalk⟩ := ho
    obtain ⟨more, hmore, hvisitedMore, hwalkMore⟩ := ih hobjects (first + 1)
    have hfront : ∀ place inner,
        (place, inner) ∈ own.map (fun v => (first :: v.1, v.2)) ↔
          ∃ below, place = first :: below ∧ o.at? below = some inner := by
      intro place inner
      rw [List.mem_map]
      constructor
      · rintro ⟨⟨below, found⟩, hmem, heq⟩
        obtain ⟨rfl, rfl⟩ := Prod.mk.inj heq
        exact ⟨below, rfl, (hvisited _ _).1 hmem⟩
      · rintro ⟨below, rfl, hat⟩
        exact ⟨(below, inner), (hvisited _ _).2 hat, rfl⟩
    refine ⟨own.map (fun v => (first :: v.1, v.2)) ++ more, ?_, ?_, ?_⟩
    · rw [List.pairwise_append, List.pairwise_map]
      refine ⟨hown.imp fun hless => List.cons_lt_cons_iff.2 (.inr ⟨rfl, hless⟩), hmore, ?_⟩
      rintro ⟨place, inner⟩ hv ⟨place', inner'⟩ hw
      obtain ⟨below, rfl, -⟩ := (hfront _ _).1 hv
      obtain ⟨n, below', rfl, -⟩ := (hvisitedMore _ _).1 hw
      exact List.cons_lt_cons_iff.2 (.inl (by omega))
    · intro place inner
      rw [List.mem_append, hfront, hvisitedMore]
      constructor
      · rintro (⟨below, rfl, hat⟩ | ⟨n, below, rfl, hat⟩)
        · exact ⟨0, below, rfl, hat⟩
        · exact ⟨n + 1, below, by rw [Nat.add_assoc, Nat.add_comm 1], hat⟩
      · rintro ⟨n, below, rfl, hat⟩
        cases n with
        | zero => exact .inl ⟨below, rfl, hat⟩
        | succ n => exact .inr ⟨n, below, by rw [Nat.add_assoc, Nat.add_comm 1], hat⟩
    · rw [List.map_append, List.map_map, hwalkMore, List.flatMap_cons, ← hwalk]
      rfl

/-- A walk is a tour. -/
theorem exists_tour_walk (o : ContentObject) :
    ∃ visits, IsTour o visits ∧ visits.map Prod.snd = o.walk := by
  have hrow : ∀ child ∈ o.children, ∃ visits, IsTour child visits ∧
      visits.map Prod.snd = child.walk := by
    intro child hmem
    have hless : sizeOf child < sizeOf o := sizeOf_lt_of_mem_children hmem
    exact exists_tour_walk child
  obtain ⟨below, hbelow, hvisited, hwalk⟩ := exists_tour_row hrow 0
  refine ⟨([], o) :: below, ⟨List.pairwise_cons.2 ⟨?_, hbelow⟩, ?_⟩, ?_⟩
  · rintro ⟨place, inner⟩ hmem
    obtain ⟨n, place, rfl, -⟩ := (hvisited _ _).1 hmem
    exact List.nil_lt_cons _ _
  · intro place inner
    rw [List.mem_cons, hvisited]
    cases place with
    | nil => simp [at?, eq_comm]
    | cons n place => simp [at?]
  · rw [List.map_cons, hwalk, walk_eq]
termination_by sizeOf o

end ContentObject

end InteractiveBook.Content

namespace InteractiveBook.Json

/-! ### Keys in what is written -/

mutual

/-- The values of a key in a syntax tree, at any depth and in the order in which they are
written. -/
def Tree.valuesOf (key : String) : Tree → List Tree
  | .array items => itemValuesOf key items
  | .object members => memberValuesOf key members
  | _ => []

/-- The values of a key in the items of an array. -/
def itemValuesOf (key : String) : List Tree → List Tree
  | [] => []
  | item :: rest => item.valuesOf key ++ itemValuesOf key rest

/-- The values of a key in the members of an object, and those inside the values of its members. -/
def memberValuesOf (key : String) : List (Option String × Tree) → List Tree
  | [] => []
  | (name, value) :: rest =>
    (if name = some key then [value] else []) ++ value.valuesOf key ++ memberValuesOf key rest

end

/-- A list of texts has no keys. -/
theorem itemValuesOf_texts (key : String) (texts : List String) :
    itemValuesOf key (itemTrees (texts.map Json.string)) = [] := by
  induction texts with
  | nil => rfl
  | cons s texts ih =>
    rw [List.map_cons, itemTrees, itemValuesOf, ih]
    rfl

end InteractiveBook.Json

namespace InteractiveBook.Content

open Json

/-! ### Identifiers in what is written -/

/-- What is written of an identifier. -/
def SubContentId.tree (id : SubContentId) : Tree := .string (some id.text)

/-- What is written of an object has the identifiers in its parameters and that of the object. -/
theorem ObjectInfo.valuesOf_json (info : ObjectInfo) (params : Json) :
    (info.json params).toTree.valuesOf "subContentId" =
      params.toTree.valuesOf "subContentId" ++ [info.id.tree] := by
  simp [ObjectInfo.json, toTree, memberTrees, Tree.valuesOf, memberValuesOf, SubContentId.tree]

/-- What is written of questions has their identifiers. -/
theorem itemValuesOf_choices (choices : List Choice) :
    itemValuesOf "subContentId" (itemTrees (choices.map Choice.json)) =
      choices.map fun c => c.id.tree := by
  induction choices with
  | nil => rfl
  | cons c choices ih =>
    have hchoice : c.json.toTree.valuesOf "subContentId" = [c.id.tree] := by
      simp [Choice.json, toTree, memberTrees, Tree.valuesOf, memberValuesOf, SubContentId.tree,
        itemValuesOf_texts]
    rw [List.map_cons, itemTrees, itemValuesOf, hchoice, ih]
    rfl

/-- What is written of ranges of scores has no identifiers. -/
theorem itemValuesOf_feedback (ranges : List FeedbackRange) :
    itemValuesOf "subContentId" (itemTrees (ranges.map FeedbackRange.json)) = [] := by
  induction ranges with
  | nil => rfl
  | cons r ranges ih =>
    rw [List.map_cons, itemTrees, itemValuesOf, ih]
    rfl

/-- What is written of the files of a video has no identifiers. -/
theorem itemValuesOf_sources (sources : List VideoSource) :
    itemValuesOf "subContentId" (itemTrees (sources.map VideoSource.json)) = [] := by
  induction sources with
  | nil => rfl
  | cons s sources ih =>
    rw [List.map_cons, itemTrees, itemValuesOf, ih]
    rfl

/-- What is written of the parameters of a leaf has the identifiers of its questions. -/
theorem LeafParams.valuesOf_json (info : ObjectInfo) (params : LeafParams) :
    params.json.toTree.valuesOf "subContentId" =
      (ContentObject.leaf info params).choiceIds.map SubContentId.tree := by
  cases params with
  | singleChoiceSet choices behaviour feedback =>
    simp [LeafParams.json, ChoiceBehaviour.json, ofNat, toTree, memberTrees, Tree.valuesOf,
      memberValuesOf, itemValuesOf_choices, itemValuesOf_feedback, ContentObject.choiceIds,
      Function.comp_def]
  | blanks task questions behaviour =>
    simp [LeafParams.json, switches, toTree, memberTrees, Tree.valuesOf, memberValuesOf,
      itemValuesOf_texts, ContentObject.choiceIds]
  | text html => rfl
  | image name file alt decorative => rfl
  | video v =>
    simp [LeafParams.json, switches, toTree, memberTrees, Tree.valuesOf, memberValuesOf,
      itemValuesOf_sources, ContentObject.choiceIds]
  | dragText task textField behaviour => rfl

namespace ContentObject

mutual

/-- What is written of an object has the identifiers of the objects and questions inside it. -/
theorem valuesOf_json : ∀ o : ContentObject,
    (o.json.toTree.valuesOf "subContentId").Perm (o.ids.map SubContentId.tree)
  | column info items => by
    have hitems := itemValuesOf_items items
    have hparams : (Json.object [("content", .array (jsonItems items))]).toTree.valuesOf
        "subContentId" = itemValuesOf "subContentId" (itemTrees (jsonItems items)) := by
      simp [toTree, memberTrees, Tree.valuesOf, memberValuesOf]
    rw [json, info.valuesOf_json, hparams, ids_column, List.map_cons]
    exact (List.perm_append_singleton _ _).trans (hitems.cons _)
  | accordion info panels tag => by
    have hpanels := itemValuesOf_panels panels
    have hparams : (Json.object [("panels", .array (jsonPanels panels)),
        ("hTag", .string tag)]).toTree.valuesOf "subContentId" =
          itemValuesOf "subContentId" (itemTrees (jsonPanels panels)) := by
      simp [toTree, memberTrees, Tree.valuesOf, memberValuesOf]
    rw [json, info.valuesOf_json, hparams, ids_accordion, List.map_cons]
    exact (List.perm_append_singleton _ _).trans (hpanels.cons _)
  | leaf info params => by
    rw [json, info.valuesOf_json, LeafParams.valuesOf_json info, ids_leaf, List.map_cons]
    exact List.perm_append_singleton _ _

/-- What is written of the items of a column has the identifiers inside them. -/
theorem itemValuesOf_items : ∀ items : List ContentObject,
    (itemValuesOf "subContentId" (itemTrees (jsonItems items))).Perm
      ((items.flatMap ids).map SubContentId.tree)
  | [] => .nil
  | item :: rest => by
    have hitem : (Json.object [("content", item.json), ("useSeparator", .string "auto")]
        ).toTree.valuesOf "subContentId" = item.json.toTree.valuesOf "subContentId" := by
      simp [toTree, memberTrees, Tree.valuesOf, memberValuesOf]
    rw [List.flatMap_cons, List.map_append, jsonItems, itemTrees, itemValuesOf, hitem]
    exact (valuesOf_json item).append (itemValuesOf_items rest)

/-- What is written of the panels of an accordion has the identifiers inside them. -/
theorem itemValuesOf_panels : ∀ panels : List (String × ContentObject),
    (itemValuesOf "subContentId" (itemTrees (jsonPanels panels))).Perm
      ((panels.flatMap fun p => p.2.ids).map SubContentId.tree)
  | [] => .nil
  | (title, content) :: rest => by
    have hpanel : (Json.object [("content", content.json), ("title", .string title)]
        ).toTree.valuesOf "subContentId" = content.json.toTree.valuesOf "subContentId" := by
      simp [toTree, memberTrees, Tree.valuesOf, memberValuesOf]
    rw [List.flatMap_cons, List.map_append, jsonPanels, itemTrees, itemValuesOf, hpanel]
    exact (valuesOf_json content).append (itemValuesOf_panels rest)

end

/-- A walk goes to every place of a tree once and in order, so that it visits an object before those
inside it and these one after the other; and the text in which the object is written has as values
of its keys for identifiers those of the objects that are visited and of the questions in them, each
as often as they have it. -/
theorem walk_exact (o : ContentObject) :
    (∃ visits, IsTour o visits ∧ visits.map Prod.snd = o.walk) ∧
      ∃ written, Tree.ofText? o.json.compact = some written ∧
        (written.valuesOf "subContentId").Perm
          ((o.walk.flatMap fun inner => inner.info.id :: inner.choiceIds).map SubContentId.tree) :=
  ⟨exists_tour_walk o, _, ofText?_compact o.json, valuesOf_json o⟩

end ContentObject

end InteractiveBook.Content
