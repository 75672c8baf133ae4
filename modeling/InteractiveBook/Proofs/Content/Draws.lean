import InteractiveBook.Proofs.Content.Renaming
import Mathlib.Algebra.Ring.Nat
import Mathlib.Data.List.Basic

/-!
# What building draws

Building draws a number of identifiers that is known beforehand, and what it builds holds each of
them once and no others. Wherever in whatever supply it starts, the identifiers that it draws decide
its result. The number is one for each object and one for each question.
-/

namespace InteractiveBook.Content

open Library Source

variable {α β : Type} {base : List SubContentId} {held : α → List SubContentId} {count : Nat}

/-- The identifiers of so many draws that start at a place of a supply. -/
def drawsFrom (ids : IdSource) (n count : Nat) : List SubContentId :=
  (List.range count).map fun k => ids (n + k)

/-- Identifiers that are drawn in two runs, one behind the other. -/
theorem drawsFrom_add (ids : IdSource) (n count more : Nat) :
    drawsFrom ids n (count + more) = drawsFrom ids n count ++ drawsFrom ids (n + count) more := by
  simp [drawsFrom, List.range_add, Nat.add_assoc, Function.comp_def]

/-- Building that draws so many identifiers, given some that were drawn before: what it builds holds
those and the ones it draws, each once, and is decided by the ones it draws. -/
structure Takes (base : List SubContentId) (held : α → List SubContentId) (count : Nat)
    (d : Draw α) : Prop where
  /-- The number of identifiers that are drawn. -/
  taken : ∀ ids n, (ReaderT.run d ids n).2 = n + count
  /-- The identifiers that are held afterwards. -/
  held : ∀ ids n, (held (ReaderT.run d ids n).1).Perm (base ++ drawsFrom ids n count)
  /-- The identifiers that are drawn decide the result. -/
  decided : ∀ ids ids' n n', (∀ k < count, ids (n + k) = ids' (n' + k)) →
    (ReaderT.run d ids n).1 = (ReaderT.run d ids' n').1

/-- Nothing is drawn for a result that holds what was drawn before. -/
theorem takes_pure {a : α} (h : (held a).Perm base) : Takes base held 0 (pure a) := by
  refine ⟨fun _ _ => rfl, fun ids n => ?_, fun _ _ _ _ _ => rfl⟩
  rw [drawsFrom, List.range_zero, List.map_nil, List.append_nil]
  exact h

/-- A single identifier is drawn. -/
theorem takes_drawId : Takes [] (fun id => [id]) 1 drawId :=
  ⟨fun _ _ => rfl, fun _ _ => .refl _, fun _ _ _ _ h => h 0 Nat.zero_lt_one⟩

/-- The draws of two steps are those of the first one and then those of the second one. -/
theorem Takes.bind {held' : β → List SubContentId} {more : Nat} {d : Draw α} {f : α → Draw β}
    (hd : Takes base held count d) (hf : ∀ a, Takes (held a) held' more (f a)) :
    Takes base held' (count + more) (d >>= f) := by
  have hrun : ∀ ids n, ReaderT.run (d >>= f) ids n =
      ReaderT.run (f (ReaderT.run d ids n).1) ids (n + count) := fun ids n => by
    rw [← hd.taken ids n]
    rfl
  constructor
  case taken =>
    intro ids n
    rw [hrun, (hf _).taken, Nat.add_assoc]
  case held =>
    intro ids n
    rw [hrun, drawsFrom_add, ← List.append_assoc]
    exact ((hf _).held ids (n + count)).trans ((hd.held ids n).append_right _)
  case decided =>
    intro ids ids' n n' h
    have hfirst := hd.decided ids ids' n n' fun k hk => h k (by omega)
    rw [hrun, hrun, hfirst]
    refine (hf _).decided ids ids' _ _ fun k hk => ?_
    rw [Nat.add_assoc, Nat.add_assoc]
    exact h (count + k) (by omega)

/-- What was drawn before can be held beside what is drawn. -/
theorem Takes.beside {d : Draw α} (hd : Takes [] held count d) (base : List SubContentId) :
    Takes base (fun a => base ++ held a) count d :=
  ⟨hd.taken, fun ids n => (hd.held ids n).append_left base, hd.decided⟩

/-- Parts that are built one after the other hold together what is drawn for them. -/
theorem takes_mapM {held : β → List SubContentId} {f : α → Draw β} {counts : α → Nat}
    (xs : List α) (h : ∀ x, Takes [] held (counts x) (f x)) :
    Takes [] (fun ys => ys.flatMap held) (xs.map counts).sum (xs.mapM f) := by
  induction xs with
  | nil => exact takes_pure (.refl _)
  | cons x xs ih =>
    rw [List.mapM_cons, List.map_cons, List.sum_cons]
    refine (h x).bind fun y => ?_
    rw [← Nat.add_zero (xs.map counts).sum]
    exact (ih.beside (held y)).bind fun ys => takes_pure (.refl _)

/-- Parts that each take one identifier take as many as they are. -/
theorem takes_mapM_one {held : β → List SubContentId} {f : α → Draw β} (xs : List α)
    (h : ∀ x, Takes [] held 1 (f x)) :
    Takes [] (fun ys => ys.flatMap held) xs.length (xs.mapM f) := by
  have hcount : (xs.map fun _ => 1).sum = xs.length := by simp
  rw [← hcount]
  exact takes_mapM xs h

/-! ### Blocks -/

/-- A leaf takes one identifier besides those of its questions. -/
theorem takes_newLeaf (library : LibraryId) (title : String) (contentType : ContentType)
    {params : LeafParams} (h : ∀ info, (ContentObject.leaf info params).choiceIds = base) :
    Takes base ContentObject.ids 1 (newLeaf library title contentType params) := by
  refine (takes_drawId.beside base).bind fun id => takes_pure ?_
  rw [ContentObject.ids_leaf, h]
  exact (List.perm_append_singleton id _).symm

/-- A text takes one identifier. -/
theorem takes_newText (library : LibraryId) (title html : String) :
    Takes [] ContentObject.ids 1 (newText library title html) :=
  takes_newLeaf library title .text fun _ => rfl

/-- The panels of an accordion take one identifier each. -/
theorem takes_buildPanels (ctx : BuildContext) (panels : List Panel) :
    Takes [] (fun built => built.flatMap fun p => p.2.ids) panels.length
      (buildPanels ctx panels) := by
  refine takes_mapM_one panels fun p => ?_
  have hpair : ∀ content : ContentObject, Takes content.ids
      (fun built : String × ContentObject => built.2.ids) 0 (pure (p.title, content)) :=
    fun content => takes_pure (.refl content.ids)
  exact (takes_newText _ _ _).bind hpair

/-- The questions of a single choice set take one identifier each. -/
theorem takes_buildChoices (questions : List Question) :
    Takes [] (fun choices => choices.map (·.id)) questions.length (buildChoices questions) := by
  have hone : Takes [] (fun choices : List Choice => choices.flatMap fun c => [c.id])
      questions.length (buildChoices questions) :=
    takes_mapM_one questions fun _ => takes_drawId.bind fun _ => takes_pure (.refl _)
  have hsame : ∀ choices : List Choice, choices.flatMap (fun c => [c.id]) = choices.map (·.id) :=
    fun choices => List.flatMap_pure_eq_map _ choices
  simpa only [hsame] using hone

/-- How many identifiers a block takes that is built with a library. -/
def builtDraws (b : Block) : Nat :=
  match b.kind with
  | .accordion => (splitPanels b.lines).length + 1
  | .quiz => (parseQuestions b.lines).length + 1
  | _ => 1

/-- A block that is built with a library takes one identifier for its object and one for each of
its panels or questions. -/
theorem takes_buildWith (ctx : BuildContext) (library : LibraryId) (b : Block) :
    Takes [] ContentObject.ids (builtDraws b) (buildWith ctx library b) := by
  rw [buildWith, builtDraws]
  cases b.kind with
  | text => exact takes_newText _ _ _
  | accordion =>
    refine (takes_buildPanels ctx _).bind fun panels => ?_
    refine (takes_drawId.beside _).bind fun id => takes_pure ?_
    rw [ContentObject.ids_accordion]
    exact (List.perm_append_singleton id _).symm
  | quiz => exact (takes_buildChoices _).bind fun choices => takes_newLeaf _ _ _ fun _ => rfl
  | image => exact takes_newLeaf _ _ _ fun _ => rfl
  | video => exact takes_newLeaf _ _ _ fun _ => rfl
  | fillBlanks => exact takes_newLeaf _ _ _ fun _ => rfl
  | dragWords => exact takes_newLeaf _ _ _ fun _ => rfl

/-- How many identifiers a block takes: a single one when its library is missing. -/
def blockDraws (ctx : BuildContext) (b : Block) : Nat :=
  match blockLibrary? ctx b with
  | some _ => builtDraws b
  | none => 1

/-- A block takes its identifiers, also when a text stands for it. -/
theorem takes_buildBlock (ctx : BuildContext) (b : Block) :
    Takes [] ContentObject.ids (blockDraws ctx b) (buildBlock ctx b) := by
  rw [buildBlock, buildBlock?, blockDraws]
  cases blockLibrary? ctx b with
  | none => exact takes_newText _ _ _
  | some library => exact takes_buildWith ctx library b

/-! ### Chapters -/

/-- How many identifiers the items of a chapter take: those of its blocks, or a single one for the
blank text of a chapter without any. -/
def itemDraws (ctx : BuildContext) : List Block → Nat
  | [] => 1
  | b :: rest => ((b :: rest).map (blockDraws ctx)).sum

/-- The items of a chapter take their identifiers. -/
theorem takes_buildItems (ctx : BuildContext) (blocks : List Block) :
    Takes [] (fun items => items.flatMap ContentObject.ids) (itemDraws ctx blocks)
      (buildItems ctx blocks) := by
  cases blocks with
  | nil =>
    refine Takes.bind (takes_newText _ _ _) fun item => takes_pure ?_
    rw [List.flatMap_singleton]
  | cons b rest => exact takes_mapM (b :: rest) (takes_buildBlock ctx)

/-- How many identifiers a chapter takes: those of its items and one for its column. -/
def chapterDraws (ctx : BuildContext) (c : DecodedChapter) : Nat := itemDraws ctx c.blocks + 1

/-- A chapter takes its identifiers. -/
theorem takes_buildChapter (ctx : BuildContext) (c : DecodedChapter) :
    Takes [] ContentObject.ids (chapterDraws ctx c) (buildChapter ctx c) := by
  refine (takes_buildItems ctx c.blocks).bind fun items => ?_
  refine (takes_drawId.beside _).bind fun id => takes_pure ?_
  rw [ContentObject.ids_column]
  exact (List.perm_append_singleton id _).symm

end InteractiveBook.Content
