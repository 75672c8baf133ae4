import InteractiveBook.Content.Object

/-!
# Walking over objects

A walk over an object goes to the object and then over each of the objects that it holds. What an
object hands on to the objects that it holds is therefore true wherever a walk goes.
-/

namespace InteractiveBook.Content.ContentObject

/-- The objects that an object itself holds, in order. -/
def children : ContentObject → List ContentObject
  | column _ items => items
  | accordion _ panels _ => panels.map Prod.snd
  | leaf _ _ => []

/-- The items of a column are walked over one by one. -/
theorem walkItems_eq_flatMap (items : List ContentObject) :
    walkItems items = items.flatMap walk := by
  induction items with
  | nil => rfl
  | cons item rest ih => rw [walkItems, ih, List.flatMap_cons]

/-- The panels of an accordion are walked over one by one. -/
theorem walkPanels_eq_flatMap (panels : List (String × ContentObject)) :
    walkPanels panels = panels.flatMap fun p => p.2.walk := by
  induction panels with
  | nil => rfl
  | cons p rest ih => rw [walkPanels, ih, List.flatMap_cons]

/-- A walk goes to the object first and then over the objects that it holds. -/
theorem walk_eq (o : ContentObject) : o.walk = o :: o.children.flatMap walk := by
  cases o with
  | column info items => rw [walk, walkItems_eq_flatMap, children]
  | accordion info panels tag => rw [walk, walkPanels_eq_flatMap, children, List.flatMap_map]
  | leaf info params => rw [walk, children, List.flatMap_nil]

/-- An object is larger than the objects that it holds. -/
theorem sizeOf_lt_of_mem_children {o child : ContentObject} (h : child ∈ o.children) :
    sizeOf child < sizeOf o := by
  cases o with
  | column info items =>
    have hitem : sizeOf child < sizeOf items := List.sizeOf_lt_of_mem h
    rw [column.sizeOf_spec]
    omega
  | accordion info panels tag =>
    obtain ⟨⟨title, content⟩, hp, rfl⟩ := List.mem_map.1 h
    have hpanel : sizeOf (title, content) < sizeOf panels := List.sizeOf_lt_of_mem hp
    rw [Prod.mk.sizeOf_spec] at hpanel
    rw [accordion.sizeOf_spec]
    dsimp only
    omega
  | leaf info params => exact absurd h List.not_mem_nil

/-- What an object hands on to the objects that it holds is true wherever a walk goes. -/
theorem forall_mem_walk {P : ContentObject → Prop}
    (hchild : ∀ o, P o → ∀ child ∈ o.children, P child) {o : ContentObject} (ho : P o) :
    ∀ inner ∈ o.walk, P inner := by
  rw [walk_eq]
  intro inner hinner
  rcases List.mem_cons.1 hinner with rfl | hbelow
  · exact ho
  · obtain ⟨child, hmem, hwalk⟩ := List.mem_flatMap.1 hbelow
    have hless : sizeOf child < sizeOf o := sizeOf_lt_of_mem_children hmem
    exact forall_mem_walk hchild (hchild o ho child hmem) inner hwalk
termination_by sizeOf o

end InteractiveBook.Content.ContentObject
