import InteractiveBook.Content.Json
import InteractiveBook.Proofs.Content.Renaming
import InteractiveBook.Proofs.Json.Occurrence

/-!
# The JSON form of objects

The JSON form of an object has no real numbers, and that of a chapter is nested only a few
containers deep. Renaming the identifiers of an object changes its JSON form in the identifiers
alone.
-/

namespace InteractiveBook.Content

open Json

/-! ### Numbers and nesting -/

/-- A list of texts has no numbers and fits everywhere. -/
theorem texts_isWhole_fits (texts : List String) (room : Nat) :
    wholeItems (texts.map Json.string) = true ∧ itemsFit room (texts.map Json.string) = true := by
  rw [wholeItems_iff, itemsFit_iff]
  constructor <;> (intro v hv; obtain ⟨s, -, rfl⟩ := List.mem_map.1 hv)
  · rfl
  · cases room <;> rfl

/-- A number of one machine word fits everywhere. -/
theorem ofNat_fits {n : Nat} (h : n < UInt32.size) (room : Nat) :
    (ofNat n).fitsWithin room = true := by
  have hbound : (n : Int) ≤ Text.maxWord64 := by
    have hsize : (UInt32.size : Int) ≤ Text.maxWord64 := by decide
    omega
  have hlow : Text.minSigned64 ≤ (n : Int) := by
    have hnegative : Text.minSigned64 ≤ 0 := by decide
    omega
  cases room <;> exact decide_eq_true ⟨hlow, hbound⟩

/-- A number of one byte fits everywhere. -/
theorem byte_fits (n : UInt8) (room : Nat) : (ofNat n.toNat).fitsWithin room = true :=
  ofNat_fits (n.toNat_lt.trans (by decide)) room

/-- The behaviour of a single choice set has no real numbers and is one container. -/
theorem ChoiceBehaviour.json_isWhole_fits (b : ChoiceBehaviour) (room : Nat) :
    b.json.isWhole = true ∧ b.json.fitsWithin (room + 1) = true := by
  have hcorrect := ofNat_fits b.timeoutCorrect.toNat_lt room
  have hwrong := ofNat_fits b.timeoutWrong.toNat_lt room
  have hpass := byte_fits b.passPercentage room
  refine ⟨rfl, ?_⟩
  simp only [ChoiceBehaviour.json, fitsWithin, membersFit, hcorrect, hwrong, hpass, Bool.and_true]

/-- The ranges of scores have no real numbers and are one container each. -/
theorem feedback_isWhole_fits (ranges : List FeedbackRange) (room : Nat) :
    wholeItems (ranges.map FeedbackRange.json) = true ∧
      itemsFit (room + 1) (ranges.map FeedbackRange.json) = true := by
  rw [wholeItems_iff, itemsFit_iff]
  constructor <;> (intro v hv; obtain ⟨r, -, rfl⟩ := List.mem_map.1 hv)
  · rfl
  · simp only [FeedbackRange.json, fitsWithin, membersFit, byte_fits, Bool.and_true]

/-- The files of a video have no numbers and are one container each. -/
theorem sources_isWhole_fits (sources : List VideoSource) (room : Nat) :
    wholeItems (sources.map VideoSource.json) = true ∧
      itemsFit (room + 1) (sources.map VideoSource.json) = true := by
  rw [wholeItems_iff, itemsFit_iff]
  constructor <;> (intro v hv; obtain ⟨s, -, rfl⟩ := List.mem_map.1 hv) <;> rfl

/-- The parameters of a leaf have no real numbers and nest at most four containers. -/
theorem LeafParams.json_isWhole_fits (params : LeafParams) (room : Nat) :
    params.json.isWhole = true ∧ params.json.fitsWithin (room + 4) = true := by
  cases params with
  | text html => exact ⟨rfl, rfl⟩
  | singleChoiceSet choices behaviour feedback =>
    have hchoices : wholeItems (choices.map Choice.json) = true ∧
        itemsFit (room + 2) (choices.map Choice.json) = true := by
      rw [wholeItems_iff, itemsFit_iff]
      constructor <;> (intro v hv; obtain ⟨c, -, rfl⟩ := List.mem_map.1 hv)
      · simp [Choice.json, isWhole, wholeMembers, (texts_isWhole_fits c.answers 0).1]
      · simp [Choice.json, fitsWithin, membersFit, (texts_isWhole_fits c.answers room).2]
    have hbehaviour := behaviour.json_isWhole_fits (room + 2)
    have hfeedback := feedback_isWhole_fits feedback (room + 1)
    constructor
    · simp only [LeafParams.json, isWhole, wholeMembers, hchoices.1, hbehaviour.1, hfeedback.1,
        Bool.and_true]
    · simp only [LeafParams.json, fitsWithin, membersFit, hchoices.2, hbehaviour.2, hfeedback.2,
        Bool.and_true]
  | image name file alt decorative => exact ⟨rfl, rfl⟩
  | video v =>
    have hsources := sources_isWhole_fits v.sources (room + 1)
    constructor
    · simp [LeafParams.json, switches, isWhole, wholeMembers, hsources.1]
    · simp [LeafParams.json, switches, fitsWithin, membersFit, hsources.2]
  | blanks task questions behaviour =>
    have hquestions := texts_isWhole_fits questions (room + 2)
    constructor
    · rw [LeafParams.json, isWhole, wholeMembers, wholeMembers, isWhole, isWhole, hquestions.1]
      rfl
    · rw [LeafParams.json, fitsWithin, membersFit, membersFit, fitsWithin, fitsWithin,
        hquestions.2]
      rfl
  | dragText task textField behaviour => exact ⟨rfl, rfl⟩

/-- An object has no real numbers if its parameters have none. -/
theorem ObjectInfo.json_isWhole (info : ObjectInfo) {params : Json}
    (h : params.isWhole = true) : (info.json params).isWhole = true := by
  simp [ObjectInfo.json, isWhole, wholeMembers, h]

/-- An object adds two containers around what its parameters hold. -/
theorem ObjectInfo.json_fits (info : ObjectInfo) {params : Json} {room : Nat}
    (h : params.fitsWithin (room + 1) = true) :
    (info.json params).fitsWithin (room + 2) = true := by
  simp [ObjectInfo.json, fitsWithin, membersFit, h]

namespace ContentObject

/-- The items of a column are in JSON form one by one. -/
theorem jsonItems_eq_map (items : List ContentObject) :
    jsonItems items = items.map fun item =>
      Json.object [("content", item.json), ("useSeparator", .string "auto")] := by
  induction items with
  | nil => rfl
  | cons item rest ih => rw [jsonItems, ih, List.map_cons]

/-- The panels of an accordion are in JSON form one by one. -/
theorem jsonPanels_eq_map (panels : List (String × ContentObject)) :
    jsonPanels panels = panels.map fun p =>
      Json.object [("content", p.2.json), ("title", .string p.1)] := by
  induction panels with
  | nil => rfl
  | cons p rest ih => rw [jsonPanels, ih, List.map_cons]

mutual

/-- An object has no real numbers, whatever it holds. -/
theorem json_isWhole : ∀ o : ContentObject, o.json.isWhole = true
  | column info items =>
    info.json_isWhole (by simp [isWhole, wholeMembers, jsonItems_isWhole items])
  | accordion info panels tag =>
    info.json_isWhole (by simp [isWhole, wholeMembers, jsonPanels_isWhole panels])
  | leaf info params => info.json_isWhole (params.json_isWhole_fits 0).1

/-- The items of a column have no real numbers. -/
theorem jsonItems_isWhole : ∀ items : List ContentObject, wholeItems (jsonItems items) = true
  | [] => rfl
  | item :: rest => by
    simp [jsonItems, isWhole, wholeItems, wholeMembers, json_isWhole item, jsonItems_isWhole rest]

/-- The panels of an accordion have no real numbers. -/
theorem jsonPanels_isWhole : ∀ panels : List (String × ContentObject),
    wholeItems (jsonPanels panels) = true
  | [] => rfl
  | (title, content) :: rest => by
    simp [jsonPanels, isWhole, wholeItems, wholeMembers, json_isWhole content,
      jsonPanels_isWhole rest]

end

mutual

/-- An object fits into some number of containers, however deep it is nested. -/
theorem exists_json_fits : ∀ o : ContentObject, ∃ room, o.json.fitsWithin room = true
  | column info items => by
    obtain ⟨room, hitems⟩ := exists_jsonItems_fit items
    exact ⟨room + 3, info.json_fits (by simp [fitsWithin, membersFit, hitems])⟩
  | accordion info panels tag => by
    obtain ⟨room, hpanels⟩ := exists_jsonPanels_fit panels
    exact ⟨room + 3, info.json_fits (by simp [fitsWithin, membersFit, hpanels])⟩
  | leaf info params => ⟨5, info.json_fits (params.json_isWhole_fits 0).2⟩

/-- The items of a column fit into some number of containers. -/
theorem exists_jsonItems_fit : ∀ items : List ContentObject,
    ∃ room, itemsFit room (jsonItems items) = true
  | [] => ⟨0, rfl⟩
  | item :: rest => by
    obtain ⟨room, hitem⟩ := exists_json_fits item
    exact exists_itemsFit_cons ⟨room + 1, by simp [fitsWithin, membersFit, hitem]⟩
      (exists_jsonItems_fit rest)

/-- The panels of an accordion fit into some number of containers. -/
theorem exists_jsonPanels_fit : ∀ panels : List (String × ContentObject),
    ∃ room, itemsFit room (jsonPanels panels) = true
  | [] => ⟨0, rfl⟩
  | (title, content) :: rest => by
    obtain ⟨room, hcontent⟩ := exists_json_fits content
    exact exists_itemsFit_cons ⟨room + 1, by simp [fitsWithin, membersFit, hcontent]⟩
      (exists_jsonPanels_fit rest)

end

/-- A leaf nests at most five containers. -/
theorem IsLeaf.json_fits {o : ContentObject} (h : o.IsLeaf) (room : Nat) :
    o.json.fitsWithin (room + 5) = true := by
  cases o with
  | column info items => exact h.elim
  | accordion info panels tag => exact h.elim
  | leaf info params => exact info.json_fits (params.json_isWhole_fits room).2

/-- A block nests at most nine containers. -/
theorem IsBlock.json_fits {o : ContentObject} (h : o.IsBlock) (room : Nat) :
    o.json.fitsWithin (room + 9) = true := by
  cases o with
  | column info items => exact h.elim
  | leaf info params => exact IsLeaf.json_fits (o := leaf info params) trivial (room + 4)
  | accordion info panels tag =>
    have hpanels : itemsFit (room + 6) (jsonPanels panels) = true := by
      rw [itemsFit_iff, jsonPanels_eq_map]
      intro v hv
      obtain ⟨p, hp, rfl⟩ := List.mem_map.1 hv
      simp [fitsWithin, membersFit, (h p hp).json_fits room]
    exact info.json_fits (by simp [fitsWithin, membersFit, hpanels])

/-- A chapter nests at most thirteen containers. -/
theorem IsChapter.json_fits {o : ContentObject} (h : o.IsChapter) (room : Nat) :
    o.json.fitsWithin (room + 13) = true := by
  cases o with
  | accordion info panels tag => exact h.elim
  | leaf info params => exact h.elim
  | column info items =>
    have hitems : itemsFit (room + 10) (jsonItems items) = true := by
      rw [itemsFit_iff, jsonItems_eq_map]
      intro v hv
      obtain ⟨item, hitem, rfl⟩ := List.mem_map.1 hv
      simp [fitsWithin, membersFit, (h item hitem).json_fits room]
    exact info.json_fits (by simp [fitsWithin, membersFit, hitems])

end ContentObject

/-! ### Renaming -/

variable {part : List Char} {ρ : SubContentId → SubContentId}

/-- A renaming keeps to identifiers in which a list of characters does not occur. -/
def KeepsLacking (part : List Char) (ρ : SubContentId → SubContentId) (id : SubContentId) : Prop :=
  Lacks part id.text ∧ Lacks part (ρ id).text

/-- A renamed object is like the object if its identifier and its parameters are. -/
theorem ObjectInfo.alike_json {info : ObjectInfo} {params params' : Json}
    (hid : KeepsLacking part ρ info.id) (h : Alike part params params') :
    Alike part (info.json params) ((info.rename ρ).json params') :=
  .object (.cons (.refl _) (.cons h (.cons (.lacking hid.1 hid.2) (.refl _))))

/-- Renamed parameters are like the parameters if the identifiers of the questions are. -/
theorem LeafParams.alike_json {info : ObjectInfo} {params : LeafParams}
    (h : ∀ id ∈ (ContentObject.leaf info params).choiceIds, KeepsLacking part ρ id) :
    Alike part params.json (params.rename ρ).json := by
  cases params with
  | singleChoiceSet choices behaviour feedback =>
    have hchoices : ∀ cs : List Choice, (∀ c ∈ cs, KeepsLacking part ρ c.id) →
        AlikeItems part (cs.map Choice.json) ((cs.map (Choice.rename ρ)).map Choice.json) := by
      intro cs hcs
      induction cs with
      | nil => exact .nil
      | cons c cs ih =>
        obtain ⟨hc, hmore⟩ := List.forall_mem_cons.1 hcs
        exact .cons (.object (.cons (.lacking hc.1 hc.2) (.refl _))) (ih hmore)
    refine .object (.cons (.array (hchoices choices fun c hc => ?_)) (.refl _))
    exact h c.id (List.mem_map_of_mem hc)
  | _ => exact .refl _

namespace ContentObject

mutual

/-- A renamed object is like the object in its JSON form. -/
theorem alike_json : ∀ o : ContentObject, (∀ id ∈ o.ids, KeepsLacking part ρ id) →
    Alike part o.json (o.rename ρ).json
  | column info items => by
    intro h
    rw [ids_column] at h
    obtain ⟨hid, hitems⟩ := List.forall_mem_cons.1 h
    exact info.alike_json hid (.object (.cons (.array (alikeItems_json items hitems)) .nil))
  | accordion info panels tag => by
    intro h
    rw [ids_accordion] at h
    obtain ⟨hid, hpanels⟩ := List.forall_mem_cons.1 h
    exact info.alike_json hid
      (.object (.cons (.array (alikePanels_json panels hpanels)) (.refl _)))
  | leaf info params => by
    intro h
    rw [ids_leaf] at h
    obtain ⟨hid, hchoices⟩ := List.forall_mem_cons.1 h
    exact info.alike_json hid (LeafParams.alike_json hchoices)

/-- The renamed items of a column are like the items in their JSON form. -/
theorem alikeItems_json : ∀ items : List ContentObject,
    (∀ id ∈ items.flatMap ids, KeepsLacking part ρ id) →
      AlikeItems part (jsonItems items) (jsonItems (renameItems ρ items))
  | [] => fun _ => .nil
  | item :: rest => by
    intro h
    rw [List.flatMap_cons, List.forall_mem_append] at h
    exact .cons (.object (.cons (alike_json item h.1) (.refl _))) (alikeItems_json rest h.2)

/-- The renamed panels of an accordion are like the panels in their JSON form. -/
theorem alikePanels_json : ∀ panels : List (String × ContentObject),
    (∀ id ∈ panels.flatMap fun p => p.2.ids, KeepsLacking part ρ id) →
      AlikeItems part (jsonPanels panels) (jsonPanels (renamePanels ρ panels))
  | [] => fun _ => .nil
  | (title, content) :: rest => by
    intro h
    rw [List.flatMap_cons, List.forall_mem_append] at h
    exact .cons (.object (.cons (alike_json content h.1) (.refl _))) (alikePanels_json rest h.2)

end

end ContentObject

end InteractiveBook.Content
