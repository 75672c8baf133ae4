import InteractiveBook.Html.Postprocess
import InteractiveBook.Markdown.Html
import InteractiveBook.Proofs.Html.Attribute
import InteractiveBook.Proofs.Text.Path

/-!
# The class of a table

The class of a table tag is looked for as a piece of text: letters that do not go on with a word, an
equals sign and a value in quotation marks. What is found need not be an attribute of that name. A
name may end in the letters behind a hyphen, and the letters may stand in the value of another
attribute. A table is styled without harm to its other attributes when what is found is the class,
or when nothing is.
-/

namespace InteractiveBook.Html

/-- The name of the attribute for classes. -/
def className : List Char := ['c', 'l', 'a', 's', 's']

/-- The name of the attribute for classes in letters of either case. -/
def IsClassName (name : List Char) : Prop := name.map Char.toLower = className

instance : DecidablePred IsClassName := fun name =>
  inferInstanceAs (Decidable (name.map Char.toLower = className))

/-- Among the attributes is a class that has the one of the book's tables among its words. -/
def IsStyled (attributes : List Attribute) : Prop :=
  ∃ a ∈ attributes, a.name = className ∧ tableClass.toList ∈ Text.splitOnChar ' ' a.value

instance : DecidablePred IsStyled := fun attributes =>
  inferInstanceAs (Decidable (∃ a ∈ attributes,
    a.name = className ∧ tableClass.toList ∈ Text.splitOnChar ' ' a.value))

/-- All attributes but those for classes are kept, in their order and as often as they were. -/
def KeepsOthers (before after : List Attribute) : Prop :=
  (before.filter (¬IsClassName ·.name)).Sublist (after.filter (¬IsClassName ·.name))

instance (before after : List Attribute) : Decidable (KeepsOthers before after) :=
  inferInstanceAs (Decidable (List.Sublist _ _))

/-! ### The tag that a table gets -/

/-- What is taken for the class of a tag. -/
def TagMatch.takenClass? (m : TagMatch) : Option AttributeMatch :=
  findAttribute? className false m.inside

/-- The name that ends in the letters that are taken for the name of the class. -/
def TagMatch.takenName? (m : TagMatch) : Option (List Char) :=
  m.takenClass?.map fun a => (placeAfter .between a.before).begun ++
    (m.inside.drop a.before.length).take className.length

/-- What is taken for the class begins in the value of an attribute. -/
def TagMatch.TakesValue (m : TagMatch) : Prop :=
  ∃ a ∈ m.takenClass?, (placeAfter .between a.before).InValue

instance : DecidablePred TagMatch.TakesValue := fun m =>
  inferInstanceAs (Decidable (∃ a ∈ m.takenClass?, (placeAfter .between a.before).InValue))

/-- What the tag that a table gets has behind its name. -/
def styledInside (m : TagMatch) : List Char :=
  match m.takenClass? with
  | some a =>
    a.before ++ (quotedAttribute className [] [] (a.value ++ ' ' :: tableClass.toList) ++ a.after)
  | none => ' ' :: (quotedAttribute className [] [] tableClass.toList ++ m.inside)

/-- The tag that a table gets. -/
def styledTable (m : TagMatch) : TagMatch := ⟨'<' :: TagKind.table.name, styledInside m⟩

/-- What replaces a table tag is written as a tag. -/
theorem classifyTable_eq (m : TagMatch) : classifyTable m = (styledTable m).written := by
  have hopening : "<table".toList = '<' :: TagKind.table.name := rfl
  have hclass : "class=\"".toList = className ++ ['=', '"'] := rfl
  have hfirst : "<table class=\"".toList =
      '<' :: (TagKind.table.name ++ ' ' :: (className ++ ['=', '"'])) := rfl
  unfold classifyTable TagMatch.written styledTable styledInside TagMatch.takenClass? quotedAttribute
  change (match findAttribute? className false m.inside with | some a => _ | none => _) = _
  cases findAttribute? className false m.inside with
  | some a => simp [hopening, hclass]
  | none => simp [hfirst]

/-- What is taken for a class is written as one. -/
theorem exists_of_takenClass? {m : TagMatch} {a : AttributeMatch} (h : m.takenClass? = some a) :
    ∃ letters space space', Spells className letters ∧
      (∀ c ∈ space, Text.isWhiteSpace c = true) ∧ (∀ c ∈ space', Text.isWhiteSpace c = true) ∧
      '"' ∉ a.value ∧
      m.inside = a.before ++ (quotedAttribute letters space space' a.value ++ a.after) := by
  obtain ⟨rest, hinside, hrest⟩ := attributeAt?_of_findAttribute? h
  obtain ⟨letters, space, space', hletters, hspace, hspace', hvalue, rfl⟩ :=
    attributeAt?_eq_some_iff.1 hrest
  exact ⟨letters, space, space', hletters, hspace, hspace', hvalue, hinside⟩

/-- The letters of the class go on with a name. -/
theorem isNameChar_of_spells {letters : List Char} (h : Spells className letters) :
    ∀ c ∈ letters, IsNameChar c := by
  intro c hc
  obtain ⟨small, hsmall, hletter⟩ := h.exists_of_mem hc
  have hcases : small = 'c' ∨ small = 'l' ∨ small = 'a' ∨ small = 's' := by
    simpa [className] using hsmall
  rcases isLetter_iff.1 hletter with rfl | rfl | ⟨-, rfl⟩
  · rcases hcases with rfl | rfl | rfl | rfl <;> decide
  · rcases hcases with rfl | rfl | rfl | rfl <;> decide
  · decide

/-- The name spells itself. -/
theorem spells_className : Spells className className := by simp [Spells, className, isLetter]

/-- The tag that a table gets is a table tag. -/
theorem TagMatch.IsOf.styledTable {m : TagMatch} (h : m.IsOf .table) :
    (styledTable m).IsOf .table := by
  have hopening : ∃ letters, (Html.styledTable m).opening = '<' :: letters ∧
      Spells TagKind.table.name letters :=
    ⟨TagKind.table.name, rfl, by simp [Spells, TagKind.table, isLetter]⟩
  have hclass : '>' ∉ className := by decide
  have hword : '>' ∉ tableClass.toList := by decide
  have hclosed := h.closed
  have hadmitted := h.admitted
  cases hfound : m.takenClass? with
  | none =>
    refine ⟨hopening, ?_, ?_⟩
    · simp [Html.styledTable, styledInside, hfound, quotedAttribute, hclass, hword, hclosed]
    · have hspace : Text.isWhiteSpace ' ' = true := by decide
      simp [Html.styledTable, styledInside, hfound, TagKind.table, hspace]
  | some a =>
    obtain ⟨letters, space, space', hletters, -, -, -, hinside⟩ := exists_of_takenClass? hfound
    rw [hinside] at hclosed hadmitted
    refine ⟨hopening, ?_, ?_⟩
    · simp only [quotedAttribute, List.mem_append, List.mem_cons, not_or] at hclosed
      simp [Html.styledTable, styledInside, hfound, quotedAttribute, hclass, hword, hclosed]
    · -- Letters cannot follow the name of the tag at once, so something stands before them.
      cases hbefore : a.before with
      | nil =>
        cases hletters with
        | @cons _ c _ _ hletter hrest =>
          have hspace := (isNameChar_of_spells (.cons hletter hrest) c List.mem_cons_self).1
          rw [hbefore] at hadmitted
          simp [quotedAttribute, TagKind.table, hspace] at hadmitted
      | cons c before =>
        rw [hbefore] at hadmitted
        simpa [Html.styledTable, styledInside, hfound, TagKind.table, hbefore] using hadmitted

/-- The table tags of a text with styled tables are those that its table tags get. -/
theorem tagsIn_addTableClasses (html : String) :
    tagsIn .table (addTableClasses html).toList = (tagsIn .table html.toList).map styledTable := by
  have hclassify : classifyTable = fun m => (styledTable m).written := funext classifyTable_eq
  rw [addTableClasses, String.toList_ofList, hclassify]
  exact tagsIn_replaceTags isPlain_table styledTable (fun _ hm => hm.styledTable) html.toList

/-! ### The attributes of a styled table -/

/-- A table gets the class in front of its attributes when nothing is taken for its class.
Otherwise one attribute, whose name ends in the letters of the class, is changed: these letters are
made small, and the value gets one more word. -/
theorem attributes_styledTable {m : TagMatch} (hplace : ¬m.TakesValue) :
    (m.takenName? = none ∧
      (styledTable m).attributes = ⟨className, tableClass.toList⟩ :: m.attributes) ∨
    ∃ first begun letters value last, Spells className letters ∧
      m.takenName? = some (begun ++ letters) ∧
      m.attributes = first ++ ⟨begun ++ letters, value⟩ :: last ∧
      (styledTable m).attributes =
        first ++ ⟨begun ++ className, value ++ ' ' :: tableClass.toList⟩ :: last := by
  have hclass := isNameChar_of_spells spells_className
  have hne : className ≠ [] := List.cons_ne_nil _ _
  cases hfound : m.takenClass? with
  | none =>
    refine .inl ⟨by rw [TagMatch.takenName?, hfound]; rfl, ?_⟩
    have hinside : (styledTable m).inside =
        ' ' :: (quotedAttribute className [] [] tableClass.toList ++ m.inside) := by
      simp only [styledTable, styledInside, hfound]
    have hspace : Place.step .between ' ' = (.between, none) := by decide
    rw [TagMatch.attributes, hinside, attributesFrom, hspace]
    dsimp only
    rw [attributesFrom_quotedAttribute id hclass hne (List.forall_mem_nil _)
      (List.forall_mem_nil _) (by decide)]
    rfl
  | some a =>
    obtain ⟨letters, space, space', hletters, hspace, hspace', hvalue, hinside⟩ :=
      exists_of_takenClass? hfound
    have hp : ¬(placeAfter .between a.before).InValue := fun h => hplace ⟨a, hfound, h⟩
    have hlength : letters.length = className.length := hletters.length_eq.symm
    have hletters_ne : letters ≠ [] := by
      rintro rfl
      cases hlength
    have hname : m.takenName? = some ((placeAfter .between a.before).begun ++ letters) := by
      rw [TagMatch.takenName?, hfound, Option.map_some, hinside, List.drop_left, ← hlength,
        quotedAttribute_append, List.take_left]
    have hstyled : (styledTable m).inside = a.before ++ (quotedAttribute className [] []
        (a.value ++ ' ' :: tableClass.toList) ++ a.after) := by
      simp only [styledTable, styledInside, hfound]
    have hword : '"' ∉ a.value ++ ' ' :: tableClass.toList :=
      List.not_mem_append hvalue (by decide)
    obtain ⟨first, hfirst⟩ := exists_attributesFrom_append .between a.before
    refine .inr ⟨first ++ (placeAfter .between a.before).overtaken.toList, _, letters, a.value,
      attributesFrom .between a.after, hletters, hname, ?_, ?_⟩
    · rw [TagMatch.attributes, hinside, hfirst,
        attributesFrom_quotedAttribute hp (isNameChar_of_spells hletters) hletters_ne hspace hspace'
          hvalue, List.append_assoc]
    · rw [TagMatch.attributes, hstyled, hfirst,
        attributesFrom_quotedAttribute hp hclass hne (List.forall_mem_nil _)
          (List.forall_mem_nil _) hword, List.append_assoc]

/-- A value with one more word has that word. -/
theorem mem_splitOnChar_word (value : List Char) :
    tableClass.toList ∈ Text.splitOnChar ' ' (value ++ ' ' :: tableClass.toList) := by
  have hword : Text.splitOnChar ' ' tableClass.toList = [tableClass.toList] :=
    Text.splitOnChar_of_not_mem (by decide)
  rw [Text.splitOnChar_append_sep, hword]
  exact List.mem_append_right _ List.mem_cons_self

/-- When one attribute is changed, and its value with it, the others are kept exactly if it is one
for classes. -/
theorem keepsOthers_append_cons_iff {first last : List Attribute} {a b : Attribute}
    (hvalue : a.value ≠ b.value) (hname : IsClassName a.name → IsClassName b.name) :
    KeepsOthers (first ++ a :: last) (first ++ b :: last) ↔ IsClassName a.name := by
  rw [KeepsOthers, List.filter_append, List.filter_append, List.append_sublist_append_left]
  by_cases ha : IsClassName a.name
  · rw [List.filter_cons_of_neg (by simpa using ha), List.filter_cons_of_neg (by simpa using hname ha)]
    exact iff_of_true (List.Sublist.refl _) ha
  · refine iff_of_false (fun hsub => ?_) ha
    rw [List.filter_cons_of_pos (by simpa using ha)] at hsub
    by_cases hb : IsClassName b.name
    · rw [List.filter_cons_of_neg (by simpa using hb)] at hsub
      exact absurd hsub.length_le (by simp)
    · rw [List.filter_cons_of_pos (by simpa using hb)] at hsub
      have heq := hsub.eq_of_length (by simp)
      exact hvalue (congrArg Attribute.value (List.cons.inj heq).1)

/-- Every table tag of a text with styled tables is made of a table tag of the text. Where what is
taken for the class of the tag does not begin in a value, the tag is styled and keeps its other
attributes exactly when nothing is taken or what is taken has the name of the class, in letters of
either case. -/
theorem addTableClasses_styles_iff (html : String) :
    tagsIn .table (addTableClasses html).toList = (tagsIn .table html.toList).map styledTable ∧
    ∀ m ∈ tagsIn .table html.toList, ¬m.TakesValue →
      (IsStyled (styledTable m).attributes ∧
          KeepsOthers m.attributes (styledTable m).attributes ↔
        ∀ name ∈ m.takenName?, IsClassName name) := by
  refine ⟨tagsIn_addTableClasses html, fun m _ hplace => ?_⟩
  rcases attributes_styledTable hplace with
    ⟨hnone, hstyled⟩ | ⟨first, begun, letters, value, last, hletters, hname, hattributes, hstyled⟩
  · rw [hnone, hstyled]
    have hword : tableClass.toList ∈ Text.splitOnChar ' ' tableClass.toList := by decide
    refine iff_of_true ⟨⟨_, List.mem_cons_self, rfl, hword⟩, ?_⟩ nofun
    rw [KeepsOthers, List.filter_cons_of_neg (by decide)]
  · have hlength : letters.length = className.length := hletters.length_eq.symm
    -- A name of the length of the class that ends in five letters has nothing before them.
    have hbegun : IsClassName (begun ++ letters) → begun = [] := by
      intro hclass
      have hsame := congrArg List.length hclass
      rw [List.length_map, List.length_append, hlength] at hsame
      exact List.length_eq_zero_iff.1 (by omega)
    have hchanged : IsClassName (begun ++ letters) → IsClassName (begun ++ className) := by
      intro hclass
      rw [hbegun hclass]
      decide
    have hkeeps : KeepsOthers (first ++ ⟨begun ++ letters, value⟩ :: last)
        (first ++ ⟨begun ++ className, value ++ ' ' :: tableClass.toList⟩ :: last) ↔
          IsClassName (begun ++ letters) :=
      keepsOthers_append_cons_iff (by simp) hchanged
    rw [hname, hstyled, hattributes, hkeeps]
    simp only [Option.mem_def, Option.some.injEq, forall_eq']
    refine and_iff_right_of_imp fun hclass => ?_
    exact ⟨_, List.mem_append_right _ List.mem_cons_self, by rw [hbegun hclass, List.nil_append],
      mem_splitOnChar_word value⟩

/-- A table with a border and a class, whose name is in capital letters with spaces behind it. -/
def wideTable : String := "<p><table border='1' CLASS = \"wide\"></p>"

/-- It is styled and keeps its border. -/
theorem wideTable_styled : (tagsIn .table wideTable.toList).length = 1 ∧
    ∀ m ∈ tagsIn .table wideTable.toList, ¬m.TakesValue ∧ IsStyled (styledTable m).attributes ∧
      KeepsOthers m.attributes (styledTable m).attributes := by
  have htags : ∀ m ∈ tagsIn .table wideTable.toList, ¬m.TakesValue ∧
      ∀ name ∈ m.takenName?, IsClassName name := by decide +kernel
  refine ⟨by decide +kernel, fun m hm => ?_⟩
  obtain ⟨hplace, hname⟩ := htags m hm
  exact ⟨hplace, ((addTableClasses_styles_iff wideTable).2 m hm hplace).2 hname⟩

/-- A table with an attribute whose name ends in the one of the class. -/
def hyphenatedClass : String := "<table data-class=\"x\">"

/-- The table in the source of a book is rendered as it is. The word goes into the other attribute,
so the table gets no class and its attribute is not kept. -/
theorem hyphenatedClass_unstyled : Markdown.toHtml {} hyphenatedClass = hyphenatedClass ∧
    addTableClasses hyphenatedClass = "<table data-class=\"x h5pbook-table\">" ∧
    (∃ m ∈ tagsIn .table (addTableClasses hyphenatedClass).toList, ¬IsStyled m.attributes) ∧
    ∃ m ∈ tagsIn .table hyphenatedClass.toList,
      ¬KeepsOthers m.attributes (styledTable m).attributes := by
  refine ⟨by decide +kernel, by decide +kernel, by decide +kernel, by decide +kernel⟩

end InteractiveBook.Html
