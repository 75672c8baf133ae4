import InteractiveBook.Package.Assembly
import InteractiveBook.Proofs.Content.Identifier
import InteractiveBook.Proofs.Content.ObjectJson
import InteractiveBook.Proofs.Json.Mention

/-!
# The content document

The document of a package is that of its template with the chapters replaced. Read back, it has the
members that were written, so that replacing the chapters a second time gives the document that
replacing them once would have given. Renaming identifiers decides nothing about the image.
-/

namespace InteractiveBook.Package

open Content Json

/-- The members of the content document of a book. -/
def documentMembers (template : Archive) (chapters : List ContentObject) : List (String × Json) :=
  insertMember "chapters" (Json.array (chapters.map ContentObject.json)).canonical
    (contentMembers template)

/-- The text of the document is the layout of its members. -/
theorem contentText_eq (template : Archive) (chapters : List ContentObject) :
    contentText template chapters = (Json.object (documentMembers template chapters)).compact := rfl

/-- The bytes of a text are read as the text. -/
theorem fromUTF8?_toUTF8 (s : String) : String.fromUTF8? s.toUTF8 = some s := by
  have hvalid : s.toUTF8.IsValidUTF8 := s.isValidUTF8
  rw [String.fromUTF8?, dif_pos hvalid]
  rfl

/-- The bytes of a text are decoded to the text. -/
theorem decodeUtf8_bytesOf (s : String) : Text.decodeUtf8 (Text.bytesOf s) = .ok s := by
  rw [Text.decodeUtf8, Text.bytesOf, fromUTF8?_toUTF8]

/-- The members of the document of a template are in canonical form and keep to the bounds of the
reader. -/
theorem contentMembers_spec (template : Archive) : Ascending (contentMembers template) ∧
    ∀ m ∈ contentMembers template, m.2.canonical = m.2 ∧ m.2.fitsWithin 126 = true := by
  rw [contentMembers]
  cases hread : (template.read? contentName).bind objectOf? with
  | none => exact ⟨.nil, by simp⟩
  | some members =>
    obtain ⟨data, -, hdata⟩ := Option.bind_eq_some_iff.1 hread
    rw [objectOf?] at hdata
    split at hdata
    · rename_i found hfound
      obtain rfl := Option.some.inj hdata
      obtain ⟨s, -, hs⟩ := Option.bind_eq_some_iff.1 hfound
      obtain ⟨hc, hf⟩ := canonical_fitsWithin_of_parse? hs
      obtain ⟨hascending, hvalues⟩ := ascending_of_canonical_object hc
      exact ⟨hascending, fun m hm => ⟨hvalues m hm, membersFit_iff.1 hf m hm⟩⟩
    · cases hdata

/-- The chapters of a document have no real numbers. -/
theorem chapters_isWhole (chapters : List ContentObject) :
    (Json.array (chapters.map ContentObject.json)).canonical.isWhole = true := by
  refine isWhole_canonical _ (wholeItems_iff.2 fun v hv => ?_)
  obtain ⟨o, -, rfl⟩ := List.mem_map.1 hv
  exact o.json_isWhole

/-- The members of a document are in ascending order of their keys and in canonical form. -/
theorem canonical_documentMembers (template : Archive) (chapters : List ContentObject) :
    Ascending (documentMembers template chapters) ∧
      (Json.object (documentMembers template chapters)).canonical =
        Json.object (documentMembers template chapters) := by
  obtain ⟨hascending, hmembers⟩ := contentMembers_spec template
  have hdocument : Ascending (documentMembers template chapters) := hascending.insertMember _ _
  refine ⟨hdocument, canonical_object hdocument fun m hm => ?_⟩
  rcases mem_insertMember hm with rfl | hm
  · exact canonical_canonical _
  · exact (hmembers m hm).1

/-- A document takes two containers more than its chapters, if that is no less than what the reader
allows. -/
theorem fitsWithin_document (template : Archive) {chapters : List ContentObject} {room : Nat}
    (hroom : maxNesting ≤ room + 2) (h : ∀ o ∈ chapters, o.json.fitsWithin room = true) :
    (Json.object (documentMembers template chapters)).fitsWithin (room + 2) = true := by
  refine membersFit_iff.2 fun m hm => ?_
  rcases mem_insertMember hm with rfl | hm
  · refine fitsWithin_canonical (room + 1) _ (itemsFit_iff.2 fun v hv => ?_)
    obtain ⟨o, ho, rfl⟩ := List.mem_map.1 hv
    exact h o ho
  · have hle : 126 ≤ room + 1 := Nat.le_of_succ_le_succ hroom
    exact fitsWithin_mono hle ((contentMembers_spec template).2 m hm).2

/-- The document of a book fits into some number of containers, however deep its chapters are
nested. -/
theorem exists_document_fits (template : Archive) (chapters : List ContentObject) :
    ∃ room, (Json.object (documentMembers template chapters)).fitsWithin room = true := by
  obtain ⟨room, hchapters⟩ : ∃ room, itemsFit room (chapters.map ContentObject.json) = true := by
    refine exists_itemsFit fun v hv => ?_
    obtain ⟨o, -, rfl⟩ := List.mem_map.1 hv
    exact o.exists_json_fits
  have hroom : maxNesting ≤ max room 125 + 2 := Nat.add_le_add_right (Nat.le_max_right room 125) 2
  exact ⟨_, fitsWithin_document template hroom fun o ho =>
    fitsWithin_mono (Nat.le_max_left room 125)
      (itemsFit_iff.1 hchapters _ (List.mem_map_of_mem ho))⟩

/-- The reader allows as many containers as a document nests exactly if its chapters leave room for
the two around them. -/
theorem fitsWithin_maxNesting_iff (template : Archive) (chapters : List ContentObject) :
    (Json.object (documentMembers template chapters)).fitsWithin maxNesting = true ↔
      ∀ o ∈ chapters, o.json.canonical.fitsWithin 125 = true := by
  have hlist : (Json.array (chapters.map ContentObject.json)).canonical.fitsWithin 126 = true ↔
      ∀ o ∈ chapters, o.json.canonical.fitsWithin 125 = true := by
    rw [canonical, canonicalItems_eq_map, List.map_map]
    exact itemsFit_iff.trans List.forall_mem_map
  rw [← hlist]
  refine membersFit_iff.trans ⟨fun h => h _ (mem_insertMember_self ..), fun h m hm => ?_⟩
  rcases mem_insertMember hm with rfl | hm
  · exact h
  · exact ((contentMembers_spec template).2 m hm).2

/-- The reader makes an object of a text if it makes one of the value that the text is read as. -/
theorem objectOf?_toUTF8 (s : String) : objectOf? s.toUTF8 =
    match parse? s with
    | some (.object members) => some members
    | _ => none := by
  rw [objectOf?, fromUTF8?_toUTF8]
  rfl

/-- The document of a book can be read again by the reader, provided that its chapters are not
nested too deep. -/
theorem objectOf?_contentText_reread (template : Archive) {chapters : List ContentObject}
    (h : ∀ o ∈ chapters, o.json.fitsWithin 125 = true) :
    objectOf? (contentText template chapters).toUTF8 =
      some (rereadMembers (documentMembers template chapters)) := by
  have hfit : (Json.object (documentMembers template chapters)).fitsWithin maxNesting = true :=
    fitsWithin_document template (Nat.le_refl maxNesting) h
  rw [objectOf?_toUTF8, contentText_eq,
    parse?_compact (canonical_documentMembers template chapters).2 hfit, reread]

/-- What the reader finds in the document of a book are its members, read back. It finds something
exactly if the chapters are not nested too deep. -/
theorem objectOf?_contentText_iff (template : Archive) (chapters : List ContentObject) :
    ((objectOf? (contentText template chapters).toUTF8).isSome = true ↔
      ∀ o ∈ chapters, o.json.canonical.fitsWithin 125 = true) ∧
    ∀ members ∈ objectOf? (contentText template chapters).toUTF8,
      members = rereadMembers (documentMembers template chapters) := by
  have hcanonical := (canonical_documentMembers template chapters).2
  obtain ⟨room, hfits⟩ := exists_document_fits template chapters
  have hread := parse?_compact_isSome_iff hcanonical hfits
  rw [objectOf?_toUTF8, contentText_eq, ← fitsWithin_maxNesting_iff]
  by_cases hfit : (Json.object (documentMembers template chapters)).fitsWithin maxNesting = true
  · rw [parse?_compact hcanonical hfit, reread]
    exact ⟨iff_of_true rfl hfit, fun members h => (Option.some.inj h).symm⟩
  · have hnone : parse? (Json.object (documentMembers template chapters)).compact = none :=
      Option.not_isSome_iff_eq_none.1 (mt hread.1 hfit)
    rw [hnone]
    exact ⟨iff_of_false nofun hfit, fun members h => nomatch h⟩

/-- The document of a book is read back with its members if that of the template has no real
numbers. -/
theorem objectOf?_contentText {template : Archive} {chapters : List ContentObject}
    (hw : ∀ m ∈ contentMembers template, m.2.isWhole = true)
    (h : ∀ o ∈ chapters, o.json.fitsWithin 125 = true) :
    objectOf? (contentText template chapters).toUTF8 =
      some (documentMembers template chapters) := by
  have hwhole : wholeMembers (documentMembers template chapters) = true := by
    refine wholeMembers_iff.2 fun m hm => ?_
    rcases mem_insertMember hm with rfl | hm
    · exact chapters_isWhole chapters
    · exact hw m hm
  rw [objectOf?_contentText_reread template h, rereadMembers_of_wholeMembers _ hwhole]

/-- Replacing the chapters of a document a second time gives what replacing them once would have
given. -/
theorem contentText_of_contentMembers {template package : Archive}
    {chapters : List ContentObject} (chapters' : List ContentObject)
    (h : contentMembers package = documentMembers template chapters) :
    contentText package chapters' = contentText template chapters' := by
  rw [contentText_eq, contentText_eq, documentMembers, h, documentMembers,
    insertMember_insertMember, ← documentMembers]

/-! ### The search in the document -/

/-- The path of the image is found in a document wherever it stands. -/
theorem isFindable_placeholderPath : IsFindable placeholderPath.toList := by
  have hunescaped : (placeholderPath.toList.all fun c => escapeChar c == [c]) = true := by
    decide +kernel
  refine ⟨by simp [IsPlain, placeholderPath], fun c hc => ?_, fun c hc => ?_, by decide⟩
  · exact eq_of_beq (List.all_eq_true.1 hunescaped c hc)
  · obtain rfl : 'i' = c := Option.some.inj hc
    decide

/-- A document mentions the image: a key or a text has its path in it. -/
def MentionsImage (members : List (String × Json)) : Prop :=
  ∃ s ∈ memberTexts members, Text.containsText placeholderPath s = true

/-- The search in the text of a document decides whether the document mentions the image. -/
theorem containsText_contentText_iff (template : Archive) (chapters : List ContentObject) :
    Text.containsText placeholderPath (contentText template chapters) = true ↔
      MentionsImage (documentMembers template chapters) := by
  simp only [MentionsImage, Text.containsText, Text.containsChars_iff]
  rw [contentText_eq, isFindable_placeholderPath.infix_compact_iff, texts]

/-- Whether a document mentions the image does not depend on the names of random identifiers. -/
theorem containsText_contentText_rename (template : Archive) {chapters : List ContentObject}
    {ρ : SubContentId → SubContentId}
    (h : ∀ o ∈ chapters, ∀ id ∈ o.ids, KeepsLacking placeholderPath.toList ρ id) :
    Text.containsText placeholderPath (contentText template (chapters.map (·.rename ρ))) =
      Text.containsText placeholderPath (contentText template chapters) := by
  have hitems : AlikeItems placeholderPath.toList (chapters.map ContentObject.json)
      ((chapters.map (·.rename ρ)).map ContentObject.json) := by
    induction chapters with
    | nil => exact .nil
    | cons o rest ih =>
      obtain ⟨ho, hrest⟩ := List.forall_mem_cons.1 h
      exact .cons (ContentObject.alike_json o ho) (ih hrest)
  have halike : Alike placeholderPath.toList (Json.object (documentMembers template chapters))
      (Json.object (documentMembers template (chapters.map (·.rename ρ)))) :=
    .object ((AlikeMembers.refl _).insertMember "chapters" (Alike.array hitems).canonical)
  rw [Bool.eq_iff_iff, Text.containsText, Text.containsText, Text.containsChars_iff,
    Text.containsChars_iff, contentText_eq, contentText_eq]
  exact (halike.infix_compact_iff isFindable_placeholderPath.plain).symm

end InteractiveBook.Package
