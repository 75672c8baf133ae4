import InteractiveBook.Proofs.Text.Lines
import InteractiveBook.Proofs.Text.Trimming
import InteractiveBook.Source.ImageLine

/-!
# Lines are filled by an image in one way

The first closing square bracket ends the alternative text of an image line and the first closing
round one ends its path, so that the line shows both texts in one way only. Around the image there
may be white space, and so there may be around the two texts.
-/

namespace InteractiveBook.Source

/-- An image as it is written: an exclamation mark, the alternative text in square brackets and the
path in round ones. -/
def imageText (alt path : String) : String := "![" ++ alt ++ "](" ++ path ++ ")"

/-- How a line is filled by an image. -/
structure IsFilledBy (line alt path : String) : Prop where
  /-- Trimmed, the line is the image as it is written. -/
  written : Text.trim line = imageText alt path
  /-- The alternative text has no closing square bracket. -/
  alt_open : ']' ∉ alt.toList
  /-- The path has no closing round bracket. -/
  path_open : ')' ∉ path.toList

variable {line alt path alt' path' front back : String} {image : ImageLine}

/-- The characters of an image as it is written. -/
theorem toList_imageText (alt path : String) : (imageText alt path).toList =
    '!' :: '[' :: (alt.toList ++ ']' :: '(' :: (path.toList ++ [')'])) := by
  simp [imageText, String.toList_append]

/-- Two texts are found between the brackets exactly when they stand there and each is closed by
the first bracket of its kind. -/
theorem parts?_eq_some_iff {cs alt path : List Char} :
    ImageLine.parts? cs = some (alt, path) ↔
      cs = '!' :: '[' :: (alt ++ ']' :: '(' :: (path ++ [')'])) ∧ ']' ∉ alt ∧ ')' ∉ path := by
  constructor
  · intro h
    unfold ImageLine.parts? at h
    split at h
    · next inner =>
      split at h
      · next rest hclosed =>
        split at h
        · next hend =>
          obtain ⟨halt, hpath⟩ := Prod.mk.inj (Option.some.inj h)
          obtain ⟨hinner, haltOpen⟩ := Text.cut_iff.1 ⟨halt, hclosed⟩
          obtain ⟨hrest, hpathOpen⟩ := Text.cut_iff.1 ⟨hpath, hend⟩
          rw [hinner, hrest]
          exact ⟨rfl, haltOpen, hpathOpen⟩
        · cases h
      · cases h
    · cases h
  · rintro ⟨rfl, haltOpen, hpathOpen⟩
    obtain ⟨halt, hclosed⟩ := Text.cut_iff.2
      ⟨Eq.refl (alt ++ ']' :: '(' :: (path ++ [')'])), haltOpen⟩
    obtain ⟨hpath, hend⟩ := Text.cut_iff.2 ⟨Eq.refl (path ++ [')']), hpathOpen⟩
    simp only [ImageLine.parts?, hclosed, hend, halt, hpath]

/-- A line is filled by an image exactly when the two texts are found in it. -/
theorem isFilledBy_iff : IsFilledBy line alt path ↔
    ImageLine.parts? (Text.trimChars line.toList) = some (alt.toList, path.toList) := by
  have hwritten : Text.trim line = imageText alt path ↔
      Text.trimChars line.toList = (imageText alt path).toList := by
    rw [← String.toList_inj, Text.trim, String.toList_ofList]
  rw [parts?_eq_some_iff, ← toList_imageText, ← hwritten]
  exact ⟨fun h => ⟨h.written, h.alt_open, h.path_open⟩, fun h => ⟨h.1, h.2.1, h.2.2⟩⟩

/-- A line shows the two texts of its image in one way. -/
theorem IsFilledBy.unique (h : IsFilledBy line alt path) (h' : IsFilledBy line alt' path') :
    alt' = alt ∧ path' = path := by
  have hparts := (isFilledBy_iff.1 h').symm.trans (isFilledBy_iff.1 h)
  obtain ⟨halt, hpath⟩ := Prod.mk.inj (Option.some.inj hparts)
  exact ⟨String.toList_inj.1 halt, String.toList_inj.1 hpath⟩

/-- The image that is found for a line is the one that fills it, with its texts trimmed. -/
theorem ofLine?_eq_some_iff : ImageLine.ofLine? line = some image ↔
    ∃ alt path, IsFilledBy line alt path ∧ image = ⟨Text.trim alt, Text.trim path⟩ := by
  rw [ImageLine.ofLine?, Option.map_eq_some_iff]
  constructor
  · rintro ⟨⟨alt, path⟩, hparts, rfl⟩
    refine ⟨String.ofList alt, String.ofList path, isFilledBy_iff.2 ?_, ?_⟩
    · rw [hparts, String.toList_ofList, String.toList_ofList]
    · rw [Text.trim, Text.trim, String.toList_ofList, String.toList_ofList]
  · rintro ⟨alt, path, hfilled, rfl⟩
    exact ⟨(alt.toList, path.toList), isFilledBy_iff.1 hfilled, rfl⟩

/-- An image between white space fills the line. -/
theorem isFilledBy_imageText (halt : ']' ∉ alt.toList) (hpath : ')' ∉ path.toList)
    (hfront : Text.isBlank front = true) (hback : Text.isBlank back = true) :
    IsFilledBy (front ++ imageText alt path ++ back) alt path := by
  refine ⟨?_, halt, hpath⟩
  have hends : (∀ c ∈ (imageText alt path).toList.head?, Text.isWhiteSpace c = false) ∧
      ∀ c ∈ (imageText alt path).toList.getLast?, Text.isWhiteSpace c = false := by
    rw [toList_imageText]
    constructor
    · intro c hc
      have hmark : '!' = c := by simpa using hc
      rw [← hmark]
      decide
    · intro c hc
      have hbracket : ')' = c := by simpa [List.getLast?_cons] using hc
      rw [← hbracket]
      decide
  have hne : (imageText alt path).toList ≠ [] := by
    rw [toList_imageText]
    exact List.cons_ne_nil _ _
  have htrim := Text.trimChars_append (List.all_eq_true.1 hfront) hends.1 hends.2 hne
    (List.all_eq_true.1 hback)
  rw [Text.trim, String.toList_append, String.toList_append, List.append_assoc, htrim,
    String.ofList_toList]

/-- Texts that an image line can have: they are trimmed and do not close their own brackets. -/
structure ImageLine.IsBare (image : ImageLine) : Prop where
  /-- The alternative text is trimmed. -/
  alt_trimmed : Text.trim image.alt = image.alt
  /-- The alternative text has no closing square bracket. -/
  alt_open : ']' ∉ image.alt.toList
  /-- The path is trimmed. -/
  path_trimmed : Text.trim image.path = image.path
  /-- The path has no closing round bracket. -/
  path_open : ')' ∉ image.path.toList

/-- An image with bare texts is found where it is written between white space. -/
theorem ImageLine.IsBare.ofLine?_imageText (h : image.IsBare) (hfront : Text.isBlank front = true)
    (hback : Text.isBlank back = true) :
    ImageLine.ofLine? (front ++ imageText image.alt image.path ++ back) = some image := by
  have hfilled := isFilledBy_imageText h.alt_open h.path_open hfront hback
  have hsame : image = ⟨Text.trim image.alt, Text.trim image.path⟩ := by
    rw [h.alt_trimmed, h.path_trimmed]
  exact ofLine?_eq_some_iff.2 ⟨_, _, hfilled, hsame⟩

/-- A bracket of the other kind is part of the text, and a second image is not. -/
example : ImageLine.ofLine? " ![a)(b]( c](d )" = some ⟨"a)(b", "c](d"⟩ ∧
    ImageLine.ofLine? "![a](b)![c](d)" = none := by decide

end InteractiveBook.Source
