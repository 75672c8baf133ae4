import InteractiveBook.Html.Postprocess
import InteractiveBook.Markdown.Html
import InteractiveBook.Proofs.Html.Tag

/-!
# Images that are left

Every image tag gives way to a placeholder, and the text between the tags makes no new one. The
placeholder shows a name that was taken from the tag, and that name is not escaped: where it has the
opening of an image tag in it, the end of the placeholder closes the tag. A text without images is
not changed, so images can be replaced again without effect exactly when none is left.
-/

namespace InteractiveBook.Html

/-! ### What an image is -/

/-- An image tag is opened at the start: the letters of its name are in either case, and no
character of a word comes right behind them. -/
def BeginsImage (cs : List Char) : Prop :=
  ∃ letters behind, Spells TagKind.image.name letters ∧ cs = '<' :: (letters ++ behind) ∧
    ∀ c ∈ behind.head?, Text.isWord c = false

/-- An image tag is opened somewhere in a text, whether or not it is closed. -/
def OpensImage (cs : List Char) : Prop := ∃ s, s <:+ cs ∧ BeginsImage s

/-- A text has an image: somewhere an image tag is opened, and later there is a closing sign. -/
def HasImage (cs : List Char) : Prop := ∃ s, s <:+ cs ∧ BeginsImage s ∧ '>' ∈ s

/-- A letter of the name is one of six. -/
theorem mem_of_spells_image {letters : List Char} (h : Spells TagKind.image.name letters) :
    ∀ c ∈ letters, c ∈ ['i', 'I', 'm', 'M', 'g', 'G'] := by
  intro c hc
  obtain ⟨small, hsmall, hletter⟩ := h.exists_of_mem hc
  have hcases : small = 'i' ∨ small = 'm' ∨ small = 'g' := by simpa [TagKind.image] using hsmall
  rcases hcases with rfl | rfl | rfl
  all_goals
    rcases isLetter_iff.1 hletter with rfl | rfl | ⟨hlong, -⟩
    · decide
    · decide
    · exact absurd hlong (by decide)

/-- What may follow the name starts with no character of a word. -/
theorem admits_image_iff {cs : List Char} :
    TagKind.image.admits cs = true ↔ ∀ c ∈ cs.head?, Text.isWord c = false := by
  cases cs <;> simp [TagKind.image]

/-- What starts with no character of a word still does when a sign that is none is put behind. -/
theorem head?_append_cons {c : Char} (h : Text.isWord c = false) (cs rest : List Char) :
    (∀ d ∈ (cs ++ c :: rest).head?, Text.isWord d = false) ↔
      ∀ d ∈ cs.head?, Text.isWord d = false := by
  cases cs <;> simp [h]

/-- The signs around a tag and the bracket that ends a placeholder are no characters of words. -/
theorem isWord_signs : Text.isWord '<' = false ∧ Text.isWord '>' = false ∧
    Text.isWord ']' = false := by decide

/-- An image is opened at the start and closed later exactly when an image tag is found there. -/
theorem beginsImage_iff {cs : List Char} :
    BeginsImage cs ∧ '>' ∈ cs ↔ ∃ m, tagAt? .image cs = some m := by
  constructor
  · rintro ⟨⟨letters, behind, hletters, rfl, hhead⟩, hclosed⟩
    have hname : '>' ∉ letters := fun h => absurd (mem_of_spells_image hletters _ h) (by decide)
    have hmem : '>' ∈ behind := by simpa [hname] using hclosed
    obtain ⟨inside, rest, rfl, hinside⟩ := List.eq_append_cons_of_mem hmem
    have hadmits : TagKind.image.admits inside = true :=
      admits_image_iff.2 ((head?_append_cons isWord_signs.2.1 inside rest).1 hhead)
    refine ⟨⟨'<' :: letters, inside⟩, tagAt?_eq_some_iff.2 ⟨⟨⟨letters, rfl, hletters⟩, hinside,
      hadmits⟩, rest, ?_⟩⟩
    simp [TagMatch.written]
  · rintro ⟨m, hm⟩
    obtain ⟨⟨⟨letters, hopening, hletters⟩, hinside, hadmits⟩, rest, rfl⟩ := tagAt?_eq_some_iff.1 hm
    refine ⟨⟨letters, m.inside ++ '>' :: rest, hletters, ?_, ?_⟩, ?_⟩
    · simp [TagMatch.written, hopening]
    · exact (head?_append_cons isWord_signs.2.1 m.inside rest).2 (admits_image_iff.1 hadmits)
    · simp [TagMatch.written]

/-- The empty text has no image. -/
theorem not_hasImage_nil : ¬HasImage [] := by
  rintro ⟨s, hs, -, hclosed⟩
  rw [List.suffix_nil.1 hs] at hclosed
  cases hclosed

/-- An image of a text is at its start or behind its first character. -/
theorem hasImage_cons {c : Char} {cs : List Char} :
    HasImage (c :: cs) ↔ (BeginsImage (c :: cs) ∧ '>' ∈ c :: cs) ∨ HasImage cs := by
  constructor
  · rintro ⟨s, hs, himage⟩
    rcases List.suffix_cons_iff.1 hs with rfl | hs
    · exact .inl himage
    · exact .inr ⟨s, hs, himage⟩
  · rintro (himage | ⟨s, hs, himage⟩)
    · exact ⟨c :: cs, List.suffix_refl _, himage⟩
    · exact ⟨s, hs.trans (List.suffix_cons c cs), himage⟩

/-- An image tag of a text is opened at its start or behind its first character. -/
theorem opensImage_cons {c : Char} {cs : List Char} :
    OpensImage (c :: cs) ↔ BeginsImage (c :: cs) ∨ OpensImage cs := by
  constructor
  · rintro ⟨s, hs, himage⟩
    rcases List.suffix_cons_iff.1 hs with rfl | hs
    · exact .inl himage
    · exact .inr ⟨s, hs, himage⟩
  · rintro (himage | ⟨s, hs, himage⟩)
    · exact ⟨c :: cs, List.suffix_refl _, himage⟩
    · exact ⟨s, hs.trans (List.suffix_cons c cs), himage⟩

/-- A text has an image at a character at which a tag is found. -/
theorem hasImage_cons_of_none {c : Char} {cs : List Char}
    (h : tagAt? .image (c :: cs) = none) : HasImage (c :: cs) ↔ HasImage cs := by
  rw [hasImage_cons, beginsImage_iff, h]
  simp

/-- No image begins with another character than the opening sign. -/
theorem not_beginsImage_of_ne {c : Char} {cs : List Char} (h : c ≠ '<') :
    ¬BeginsImage (c :: cs) := by
  rintro ⟨letters, behind, -, heq, -⟩
  exact h (List.cons.inj heq).1

/-- No image begins in a stretch without opening signs. -/
theorem hasImage_append_of_not_mem {front rest : List Char} (h : '<' ∉ front) :
    HasImage (front ++ rest) ↔ HasImage rest := by
  induction front with
  | nil => rfl
  | cons c front ih =>
    have hc : c ≠ '<' := fun heq => h (heq ▸ List.mem_cons_self)
    have hfront : '<' ∉ front := fun hmem => h (List.mem_cons_of_mem c hmem)
    rw [List.cons_append, hasImage_cons, ih hfront]
    exact or_iff_right fun himage => not_beginsImage_of_ne hc himage.1

/-! ### What the placeholder shows -/

/-- What a placeholder has before the name. -/
def placeholderFront : String :=
  "<span class=\"h5pbook-image-placeholder\" style=\"" ++ placeholderStyle ++ "\">[Image: "

/-- What a placeholder has behind the name. -/
def placeholderBack : String := "]</span>"

/-- A placeholder shows a name as it is. -/
theorem toList_imagePlaceholder (name : List Char) :
    (imagePlaceholder (String.ofList name)).toList =
      placeholderFront.toList ++ name ++ placeholderBack.toList := by
  have hparts : imagePlaceholder (String.ofList name) =
      placeholderFront ++ String.ofList name ++ placeholderBack := rfl
  rw [hparts, String.toList_append, String.toList_append, String.toList_ofList]

/-- Placeholders of different names are different. -/
theorem imagePlaceholder_injective {name name' : List Char}
    (h : imagePlaceholder (String.ofList name) = imagePlaceholder (String.ofList name')) :
    name = name' := by
  have hchars := congrArg String.toList h
  rw [toList_imagePlaceholder, toList_imagePlaceholder, List.append_cancel_right_eq,
    List.append_cancel_left_eq] at hchars
  exact hchars

/-- No image begins at an opening sign behind which comes no letter of the name. -/
theorem hasImage_sign {c : Char} (h : isLetter 'i' c = false) (rest : List Char) :
    HasImage ('<' :: c :: rest) ↔ HasImage (c :: rest) := by
  rw [hasImage_cons]
  refine or_iff_right ?_
  rintro ⟨⟨letters, behind, hletters, heq, -⟩, -⟩
  cases hletters with
  | cons hletter _ =>
    obtain ⟨rfl, -⟩ := List.cons.inj (List.cons.inj heq).2
    exact absurd hletter (by simp [h])

/-- The opening sign of a placeholder is followed by a small letter s, and before the name there is
no other opening sign. -/
theorem placeholderFront_spec : ∃ behind, placeholderFront.toList = '<' :: 's' :: behind ∧
    '<' ∉ 's' :: behind := by
  have hstyle : '<' ∉ placeholderStyle.toList := by
    intro hmem
    have hparts : placeholderStyle.toList = _ ++ _ := String.toList_append
    rw [hparts] at hmem
    exact (List.mem_append.1 hmem).elim (by decide) (by decide)
  have hfront : placeholderFront.toList = _ ++ _ := String.toList_append
  refine ⟨("pan class=\"h5pbook-image-placeholder\" style=\"".toList ++ placeholderStyle.toList)
    ++ "\">[Image: ".toList, ?_, ?_⟩
  · have hopening :
        ("<span class=\"h5pbook-image-placeholder\" style=\"" ++ placeholderStyle).toList =
        _ ++ _ := String.toList_append
    rw [hfront, hopening]
    rfl
  · rw [← List.cons_append, ← List.cons_append]
    intro hmem
    rcases List.mem_append.1 hmem with hmem | hmem
    · exact (List.mem_append.1 hmem).elim (by decide) hstyle
    · exact absurd hmem (by decide)

/-- What stands before the name in a placeholder begins no image. -/
theorem hasImage_placeholderFront (rest : List Char) :
    HasImage (placeholderFront.toList ++ rest) ↔ HasImage rest := by
  obtain ⟨behind, hfront, hplain⟩ := placeholderFront_spec
  rw [hfront, List.cons_append, List.cons_append, hasImage_sign (by decide), ← List.cons_append,
    hasImage_append_of_not_mem hplain]

/-- What stands behind the name in a placeholder begins no image. -/
theorem hasImage_placeholderBack (rest : List Char) :
    HasImage (placeholderBack.toList ++ rest) ↔ HasImage rest := by
  have hback : placeholderBack.toList ++ rest = [']'] ++ '<' :: ("/span>".toList ++ rest) := rfl
  have hspan : "/span>".toList ++ rest = '/' :: ("span>".toList ++ rest) := rfl
  rw [hback, hasImage_append_of_not_mem (by decide), hspan, hasImage_sign (by decide), ← hspan,
    hasImage_append_of_not_mem (by decide)]

/-- An image that is opened before a closing bracket is opened before anything else comes. -/
theorem beginsImage_append_bracket {cs rest : List Char} :
    BeginsImage (cs ++ ']' :: rest) ↔ BeginsImage cs := by
  constructor
  · rintro ⟨letters, behind, hletters, heq, hhead⟩
    cases cs with
    | nil => cases heq
    | cons c cs =>
      rw [List.cons_append] at heq
      obtain ⟨rfl, hsplit⟩ := List.cons.inj heq
      rcases List.append_eq_append_iff.1 hsplit with ⟨more, rfl, hmore⟩ | ⟨more, rfl, hmore⟩
      · -- The letters would go on behind the bracket.
        cases more with
        | nil => exact ⟨cs ++ [], [], hletters, by simp, nofun⟩
        | cons d more =>
          obtain ⟨rfl, -⟩ := List.cons.inj hmore
          exact absurd (mem_of_spells_image hletters ']' (by simp)) (by decide)
      · rw [hmore] at hhead
        exact ⟨letters, more, hletters, rfl, (head?_append_cons isWord_signs.2.2 more rest).1 hhead⟩
  · rintro ⟨letters, behind, hletters, rfl, hhead⟩
    exact ⟨letters, behind ++ ']' :: rest, hletters, by simp,
      (head?_append_cons isWord_signs.2.2 behind rest).2 hhead⟩

/-- The name in a placeholder has an image when it opens one: the placeholder closes it. -/
theorem hasImage_name (name rest : List Char) :
    HasImage (name ++ (placeholderBack.toList ++ rest)) ↔ OpensImage name ∨ HasImage rest := by
  have hback : placeholderBack.toList ++ rest = ']' :: ("</span>".toList ++ rest) := rfl
  induction name with
  | nil =>
    have hnil : ¬OpensImage [] := by
      rintro ⟨s, hs, letters, behind, -, heq, -⟩
      rw [List.suffix_nil.1 hs] at heq
      cases heq
    rw [List.nil_append, hasImage_placeholderBack, or_iff_right hnil]
  | cons c name ih =>
    have hmem : '>' ∈ c :: (name ++ (placeholderBack.toList ++ rest)) := by simp [hback]
    have hbegins : BeginsImage (c :: (name ++ (placeholderBack.toList ++ rest))) ↔
        BeginsImage (c :: name) := by
      rw [hback, ← List.cons_append, beginsImage_append_bracket]
    calc HasImage (c :: (name ++ (placeholderBack.toList ++ rest)))
        ↔ BeginsImage (c :: name) ∨ HasImage (name ++ (placeholderBack.toList ++ rest)) := by
          rw [hasImage_cons, and_iff_left hmem, hbegins]
      _ ↔ BeginsImage (c :: name) ∨ OpensImage name ∨ HasImage rest := or_congr_right ih
      _ ↔ OpensImage (c :: name) ∨ HasImage rest := by rw [opensImage_cons, or_assoc]

/-- A placeholder has an image when the name that it shows opens one. -/
theorem hasImage_replaceImage (m : TagMatch) (rest : List Char) :
    HasImage (replaceImage m ++ rest) ↔ OpensImage (imageName m) ∨ HasImage rest := by
  rw [replaceImage, toList_imagePlaceholder, List.append_assoc, List.append_assoc,
    hasImage_placeholderFront, hasImage_name]

/-! ### Images after replacing -/

/-- The text with every image replaced. -/
def withoutImages (cs : List Char) : List Char := replaceTags .image replaceImage 0 cs

/-- Replacing the images of a text replaces them in its characters. -/
theorem toList_replaceImages (html : String) :
    (replaceImages html).toList = withoutImages html.toList := String.toList_ofList

/-- A placeholder begins with an opening sign. -/
theorem replaceImage_eq_cons (m : TagMatch) : ∃ behind, replaceImage m = '<' :: 's' :: behind := by
  obtain ⟨behind, hfront, -⟩ := placeholderFront_spec
  rw [replaceImage, toList_imagePlaceholder, hfront]
  exact ⟨_, rfl⟩

/-- The text between the tags makes no new image. -/
theorem hasImage_cons_withoutImages {c : Char} {cs : List Char}
    (h : tagAt? .image (c :: cs) = none) :
    HasImage (c :: withoutImages cs) ↔ HasImage (withoutImages cs) := by
  have hsign (m : TagMatch) (_ : m.IsOf .image) : (replaceImage m).head? = some '<' := by
    obtain ⟨behind, hbehind⟩ := replaceImage_eq_cons m
    rw [hbehind, List.head?_cons]
  exact hasImage_cons_of_none (tagAt?_cons_replaceTags isPlain_image hsign h)

/-- An image is left exactly when the name that some image tag gives opens one. -/
theorem hasImage_withoutImages_iff (cs : List Char) :
    HasImage (withoutImages cs) ↔ ∃ m ∈ tagsIn .image cs, OpensImage (imageName m) := by
  induction cs using pieces_induction TagKind.image with
  | nil => simp [withoutImages, replaceTags, tagsIn, pieces, not_hasImage_nil]
  | tag m rest hm ih =>
    rw [tagsIn_tag hm, List.exists_mem_cons_iff, ← ih, withoutImages, replaceTags_tag hm]
    exact hasImage_replaceImage m _
  | plain c rest hnone ih =>
    rw [tagsIn_plain hnone, ← ih, withoutImages, replaceTags_plain hnone]
    exact hasImage_cons_withoutImages hnone

/-- A text is left as it is exactly when it has no image. -/
theorem withoutImages_eq_self_iff (cs : List Char) : withoutImages cs = cs ↔ ¬HasImage cs := by
  induction cs using pieces_induction TagKind.image with
  | nil => simp [withoutImages, replaceTags, not_hasImage_nil]
  | tag m rest hm _ =>
    have himage : HasImage (m.written ++ rest) :=
      ⟨_, List.suffix_refl _, beginsImage_iff.2 ⟨m, hm.tagAt? rest⟩⟩
    refine iff_of_false ?_ (not_not_intro himage)
    obtain ⟨behind, hbehind⟩ := replaceImage_eq_cons m
    obtain ⟨letters, hopening, hletters⟩ := hm.opening
    rw [withoutImages, replaceTags_tag hm, hbehind, TagMatch.written, hopening]
    -- The placeholder has another letter behind its sign than the tag.
    cases hletters with
    | cons hletter _ =>
      intro heq
      obtain ⟨rfl, -⟩ := List.cons.inj (List.cons.inj heq).2
      exact absurd hletter (by decide)
  | plain c rest hnone ih =>
    rw [hasImage_cons_of_none hnone, ← ih, withoutImages, replaceTags_plain hnone, List.cons.injEq,
      and_iff_right rfl]
    rfl

/-- When the images of a text are replaced, an image is left exactly when some image tag of the text
gives a name that opens one. Replacing the images again changes nothing exactly when none is
left. -/
theorem hasImage_replaceImages_iff (html : String) :
    (HasImage (replaceImages html).toList ↔
      ∃ m ∈ tagsIn .image html.toList, OpensImage (imageName m)) ∧
    (replaceImages (replaceImages html) = replaceImages html ↔
      ¬HasImage (replaceImages html).toList) := by
  constructor
  · rw [toList_replaceImages]
    exact hasImage_withoutImages_iff html.toList
  · rw [← withoutImages_eq_self_iff, ← toList_replaceImages, String.toList_inj]

/-- An image whose address opens an image in its turn. -/
def nestedImage : String := "<img src=\"<img\">"

/-- The image in the source of a book is rendered as it is, and when it is replaced an image is
left, so that replacing images once more gives something else. -/
theorem nestedImage_left : Markdown.toHtml {} nestedImage = nestedImage ∧
    HasImage (replaceImages (Markdown.toHtml {} nestedImage)).toList ∧
    replaceImages (replaceImages (Markdown.toHtml {} nestedImage)) ≠
      replaceImages (Markdown.toHtml {} nestedImage) := by
  have hrendered : Markdown.toHtml {} nestedImage = nestedImage := by decide +kernel
  have htag : (tagsIn .image nestedImage.toList).map imageName = ["<img".toList] := by
    decide +kernel
  have hopens : OpensImage "<img".toList :=
    ⟨_, List.suffix_refl _, "img".toList, [], by simp [Spells, TagKind.image, isLetter], rfl, nofun⟩
  have hleft : HasImage (withoutImages nestedImage.toList) := by
    obtain ⟨m, hm, hname⟩ := List.mem_map.1 (htag ▸ List.mem_singleton_self "<img".toList)
    exact (hasImage_withoutImages_iff _).2 ⟨m, hm, hname ▸ hopens⟩
  rw [hrendered, toList_replaceImages]
  refine ⟨rfl, hleft, fun heq => ?_⟩
  have hsame := congrArg String.toList heq
  rw [toList_replaceImages, toList_replaceImages] at hsame
  exact (withoutImages_eq_self_iff _).1 hsame hleft

end InteractiveBook.Html
