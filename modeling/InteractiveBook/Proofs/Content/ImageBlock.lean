import InteractiveBook.Proofs.Content.Column
import InteractiveBook.Proofs.Source.ImageLine
import InteractiveBook.Proofs.Source.Segments

/-!
# Images are built from the lines that hold them

A body leaves an image block for a line that is filled by an image. The block has that line and no
other one, and the image that is built from it has the alternative text of the line.
-/

namespace InteractiveBook.Source

/-- An image block of a body is one of its lines, which holds an image. -/
theorem exists_line_of_mem_segment {ls : List String} {b : Block} (hb : b ∈ segment ls)
    (hkind : b.kind = .image) : ∃ line ∈ ls, b.lines = [line] ∧ HoldsImage line := by
  obtain ⟨spans, hreading⟩ := exists_isReading ls
  rw [hreading.segment_eq] at hb
  obtain ⟨span, hspan, hblock⟩ := List.mem_filterMap.1 hb
  obtain ⟨rest, hstands⟩ := hreading.exists_stands span hspan
  cases span with
  | prose tag => cases hblock
  | tagged tag kind body =>
    obtain rfl := Option.some.inj hblock
    exact absurd hkind hstands.1.1
  | image line =>
    obtain rfl := Option.some.inj hblock
    have hline : line ∈ spans.flatMap Span.lines :=
      List.mem_flatMap.2 ⟨.image line, hspan, List.mem_singleton_self line⟩
    exact ⟨line, hreading.flatMap_lines ▸ hline, rfl, hstands⟩
  | run lines =>
    by_cases hblank : IsBlankBody lines
    · rw [Span.block?, if_pos hblank] at hblock
      cases hblock
    · rw [Span.block?, if_neg hblank] at hblock
      obtain rfl := Option.some.inj hblock
      cases hkind

/-- The alternative text that a book shows for an image: that of its line, or a word for the image
where the line has none. -/
def ImageLine.shownAlt (image : ImageLine) : String := if image.alt = "" then "Image" else image.alt

end InteractiveBook.Source

namespace InteractiveBook.Content

open Library Source

/-- A block of one line that holds an image is built as the image, with the alternative text of the
line. -/
theorem yields_image (ctx : BuildContext) (library : LibraryId) {line : String}
    {image : ImageLine} (h : ImageLine.ofLine? line = some image) :
    Yields (fun o => ∃ id, o = .leaf (.new library id image.shownAlt .image)
        (placeholderParams image.shownAlt))
      (buildWith ctx library ⟨.image, [line]⟩) := by
  have halt : imageAlt [line] = image.shownAlt := by
    rw [imageAlt, List.head?_cons, Option.bind_some, h]
    rfl
  have hleaf := yields_newLeaf library (imageAlt [line]) .image (placeholderParams (imageAlt [line]))
  rw [halt] at hleaf
  rw [buildWith, halt]
  exact hleaf

/-- A line holds an image exactly when, trimmed, it is an exclamation mark, a text in square
brackets without a closing one and a path in round brackets without a closing one. It shows the two
in one way only, and they are found trimmed, so that trimmed texts without these brackets are found
again wherever they are written between white space. Every image block of a body is a line that
holds an image, the image is found again when the block is built, and what is built shows its
alternative text, or a word for the image where it has none. -/
theorem imageLine_exact :
    (∀ line image, ImageLine.ofLine? line = some image ↔
      ∃ alt path, IsFilledBy line alt path ∧ image = ⟨Text.trim alt, Text.trim path⟩) ∧
    (∀ line alt path alt' path', IsFilledBy line alt path → IsFilledBy line alt' path' →
      alt' = alt ∧ path' = path) ∧
    (∀ (front back : String) (image : ImageLine), image.IsBare → Text.isBlank front = true →
      Text.isBlank back = true →
        ImageLine.ofLine? (front ++ imageText image.alt image.path ++ back) = some image) ∧
    ∀ ls, ∀ b ∈ segment ls, b.kind = .image → ∃ line ∈ ls, ∃ image, b.lines = [line] ∧
      ImageLine.ofLine? line = some image ∧ b.lines.head?.bind ImageLine.ofLine? = some image ∧
      ∀ (ctx : BuildContext) (library : LibraryId),
        Yields (fun o => ∃ id, o = .leaf (.new library id image.shownAlt .image)
            (placeholderParams image.shownAlt))
          (buildWith ctx library b) := by
  refine ⟨fun line image => ofLine?_eq_some_iff, fun line alt path alt' path' => IsFilledBy.unique,
    fun front back image h => h.ofLine?_imageText, fun ls b hb hkind => ?_⟩
  obtain ⟨line, hline, hlines, hholds⟩ := exists_line_of_mem_segment hb hkind
  obtain ⟨image, himage⟩ := Option.isSome_iff_exists.1 hholds
  have hagain : b.lines.head?.bind ImageLine.ofLine? = some image := by
    rw [hlines, List.head?_cons, Option.bind_some, himage]
  refine ⟨line, hline, image, hlines, himage, hagain, fun ctx library => ?_⟩
  have hblock : b = ⟨.image, [line]⟩ := by
    cases b
    cases hkind
    cases hlines
    rfl
  rw [hblock]
  exact yields_image ctx library himage

/-- A line with an image that has white space around it and around its alternative text. -/
def catLine : String := " ![ A cat ](cat.png)"

/-- The image of the line. -/
def catImage : ImageLine := ⟨"A cat", "cat.png"⟩

/-- The line shows its image in one way, which is built from the block of the line. -/
theorem catLine_built :
    IsFilledBy catLine " A cat " "cat.png" ∧ ImageLine.ofLine? catLine = some catImage ∧
    (∀ alt path, IsFilledBy catLine alt path → alt = " A cat " ∧ path = "cat.png") ∧
    catImage.IsBare ∧
    ImageLine.ofLine? ("\t" ++ imageText "A cat" "cat.png" ++ "  ") = some catImage ∧
    (⟨.image, [catLine]⟩ : Block) ∈ segment ["text", catLine] ∧
    ∀ (ctx : BuildContext) (library : LibraryId),
      Yields (fun o => ∃ id, o = .leaf (.new library id "A cat" .image)
          (placeholderParams "A cat"))
        (buildWith ctx library ⟨.image, [catLine]⟩) := by
  obtain ⟨hexact, hunique, hwritten, hblocks⟩ := imageLine_exact
  have hfilled : IsFilledBy catLine " A cat " "cat.png" := by
    constructor <;> decide +kernel
  have hfound : ImageLine.ofLine? catLine = some catImage :=
    (hexact catLine catImage).2 ⟨_, _, hfilled, by decide +kernel⟩
  have hbare : catImage.IsBare := by
    constructor <;> decide +kernel
  have hmem : (⟨.image, [catLine]⟩ : Block) ∈ segment ["text", catLine] := by decide +kernel
  refine ⟨hfilled, hfound, fun alt path => hunique _ _ _ _ _ hfilled, hbare,
    hwritten "\t" "  " catImage hbare (by decide) (by decide), hmem, fun ctx library => ?_⟩
  obtain ⟨line, -, image, hlines, himage, -, hbuilt⟩ := hblocks _ _ hmem rfl
  obtain rfl : catLine = line := (List.cons.inj hlines).1
  obtain rfl : catImage = image := Option.some.inj (hfound.symm.trans himage)
  exact hbuilt ctx library

end InteractiveBook.Content
