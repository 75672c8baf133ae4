import InteractiveBook.Proofs.Content.Column
import InteractiveBook.Proofs.Content.Walk
import InteractiveBook.Proofs.Package.Delivery
import InteractiveBook.Proofs.Recompilation

/-!
# The images of a book

Every image that is built shows one file. Whether a package needs the file is decided by a search in
the text of its document, which finds the path exactly when a key or a text of the document has it.
The paths of images are among these texts, so the file is there wherever an image shows it; and where
nothing mentions it, it is not added.
-/

namespace InteractiveBook

open Content Json Library Package Source

namespace Content

/-- The path of the file in the parameters of an object, if they have one. -/
def ContentObject.filePath? (o : ContentObject) : Option String :=
  match ((o.json.member? "params").bind (member? "file")).bind (member? "path") with
  | some (string path) => some path
  | _ => none

/-! ### Building -/

/-- An object that shows the placeholder if it is an image, and so do all the objects inside it. -/
def ShowsPlaceholder (o : ContentObject) : Prop :=
  ∀ inner ∈ o.walk, inner.shape = .image → inner.filePath? = some placeholderPath

/-- An object that is no image shows the placeholder if the objects that it holds do. -/
theorem showsPlaceholder_of_children {o : ContentObject} (hshape : o.shape ≠ .image)
    (hchildren : ∀ child ∈ o.children, ShowsPlaceholder child) : ShowsPlaceholder o := by
  intro inner hinner himage
  rw [ContentObject.walk_eq] at hinner
  obtain rfl | hinner := List.mem_cons.1 hinner
  · exact absurd himage hshape
  · obtain ⟨child, hchild, hwalk⟩ := List.mem_flatMap.1 hinner
    exact hchildren child hchild inner hwalk himage

/-- A leaf that is no image shows the placeholder. -/
theorem yields_newLeaf_shows (library : LibraryId) (title : String) (contentType : ContentType)
    {params : LeafParams} (h : params.contentType ≠ .image) :
    Yields ShowsPlaceholder (newLeaf library title contentType params) := by
  refine (yields_newLeaf _ _ _ _).mono fun o ho => ?_
  obtain ⟨id, rfl⟩ := ho
  exact showsPlaceholder_of_children h fun _ hchild => absurd hchild List.not_mem_nil

/-- What a block is built as shows the placeholder where it is an image. -/
theorem yields_buildWith_shows (ctx : BuildContext) (library : LibraryId) (b : Block) :
    Yields ShowsPlaceholder (buildWith ctx library b) := by
  rw [buildWith]
  cases b.kind with
  | text => exact yields_newLeaf_shows _ _ _ (by simp [LeafParams.contentType])
  | accordion =>
    refine (yields_buildPanels ctx _).bind fun panels hpanels => ?_
    refine (yields_true drawId).bind fun id _ => yields_pure ?_
    refine showsPlaceholder_of_children (by simp [ContentObject.shape]) fun child hchild => ?_
    obtain ⟨p, hp, rfl⟩ := List.mem_map.1 hchild
    obtain ⟨id, title, markdown, hcontent⟩ := hpanels p hp
    rw [hcontent]
    exact showsPlaceholder_of_children (by simp [ContentObject.shape, LeafParams.contentType])
      fun _ hinner => absurd hinner List.not_mem_nil
  | quiz =>
    exact (yields_true _).bind fun choices _ =>
      yields_newLeaf_shows _ _ _ (by simp [LeafParams.contentType])
  | image =>
    refine (yields_newLeaf _ _ _ _).mono fun o ho => ?_
    obtain ⟨id, rfl⟩ := ho
    intro inner hinner himage
    obtain rfl := List.mem_singleton.1 hinner
    rfl
  | video => exact yields_newLeaf_shows _ _ _ (by simp [LeafParams.contentType])
  | fillBlanks => exact yields_newLeaf_shows _ _ _ (by simp [LeafParams.contentType])
  | dragWords => exact yields_newLeaf_shows _ _ _ (by simp [LeafParams.contentType])

/-- The object of a block shows the placeholder where it is an image. -/
theorem yields_buildBlock_shows (ctx : BuildContext) (b : Block) :
    Yields ShowsPlaceholder (buildBlock ctx b) := by
  rw [buildBlock, buildBlock?]
  cases blockLibrary? ctx b with
  | none => exact yields_newLeaf_shows _ _ _ (by simp [LeafParams.contentType])
  | some library => exact yields_buildWith_shows ctx library b

/-- The images of a chapter show the placeholder. -/
theorem yields_buildChapter_shows (ctx : BuildContext) (c : DecodedChapter) :
    Yields ShowsPlaceholder (buildChapter ctx c) := by
  have hitems : Yields (fun items => ∀ item ∈ items, ShowsPlaceholder item)
      (buildItems ctx c.blocks) := by
    cases c.blocks with
    | nil =>
      refine Yields.bind (P := ShowsPlaceholder) ?_ fun item hitem =>
        yields_pure (List.forall_mem_singleton.2 hitem)
      exact yields_newLeaf_shows _ _ _ (by simp [LeafParams.contentType])
    | cons b blocks =>
      exact (yields_mapM (b :: blocks) (yields_buildBlock_shows ctx)).mono fun items hbuilt =>
        forall_mem_of_forall₂ hbuilt
  refine hitems.bind fun items hmem => (yields_true drawId).bind fun id _ => yields_pure ?_
  exact showsPlaceholder_of_children (by simp [ContentObject.shape]) hmem

/-! ### The texts of images -/

/-- An object has the texts of its parameters. -/
theorem ObjectInfo.texts_subset_json (info : ObjectInfo) (params : Json) :
    params.canonical.texts ⊆ (info.json params).canonical.texts := by
  refine texts_subset_canonical_object "params" (by simp) ?_
  exact List.mem_cons_of_mem _ List.mem_cons_self

namespace ContentObject

/-- An object has the texts of the objects that it holds. -/
theorem texts_subset_of_mem_children {o child : ContentObject} (h : child ∈ o.children) :
    child.json.canonical.texts ⊆ o.json.canonical.texts := by
  -- What is held stands in a slot of its own, and the slots are the first parameter.
  have hslot : ∀ (info : ObjectInfo) (key : String) (slots : List Json)
      (more settings : List (String × Json)),
      ((("content", child.json) :: more).map Prod.fst).Nodup →
      object (("content", child.json) :: more) ∈ slots →
      (((key, array slots) :: settings).map Prod.fst).Nodup →
      child.json.canonical.texts ⊆
        (info.json (object ((key, array slots) :: settings))).canonical.texts := by
    intro info key slots more settings hmore hmem hsettings s hs
    have hcontent := texts_subset_canonical_object "content" hmore List.mem_cons_self hs
    have harray := texts_subset_canonical_array hmem hcontent
    have hparams := texts_subset_canonical_object key hsettings List.mem_cons_self harray
    exact info.texts_subset_json _ hparams
  cases o with
  | column info items =>
    rw [json, jsonItems_eq_map]
    exact hslot info _ _ _ _ (by simp) (List.mem_map_of_mem h) (by simp)
  | accordion info panels tag =>
    obtain ⟨p, hp, rfl⟩ := List.mem_map.1 h
    rw [json, jsonPanels_eq_map]
    exact hslot info _ _ _ _ (by simp) (List.mem_map_of_mem hp) (by simp)
  | leaf info params => cases h

/-- The path of the file of an image is among the texts of the image. -/
theorem mem_texts_of_image {o : ContentObject} {path : String} (h : o.shape = .image)
    (hfile : o.filePath? = some path) : path ∈ o.json.canonical.texts := by
  cases o with
  | column info items => cases h
  | accordion info panels tag => cases h
  | leaf info params =>
    cases params with
    | image name file alt decorative =>
      obtain rfl : file.path = path := Option.some.inj hfile
      have hpath : file.path ∈ (string file.path).canonical.texts := List.mem_singleton_self _
      refine info.texts_subset_json _ ?_
      refine texts_subset_canonical_object "file" (by simp)
        (List.mem_cons_of_mem _ List.mem_cons_self) ?_
      exact texts_subset_canonical_object "path" (by simp) List.mem_cons_self hpath
    | _ => cases h

/-- The path of the file of an image is among the texts of every object that the image is part
of. -/
theorem mem_texts_of_mem_walk {o inner : ContentObject} {path : String} (hinner : inner ∈ o.walk)
    (h : inner.shape = .image) (hfile : inner.filePath? = some path) :
    path ∈ o.json.canonical.texts := by
  have hsubset : ∀ inner ∈ o.walk, inner.json.canonical.texts ⊆ o.json.canonical.texts :=
    forall_mem_walk
      (fun _ ho _ hchild => List.Subset.trans (texts_subset_of_mem_children hchild) ho)
      (List.Subset.refl _)
  exact hsubset inner hinner (mem_texts_of_image h hfile)

end ContentObject

end Content

namespace Package

/-! ### Documents with images -/

/-- What is read of a document mentions the image exactly when the document does. -/
theorem mentionsImage_reread (members : List (String × Json)) :
    MentionsImage (rereadMembers members) ↔ MentionsImage members := by
  rw [MentionsImage, memberTexts_rereadMembers, MentionsImage]

/-- A document mentions the image if there is one in its chapters. -/
theorem mentionsImage_of_image (template : Archive) {chapters : List ContentObject}
    {o inner : ContentObject} (ho : o ∈ chapters) (hinner : inner ∈ o.walk)
    (h : inner.shape = .image) (hfile : inner.filePath? = some placeholderPath) :
    MentionsImage (documentMembers template chapters) := by
  have hitem := texts_subset_canonical_array (List.mem_map_of_mem ho)
    (ContentObject.mem_texts_of_mem_walk hinner h hfile)
  have hself : placeholderPath.toList <:+: placeholderPath.toList := List.infix_refl _
  exact ⟨placeholderPath, mem_memberTexts.2 ⟨_, mem_insertMember_self .., .inr hitem⟩,
    Text.containsChars_iff.2 hself⟩

namespace Archive

/-! ### The file of the image -/

/-- A name that is not that of a folder is that of a file that can be read, if it is a name of a
working copy that was written. -/
theorem isSome_read?_reloaded_iff {a : Archive} {name : String}
    (hname : isFolderName name = false) :
    (a.reloaded.read? name).isSome = true ↔ name ∈ a.names := by
  rw [read?, Option.isSome_map, List.find?_isSome, ← names_reloaded, names, List.mem_map]
  constructor
  · rintro ⟨e, he, hfound⟩
    exact ⟨e, he, (of_decide_eq_true hfound).1⟩
  · rintro ⟨e, he, rfl⟩
    obtain ⟨d, -, rfl⟩ := List.mem_map.1 he
    exact ⟨_, he, decide_eq_true ⟨rfl, hname⟩⟩

/-- A package has the image exactly when its template has it or its document mentions it. -/
theorem placeholderName_mem_assembled_iff (template : Archive) (chapters : List ContentObject) :
    placeholderName ∈ (assembled template chapters).names ↔
      placeholderName ∈ template.names ∨ MentionsImage (documentMembers template chapters) := by
  have hdocument : placeholderName ∉
      if contentName ∈ template.names then [] else [contentName] := by
    have hne : placeholderName ≠ contentName := by decide
    split <;> simp [hne]
  rw [names_assembled, List.mem_append, List.mem_append,
    mem_names_withoutFolders isFolderName_placeholderName, or_iff_left hdocument,
    ← containsText_contentText_iff]
  by_cases hmem : placeholderName ∈ template.names
  · exact iff_of_true (.inl hmem) (.inl hmem)
  · rw [or_iff_right hmem, or_iff_right hmem, List.mem_ite_nil_right, lacksPlaceholder_iff]
    simp [hmem]

/-- What a package of a template holds for the images of chapters. -/
structure HoldsImages (template package : Archive) (chapters : List ContentObject) : Prop where
  /-- The file that an image shows can be read. -/
  shown : ∀ o ∈ chapters, ∀ inner ∈ o.walk, inner.shape = .image →
    ∃ path, inner.filePath? = some path ∧ (package.read? (contentRoot ++ path)).isSome = true
  /-- The document can be read, and the file of the images is there only if the template has it or
  the document mentions it. -/
  added : ∃ data members, package.read? contentName = some data ∧ objectOf? data = some members ∧
    (placeholderName ∈ package.names ↔ placeholderName ∈ template.names ∨ MentionsImage members)

/-- A package that was assembled holds what its images need, provided that they show the
placeholder and that the chapters are not nested too deep. -/
theorem holdsImages_assembled {bytes : ByteArray} {template : Archive}
    {chapters : List ContentObject} (h : ofBytes bytes = .ok template)
    (hshow : ∀ o ∈ chapters, ShowsPlaceholder o)
    (hnesting : ∀ o ∈ chapters, o.json.fitsWithin 125 = true) :
    HoldsImages template (assembled template chapters).reloaded chapters := by
  have hnames := placeholderName_mem_assembled_iff template chapters
  constructor
  case shown =>
    intro o ho inner hinner himage
    have hfile := hshow o ho inner hinner himage
    have hmentioned := mentionsImage_of_image template ho hinner himage hfile
    exact ⟨placeholderPath, hfile,
      (isSome_read?_reloaded_iff isFolderName_placeholderName).2 (hnames.2 (.inr hmentioned))⟩
  case added =>
    refine ⟨_, _, read?_document h chapters, objectOf?_contentText_reread template hnesting, ?_⟩
    rw [names_reloaded, mentionsImage_reread]
    exact hnames

end Archive

end Package

namespace Compiler

/-- The images in the chapters that are built from a source show the placeholder. -/
theorem showsPlaceholder_of_buildChapters {c : Compiler} {source : String} {lanes : IdLanes}
    {chapters : List ContentObject} (h : c.buildChapters source lanes = .ok chapters) :
    ∀ o ∈ chapters, ShowsPlaceholder o := by
  obtain ⟨decoded, -, rfl⟩ := exists_decoded h
  exact forall_mem_of_forall₂ (forall₂_buildChapters_of_yields
    (yields_buildChapter_shows c.context) decoded c.options.parallel lanes)

/-- A package that was compiled has the file of every image in its chapters. The file is added only
where a key or a text of the document mentions it. -/
theorem images_delivered {c : Compiler} {source : String} {lanes : IdLanes} {out : ByteArray}
    (h : c.compile source lanes = .ok out) :
    ∃ chapters template, c.buildChapters source lanes = .ok chapters ∧
      Archive.ofBytes c.template.bytes = .ok template ∧
      (Archive.assembled template chapters).IsDelivered c.options.level out ∧
      Archive.HoldsImages template (Archive.assembled template chapters).reloaded chapters := by
  obtain ⟨chapters, hchapters, hassembled⟩ := compile_eq_ok_iff.1 h
  obtain ⟨template, htemplate, hdelivered⟩ := Archive.isDelivered_of_assemblePackage hassembled
  have hnesting : ∀ o ∈ chapters, o.json.fitsWithin 125 = true := fun o ho =>
    (isChapter_of_buildChapters hchapters o ho).json_fits 112
  exact ⟨chapters, template, hchapters, htemplate, hdelivered,
    Archive.holdsImages_assembled htemplate (showsPlaceholder_of_buildChapters hchapters)
      hnesting⟩

/-- A template with a manifest and a library for images. -/
def imageCopy : Archive :=
  (Archive.empty.writeFile manifestName
    "\x7b\"mainLibrary\":\"H5P.InteractiveBook\"\x7d".toUTF8).writeFile
      "H5P.Image-1.1/library.json" "\x7b\x7d".toUTF8

/-- The compiler of the template when its bytes are known. -/
def imageCompiler (bytes : ByteArray) : Compiler :=
  ofTemplate ⟨bytes, ⟨none, "H5P.InteractiveBook", []⟩, imageCopy.names⟩ {}

/-- The one chapter of the source, with its image. -/
def imageChapters : List ContentObject :=
  Content.buildChapters (imageCompiler ByteArray.empty).context
    [⟨"A", [⟨.image, ["![x](y.png)"]⟩]⟩] true (.ofSeed 0)

/-- A source with an image is compiled from the template, and the package has the file that the
template lacks. -/
theorem imageCopy_delivered :
    (imageChapters.map fun o => o.walk.map ContentObject.shape) = [[.column, .image]] ∧
      placeholderName ∉ imageCopy.names ∧ ∃ bytes out, Archive.ofBytes bytes = .ok imageCopy ∧
        (imageCompiler bytes).compile "# A\n![x](y.png)" (.ofSeed 0) = .ok out ∧
        (Archive.assembled imageCopy imageChapters).Fits defaultLevel ∧
          ∃ chapters template,
            (imageCompiler bytes).buildChapters "# A\n![x](y.png)" (.ofSeed 0) = .ok chapters ∧
            Archive.ofBytes (imageCompiler bytes).template.bytes = .ok template ∧
            (Archive.assembled template chapters).IsDelivered
              (imageCompiler bytes).options.level out ∧
            Archive.HoldsImages template (Archive.assembled template chapters).reloaded
              chapters := by
  have hw : imageCopy.WellNamed := (Archive.WellNamed.empty.writeFile ..).writeFile ..
  have hlevel : defaultLevel ≤ Zip.maxLevel := by decide
  have hfit : imageCopy.Fits defaultLevel :=
    Archive.fits_of_entryBound (by decide +kernel) (by decide +kernel) (by decide +kernel)
  obtain ⟨bytes, hread⟩ := hw.exists_ofBytes hlevel hfit (by decide +kernel) (by decide +kernel)
  have hchapters : (imageCompiler bytes).buildChapters "# A\n![x](y.png)" (.ofSeed 0) =
      .ok imageChapters := by
    have hdecode : (Source.decodeSource "# A\n![x](y.png)").toOption =
        some [⟨"A", [⟨.image, ["![x](y.png)"]⟩]⟩] := by decide +kernel
    rw [buildChapters, eq_ok_of_toOption hdecode]
    rfl
  have hpackage : (Archive.assembled imageCopy imageChapters).Fits defaultLevel :=
    Archive.fits_assembled (by decide +kernel) (by decide +kernel) (by decide +kernel)
      (by decide +kernel)
  obtain ⟨out, hassembled⟩ := Archive.exists_assemblePackage hread hlevel hpackage
  have hcompiled : (imageCompiler bytes).compile "# A\n![x](y.png)" (.ofSeed 0) = .ok out :=
    compile_eq_ok_iff.2 ⟨_, hchapters, hassembled⟩
  exact ⟨by decide +kernel, by decide +kernel, bytes, out, hread, hcompiled, hpackage,
    images_delivered hcompiled⟩

end Compiler

end InteractiveBook
