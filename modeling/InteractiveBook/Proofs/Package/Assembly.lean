import InteractiveBook.Package.Assembly
import InteractiveBook.Proofs.Package.Document
import InteractiveBook.Proofs.Package.WorkingCopy

/-!
# What a package keeps of its template

The package of a book is written from a copy of the template in which the document, sometimes the
image, and no other entry is new, and from which explicit folders below the content root are gone.
What is read back of the package is therefore the template with these changes and nothing else.
Folders that carry data are the exception to the removal: they are kept, and being written they lose
their data.
-/

namespace InteractiveBook.Package

open Content

namespace Archive

/-- Whether an entry is a folder below a start of names that carries data. It looks like an
explicit folder once its data is lost. -/
def isLoadedFolder (start : String) (e : ArchiveEntry) : Bool :=
  Text.beginsWith start.toList e.name.toList && e.name.toList.getLast? == some '/'
    && e.data.size != 0

/-- The working copy from which the package of a book is written. -/
def assembled (template : Archive) (chapters : List ContentObject) : Archive :=
  (withContent template chapters).withoutFolders contentRoot

/-! ### The entries of the working copy -/

/-- A name that ends in a slash is that of a folder. -/
theorem isFolderName_of_slash {name : String} (h : name.toList.getLast? = some '/') :
    isFolderName name = true := by
  rw [isFolderName, h]
  rfl

/-- An entry that is removed has the name of a folder. -/
theorem isFolderName_of_isRemoved {start : String} {e : ArchiveEntry}
    (h : isRemoved start e = true) : isFolderName e.name = true := by
  simp only [isRemoved, ArchiveEntry.isFolderMarker, Bool.and_eq_true, beq_iff_eq] at h
  exact isFolderName_of_slash h.2.1.2

/-- An entry that does not have the name of a folder is not removed. -/
theorem isRemoved_of_not_isFolderName {start : String} {e : ArchiveEntry}
    (h : isFolderName e.name = false) : isRemoved start e = false := by
  rw [Bool.eq_false_iff]
  intro hr
  rw [isFolderName_of_isRemoved hr] at h
  cases h

/-- The entries that are left without folders are those that are not removed. -/
theorem mem_withoutFolders {a : Archive} {start : String} {e : ArchiveEntry} :
    e ∈ (a.withoutFolders start).entries ↔ e ∈ a.entries ∧ isRemoved start e = false := by
  rw [withoutFolders, List.mem_filter, Bool.not_eq_true']

/-- Writing a file whose name is not that of a folder and removing folders can change places. -/
theorem filter_writeEntries {start name : String} (data : ByteArray)
    (hname : isFolderName name = false) (es : List ArchiveEntry) :
    (writeEntries name data es).filter (fun e => !isRemoved start e) =
      writeEntries name data (es.filter fun e => !isRemoved start e) := by
  have hkept : ∀ e : ArchiveEntry, e.name = name → isRemoved start e = false := by
    rintro e rfl
    exact isRemoved_of_not_isFolderName hname
  induction es with
  | nil => simp [writeEntries, hkept]
  | cons e es ih =>
    rw [writeEntries]
    by_cases h : e.name = name
    · rw [if_pos h, List.filter_cons_of_pos (by simp [hkept]), List.filter_cons_of_pos
        (by simp [hkept e h]), writeEntries, if_pos h]
    · rw [if_neg h, List.filter_cons, List.filter_cons, ih]
      split
      · rw [writeEntries, if_neg h]
      · rfl

/-- A copy with a file written to it and without folders, in either order. -/
theorem withoutFolders_writeFile (a : Archive) (start : String) {name : String} (data : ByteArray)
    (hname : isFolderName name = false) :
    (a.writeFile name data).withoutFolders start = (a.withoutFolders start).writeFile name data :=
  congrArg Archive.mk (filter_writeEntries data hname a.entries)

/-- The document does not have the name of a folder. -/
theorem isFolderName_contentName : isFolderName contentName = false := by decide

/-- The image does not have the name of a folder. -/
theorem isFolderName_placeholderName : isFolderName placeholderName = false := by decide

/-- A name that is not that of a folder is kept when folders are removed. -/
theorem mem_names_withoutFolders {a : Archive} {start name : String}
    (hname : isFolderName name = false) :
    name ∈ (a.withoutFolders start).names ↔ name ∈ a.names := by
  simp only [names, List.mem_map, mem_withoutFolders]
  constructor
  · rintro ⟨e, he, rfl⟩
    exact ⟨e, he.1, rfl⟩
  · rintro ⟨e, he, rfl⟩
    exact ⟨e, ⟨he, isRemoved_of_not_isFolderName hname⟩, rfl⟩

/-- The image is lacking when the text mentions it and the template has none. -/
theorem lacksPlaceholder_iff {text : String} {a : Archive} :
    lacksPlaceholder text a = true ↔
      Text.containsText placeholderPath text = true ∧ placeholderName ∉ a.names := by
  rw [lacksPlaceholder, Bool.and_eq_true, Bool.not_eq_true', Bool.eq_false_iff, ne_eq, contains_iff]

/-- Writing the document does not decide whether the image is lacking. -/
theorem lacksPlaceholder_writeFile (text : String) (data : ByteArray) (a : Archive) :
    lacksPlaceholder text (a.writeFile contentName data) = lacksPlaceholder text a := by
  have hname : placeholderName ≠ contentName := by decide
  have hmem : placeholderName ∈ (a.writeFile contentName data).names ↔
      placeholderName ∈ a.names := by
    rw [names_writeFile]
    split
    · rfl
    · simp [hname]
  rw [Bool.eq_iff_iff, lacksPlaceholder_iff, lacksPlaceholder_iff, hmem]

/-- The working copy is the template without the folders, with the document and perhaps the
image. -/
theorem assembled_eq (template : Archive) (chapters : List ContentObject) :
    assembled template chapters =
      let text := contentText template chapters
      let copy := (template.withoutFolders contentRoot).writeFile contentName text.toUTF8
      if lacksPlaceholder text template then copy.writeFile placeholderName placeholderImage
      else copy := by
  simp only [assembled, withContent, addPlaceholder, lacksPlaceholder_writeFile]
  split
  · rw [withoutFolders_writeFile _ _ _ isFolderName_placeholderName,
      withoutFolders_writeFile _ _ _ isFolderName_contentName]
  · rw [withoutFolders_writeFile _ _ _ isFolderName_contentName]

/-- A package is the working copy of its template, written. -/
theorem assemblePackage_eq {bytes : ByteArray} {template : Archive}
    (h : ofBytes bytes = .ok template) (chapters : List ContentObject) (level : Int) :
    assemblePackage bytes chapters level = (assembled template chapters).toBytes level := by
  rw [assemblePackage, h]
  simp only [bind, Except.bind, writeContent_eq, removeFolders_eq]
  rfl

/-- A package is written exactly from the working copy of its template. -/
theorem assemblePackage_eq_ok_iff {bytes out : ByteArray} {template : Archive}
    {chapters : List ContentObject} {level : Int} (h : ofBytes bytes = .ok template) :
    assemblePackage bytes chapters level = .ok out ↔
      (assembled template chapters).toBytes level = .ok out := by
  rw [assemblePackage_eq h]

/-- The names in the working copy are those of the template that are kept, in their order, then
that of the document if it is new, and then that of the image if it was lacking. -/
theorem names_assembled (template : Archive) (chapters : List ContentObject) :
    (assembled template chapters).names = (template.withoutFolders contentRoot).names
      ++ (if contentName ∈ template.names then [] else [contentName])
      ++ (if lacksPlaceholder (contentText template chapters) template then [placeholderName]
        else []) := by
  have hcopy : ∀ data, ((template.withoutFolders contentRoot).writeFile contentName data).names =
      (template.withoutFolders contentRoot).names
        ++ (if contentName ∈ template.names then [] else [contentName]) := by
    intro data
    rw [names_writeFile,
      if_congr (mem_names_withoutFolders isFolderName_contentName) rfl rfl]
    split <;> simp
  rw [assembled_eq]
  dsimp only
  by_cases hl : lacksPlaceholder (contentText template chapters) template = true
  · have hnew : placeholderName ∉ template.names := (lacksPlaceholder_iff.1 hl).2
    have hne : placeholderName ≠ contentName := by decide
    have hfresh : placeholderName ∉ ((template.withoutFolders contentRoot).writeFile contentName
        (contentText template chapters).toUTF8).names := by
      rw [hcopy, List.mem_append, not_or, mem_names_withoutFolders isFolderName_placeholderName]
      refine ⟨hnew, ?_⟩
      split <;> simp [hne]
    rw [if_pos hl, if_pos hl, names_writeFile, if_neg hfresh, hcopy]
  · rw [if_neg hl, if_neg hl, hcopy, List.append_nil]

/-- An entry of the working copy is the document, the image or an entry of the template that is not
removed. -/
theorem mem_assembled {template : Archive} {chapters : List ContentObject} {e : ArchiveEntry}
    (h : e ∈ (assembled template chapters).entries) :
    e = ⟨contentName, (contentText template chapters).toUTF8, false⟩ ∨
      e = ⟨placeholderName, placeholderImage, false⟩ ∨
      e ∈ (template.withoutFolders contentRoot).entries := by
  rw [assembled_eq] at h
  dsimp only at h
  split at h
  · rcases mem_writeEntries h with h | h
    · exact .inr (.inl h)
    · rcases mem_writeEntries h with h | h
      · exact .inl h
      · exact .inr (.inr h)
  · rcases mem_writeEntries h with h | h
    · exact .inl h
    · exact .inr (.inr h)

/-- An entry of the template that is not removed is in the working copy, unless it is the
document. -/
theorem mem_assembled_of_mem {template : Archive} {chapters : List ContentObject}
    {e : ArchiveEntry} (h : e ∈ (template.withoutFolders contentRoot).entries)
    (hne : e.name ≠ contentName) : e ∈ (assembled template chapters).entries := by
  have hcopy := mem_writeEntries_of_ne (contentText template chapters).toUTF8 h hne
  rw [assembled_eq]
  dsimp only
  split
  · rename_i hl
    refine mem_writeEntries_of_ne placeholderImage hcopy fun himage => ?_
    exact (lacksPlaceholder_iff.1 hl).2 (List.mem_map.2 ⟨e, (mem_withoutFolders.1 h).1, himage⟩)
  · exact hcopy

/-- The document is in the working copy. -/
theorem document_mem_assembled (template : Archive) (chapters : List ContentObject) :
    (⟨contentName, (contentText template chapters).toUTF8, false⟩ : ArchiveEntry) ∈
      (assembled template chapters).entries := by
  have hne : contentName ≠ placeholderName := by decide
  rw [assembled_eq]
  dsimp only
  split
  · exact mem_writeEntries_of_ne _ (mem_writeEntries_self ..) hne
  · exact mem_writeEntries_self ..

/-- The image is in the working copy if it was lacking. -/
theorem image_mem_assembled {template : Archive} {chapters : List ContentObject}
    (h : lacksPlaceholder (contentText template chapters) template = true) :
    (⟨placeholderName, placeholderImage, false⟩ : ArchiveEntry) ∈
      (assembled template chapters).entries := by
  rw [assembled_eq]
  dsimp only
  rw [if_pos h]
  exact mem_writeEntries_self ..

/-- In the working copy of a template that was loaded, the folders are the entries with names of
folders. -/
theorem isFolder_assembled {template : Archive} {chapters : List ContentObject}
    (h : ∀ e ∈ template.entries, e.isFolder = isFolderName e.name) :
    ∀ e ∈ (assembled template chapters).entries, e.isFolder = isFolderName e.name := by
  intro e he
  rcases mem_assembled he with rfl | rfl | he
  · exact isFolderName_contentName.symm
  · exact isFolderName_placeholderName.symm
  · exact h e (mem_withoutFolders.1 he).1

/-- The working copy of a template that was loaded is well named. -/
theorem WellNamed.assembled {bytes : ByteArray} {template : Archive}
    (h : ofBytes bytes = .ok template) (chapters : List ContentObject) :
    WellNamed (assembled template chapters) := by
  refine .withoutFolders ?_ contentRoot
  rw [withContent, addPlaceholder]
  split
  · exact ((WellNamed.loaded h).writeFile _ _).writeFile _ _
  · exact (WellNamed.loaded h).writeFile _ _

/-- The image adds little to a package. -/
theorem entryBound_image : entryBound ⟨placeholderName, placeholderImage, false⟩ < 2000 := by
  decide +kernel

/-- A package keeps to the sizes when its template takes less than half of them and its document
less than a quarter. -/
theorem fits_assembled {template : Archive} {chapters : List ContentObject} {level : Int}
    (hc : template.size < 65533) (hn : ∀ e ∈ template.entries, e.name.utf8ByteSize ≤ 65535)
    (hs : (template.entries.map entryBound).sum < 2 ^ 31)
    (hd : entryBound ⟨contentName, (contentText template chapters).toUTF8, false⟩ < 2 ^ 30) :
    (assembled template chapters).Fits level := by
  have hkept := sum_entryBound_filter (fun e => !isRemoved contentRoot e) template.entries
  refine fits_of_entryBound ?_ ?_ ?_
  · have hlength := congrArg List.length (names_assembled template chapters)
    have hremoved : (template.withoutFolders contentRoot).names.length ≤ template.size := by
      rw [names, List.length_map]
      exact List.length_filter_le ..
    have hsize : (assembled template chapters).names.length =
        (assembled template chapters).size := by
      rw [names, List.length_map, size]
    rw [List.length_append, List.length_append, hsize] at hlength
    have hnew : ∀ p [Decidable p] (name : String), (if p then [] else [name]).length ≤ 1 ∧
        (if p then [name] else []).length ≤ 1 := by
      intro p _ name
      split <;> simp
    have hdocument := (hnew (contentName ∈ template.names) contentName).1
    have himage := (hnew (lacksPlaceholder (contentText template chapters) template = true)
      placeholderName).2
    omega
  · have hshort : contentName.utf8ByteSize ≤ 65535 ∧ placeholderName.utf8ByteSize ≤ 65535 := by
      decide
    intro e he
    rcases mem_assembled he with rfl | rfl | he
    · exact hshort.1
    · exact hshort.2
    · exact hn e (mem_withoutFolders.1 he).1
  · have hdocument := sum_entryBound_writeEntries contentName
      (contentText template chapters).toUTF8 (template.withoutFolders contentRoot).entries
    have himage := sum_entryBound_writeEntries placeholderName placeholderImage
      ((template.withoutFolders contentRoot).writeFile contentName
        (contentText template chapters).toUTF8).entries
    have hsmall := entryBound_image
    simp only [writeFile, withoutFolders] at hdocument himage
    rw [assembled_eq]
    dsimp only
    split
    · simp only [writeFile, withoutFolders]
      omega
    · simp only [writeFile, withoutFolders]
      omega

/-- A package is assembled if its working copy keeps to the sizes. -/
theorem exists_assemblePackage {bytes : ByteArray} {template : Archive}
    {chapters : List ContentObject} {level : Int} (h : ofBytes bytes = .ok template)
    (hl : level ≤ Zip.maxLevel) (hf : (assembled template chapters).Fits level) :
    ∃ out, assemblePackage bytes chapters level = .ok out := by
  obtain ⟨out, hout⟩ := (WellNamed.assembled h chapters).toBytes_of_fits hl hf
  exact ⟨out, (assemblePackage_eq_ok_iff h).2 hout⟩

/-- A package that was assembled is read back as its working copy with the data of folders lost. -/
theorem ofBytes_of_assemblePackage {bytes out : ByteArray} {template : Archive}
    {chapters : List ContentObject} {level : Int} (h : ofBytes bytes = .ok template)
    (hout : assemblePackage bytes chapters level = .ok out)
    (hf : (assembled template chapters).Fits level) :
    ofBytes out = .ok (assembled template chapters).reloaded := by
  have hb := (assemblePackage_eq_ok_iff h).1 hout
  exact (WellNamed.assembled h chapters).ofBytes_of_toBytes hb (hf.smallWhole out hb) hf.smallData
    hf.count

/-! ### What is read back -/

/-- A package is a template in which nothing but the content document changed: it has the same
files and folders in the same order, without explicit folders below the content root. -/
structure Keeps (template : Archive) (text : String) (package : Archive) : Prop where
  /-- The files other than the document are there with their data. -/
  files : ∀ e ∈ template.entries, isFolderName e.name = false → e.name ≠ contentName →
    (⟨e.name, e.data, false⟩ : ArchiveEntry) ∈ package.entries
  /-- The folders that do not lie in that of the content are there as folders. -/
  folders : ∀ e ∈ template.entries, isFolderName e.name = true →
    Text.beginsWith contentRoot.toList e.name.toList = false →
    (⟨e.name, ByteArray.empty, true⟩ : ArchiveEntry) ∈ package.entries
  /-- The document is there with its new text. -/
  document : (⟨contentName, text.toUTF8, false⟩ : ArchiveEntry) ∈ package.entries
  /-- The image is there if the text mentions it, with the data of the template if it has some. -/
  image : Text.containsText placeholderPath text = true → placeholderName ∉ template.names →
    (⟨placeholderName, placeholderImage, false⟩ : ArchiveEntry) ∈ package.entries
  /-- The names are those of the template that are kept, in their order, then that of the document
  if the template has none, and last that of the image if the text mentions it and the template
  has none. -/
  names : package.names = (template.withoutFolders contentRoot).names
    ++ (if contentName ∈ template.names then [] else [contentName])
    ++ (if Text.containsText placeholderPath text = true ∧ placeholderName ∉ template.names then
      [placeholderName] else [])
  /-- No name comes twice. -/
  nodup : package.names.Nodup

/-- Reading a copy back does not change its names. -/
theorem names_reloaded (a : Archive) : a.reloaded.names = a.names := by
  rw [names, reloaded, List.map_map]
  rfl

/-- A package that is assembled from a template is read back with everything that the template
had: its files, its folders outside the content, and their order. Only the document, an image that
was lacking and the explicit folders of the content make a difference. -/
theorem ofBytes_assemblePackage {bytes out : ByteArray} {template : Archive}
    {chapters : List ContentObject} {level : Int} (h : ofBytes bytes = .ok template)
    (hout : assemblePackage bytes chapters level = .ok out)
    (hf : (assembled template chapters).Fits level) :
    ∃ package, ofBytes out = .ok package ∧
      Keeps template (contentText template chapters) package := by
  have hfolder := isFolder_of_ofBytes h
  have hback : ∀ {e : ArchiveEntry}, e ∈ (assembled template chapters).entries →
      e.reloaded ∈ (assembled template chapters).reloaded.entries := List.mem_map_of_mem
  refine ⟨_, ofBytes_of_assemblePackage h hout hf, ?_⟩
  constructor
  case files =>
    intro e he hfile hne
    have hkept : e ∈ (template.withoutFolders contentRoot).entries :=
      mem_withoutFolders.2 ⟨he, isRemoved_of_not_isFolderName hfile⟩
    have hmem := hback (mem_assembled_of_mem hkept hne)
    rwa [ArchiveEntry.reloaded, hfolder e he, hfile] at hmem
  case folders =>
    intro e he hdir hstart
    have hkept : e ∈ (template.withoutFolders contentRoot).entries :=
      mem_withoutFolders.2 ⟨he, by simp [isRemoved, hstart]⟩
    have hne : e.name ≠ contentName := by
      intro heq
      rw [heq, isFolderName_contentName] at hdir
      cases hdir
    have hmem := hback (mem_assembled_of_mem hkept hne)
    rwa [ArchiveEntry.reloaded, hfolder e he, hdir] at hmem
  case document =>
    have hmem := hback (document_mem_assembled template chapters)
    rwa [ArchiveEntry.reloaded, isFolderName_contentName] at hmem
  case image =>
    intro htext hnew
    have hmem := hback (image_mem_assembled (lacksPlaceholder_iff.2 ⟨htext, hnew⟩))
    rwa [ArchiveEntry.reloaded, isFolderName_placeholderName] at hmem
  case names =>
    rw [names_reloaded, names_assembled, if_congr lacksPlaceholder_iff rfl rfl]
  case nodup =>
    rw [names_reloaded]
    exact (WellNamed.assembled h chapters).nodup

/-- A copy with the folder and the file of a library, an explicit folder of the content, and a file
that has the name of such a folder. -/
def slashCopy : Archive :=
  (((Archive.empty.addFolder "lib").writeFile "lib/a.js" ⟨#[59]⟩).addFolder "content").writeFile
    "content/images/" ⟨#[120]⟩

/-- A chapter that holds an image. -/
def imageChapter : ContentObject :=
  .column (.new ⟨"H5P.Column", 1, 18⟩ ⟨"column"⟩ "A" .column)
    [.leaf (.new ⟨"H5P.Image", 1, 1⟩ ⟨"image"⟩ "Image" .image) (placeholderParams "Image")]

/-- The copy can be written and read back as a template, and packages can be assembled from it. -/
theorem slashCopy_assembled : ∃ bytes, ofBytes bytes = .ok slashCopy.reloaded ∧
    ∀ chapters ∈ [[], [imageChapter]], ∃ out, assemblePackage bytes chapters 6 = .ok out ∧
      (assembled slashCopy.reloaded chapters).Fits 6 := by
  have hw : slashCopy.WellNamed :=
    (((WellNamed.empty.addFolder "lib").writeFile ..).addFolder "content").writeFile ..
  have hf : slashCopy.Fits 6 :=
    fits_of_entryBound (by decide) (by decide +kernel) (by decide +kernel)
  obtain ⟨bytes, hb⟩ := hw.toBytes_of_fits (by decide) hf
  have hread := hw.ofBytes_of_toBytes hb (hf.smallWhole bytes hb) hf.smallData hf.count
  have hdocument : ∀ chapters ∈ [[], [imageChapter]], entryBound
      ⟨contentName, (contentText slashCopy.reloaded chapters).toUTF8, false⟩ < 10000 := by
    decide +kernel
  refine ⟨bytes, hread, fun chapters hchapters => ?_⟩
  have hfit : (assembled slashCopy.reloaded chapters).Fits 6 :=
    fits_assembled (by decide) (by decide +kernel) (by decide +kernel)
      ((hdocument chapters hchapters).trans (by decide))
  obtain ⟨out, hout⟩ := exists_assemblePackage hread (by decide) hfit
  exact ⟨out, hout, hfit⟩

/-- The package of the copy keeps the folder and the file of the library, loses an explicit folder of
the content, and gains the document and the image that its chapter shows. -/
theorem slashCopy_kept :
    ∃ bytes out package, ofBytes bytes = .ok slashCopy.reloaded ∧
      assemblePackage bytes [imageChapter] 6 = .ok out ∧ ofBytes out = .ok package ∧
      (assembled slashCopy.reloaded [imageChapter]).Fits 6 ∧
      Keeps slashCopy.reloaded (contentText slashCopy.reloaded [imageChapter]) package ∧
      package.names = ["lib/", "lib/a.js", "content/images/", contentName, placeholderName] := by
  obtain ⟨bytes, hread, hassembled⟩ := slashCopy_assembled
  obtain ⟨out, hout, hf⟩ := hassembled [imageChapter] (by simp)
  obtain ⟨package, hpackage, hkeeps⟩ := ofBytes_assemblePackage hread hout hf
  have hmentions : Text.containsText placeholderPath
      (contentText slashCopy.reloaded [imageChapter]) = true :=
    (containsText_contentText_iff ..).2 ⟨placeholderPath, by decide +kernel, by decide +kernel⟩
  refine ⟨bytes, out, package, hread, hout, hpackage, hf, hkeeps, ?_⟩
  rw [hkeeps.names, if_congr (and_iff_right hmentions) rfl rfl]
  decide +kernel

/-- A folder with data has the name of a folder. -/
theorem isFolderName_of_isLoadedFolder {start : String} {e : ArchiveEntry}
    (h : isLoadedFolder start e = true) : isFolderName e.name = true := by
  simp only [isLoadedFolder, Bool.and_eq_true, beq_iff_eq] at h
  exact isFolderName_of_slash h.1.2

/-- An explicit folder that is found after a copy was written and read back was a folder with data
before, if the copy had no explicit folders and its folders were told by their names. -/
theorem isRemoved_reloaded {start : String} {e : ArchiveEntry}
    (hfolder : e.isFolder = isFolderName e.name) (hkept : isRemoved start e = false) :
    isRemoved start e.reloaded = isLoadedFolder start e := by
  cases hslash : e.name.toList.getLast? == some '/' with
  | false =>
    simp [isRemoved, isLoadedFolder, ArchiveEntry.isFolderMarker, ArchiveEntry.reloaded, hslash]
  | true =>
    have hname := isFolderName_of_slash (beq_iff_eq.1 hslash)
    have hdir : e.isFolder = true := hfolder.trans hname
    rw [isRemoved, ArchiveEntry.isFolderMarker, hdir, hslash, Bool.true_and, Bool.true_and] at hkept
    simp only [isRemoved, isLoadedFolder, ArchiveEntry.isFolderMarker, ArchiveEntry.reloaded, hname,
      hdir, hslash, Bool.true_and, Bool.and_true, if_true]
    cases hstart : Text.beginsWith start.toList e.name.toList with
    | false => rfl
    | true =>
      rw [hstart, Bool.true_and] at hkept
      simpa [bne] using hkept

/-- The explicit folders of the content that a delivered package still has are those that carried
data in its template. -/
theorem explicitFolder_iff_of_assemblePackage {bytes out : ByteArray} {template : Archive}
    {chapters : List ContentObject} {level : Int} (h : ofBytes bytes = .ok template)
    (hout : assemblePackage bytes chapters level = .ok out)
    (hf : (assembled template chapters).Fits level) :
    ∃ package, ofBytes out = .ok package ∧ ∀ name,
      (∃ e ∈ package.entries, e.name = name ∧ isRemoved contentRoot e = true) ↔
        ∃ e ∈ template.entries, e.name = name ∧ isLoadedFolder contentRoot e = true := by
  have hfolder : ∀ e ∈ (assembled template chapters).entries, e.isFolder = isFolderName e.name :=
    isFolder_assembled (isFolder_of_ofBytes h)
  have hkept : ∀ e ∈ (assembled template chapters).entries, isRemoved contentRoot e = false :=
    fun e he => (mem_withoutFolders.1 he).2
  refine ⟨_, ofBytes_of_assemblePackage h hout hf, fun name => ⟨?_, ?_⟩⟩
  · rintro ⟨e', he', rfl, hr⟩
    obtain ⟨e, he, rfl⟩ := List.mem_map.1 he'
    rw [isRemoved_reloaded (hfolder e he) (hkept e he)] at hr
    have hname := isFolderName_of_isLoadedFolder hr
    rcases mem_assembled he with rfl | rfl | hmem
    · cases isFolderName_contentName.symm.trans hname
    · cases isFolderName_placeholderName.symm.trans hname
    · exact ⟨e, (mem_withoutFolders.1 hmem).1, rfl, hr⟩
  · rintro ⟨e, he, rfl, hr⟩
    have hmem : e ∈ (assembled template chapters).entries := by
      refine mem_assembled_of_mem (mem_withoutFolders.2 ⟨he, ?_⟩) ?_
      · simp only [isLoadedFolder, Bool.and_eq_true, bne_iff_ne] at hr
        simp [isRemoved, ArchiveEntry.isFolderMarker, hr.2]
      · intro heq
        have hname := isFolderName_of_isLoadedFolder hr
        rw [heq, isFolderName_contentName] at hname
        cases hname
    refine ⟨e.reloaded, List.mem_map_of_mem hmem, rfl, ?_⟩
    rw [isRemoved_reloaded (hfolder e hmem) (hkept e hmem), hr]

/-- In the package of the copy the folder with data is the one explicit folder of the content. -/
theorem slashCopy_explicitFolders :
    ∃ bytes out package, ofBytes bytes = .ok slashCopy.reloaded ∧
      assemblePackage bytes [] 6 = .ok out ∧ ofBytes out = .ok package ∧
      ∀ name, (∃ e ∈ package.entries, e.name = name ∧ isRemoved contentRoot e = true) ↔
        name = "content/images/" := by
  obtain ⟨bytes, hread, hassembled⟩ := slashCopy_assembled
  obtain ⟨out, hout, hf⟩ := hassembled [] (by simp)
  obtain ⟨package, hpackage, hiff⟩ := explicitFolder_iff_of_assemblePackage hread hout hf
  refine ⟨bytes, out, package, hread, hout, hpackage, fun name => (hiff name).trans ?_⟩
  have hentries : slashCopy.reloaded.entries.filter (isLoadedFolder contentRoot) =
      [⟨"content/images/", ⟨#[120]⟩, true⟩] := by decide +kernel
  constructor
  · rintro ⟨e, he, rfl, hl⟩
    have hmem : e ∈ slashCopy.reloaded.entries.filter (isLoadedFolder contentRoot) :=
      List.mem_filter.2 ⟨he, hl⟩
    rw [hentries, List.mem_singleton] at hmem
    rw [hmem]
  · rintro rfl
    have hmem : (⟨"content/images/", ⟨#[120]⟩, true⟩ : ArchiveEntry) ∈
        slashCopy.reloaded.entries.filter (isLoadedFolder contentRoot) := by
      rw [hentries]
      exact List.mem_singleton_self _
    exact ⟨_, (List.mem_filter.1 hmem).1, rfl, (List.mem_filter.1 hmem).2⟩

/-- A package can be delivered with an explicit folder of the content: the repair leaves a folder
with data alone, and writing takes the data from it. -/
theorem explicitFolder_delivered :
    ∃ bytes out package, ofBytes bytes = .ok slashCopy.reloaded ∧
      assemblePackage bytes [] 6 = .ok out ∧ ofBytes out = .ok package ∧
      ∃ e ∈ package.entries, e.name = "content/images/" ∧ e.data.size = 0 ∧ e.isFolder = true := by
  obtain ⟨bytes, hread, hassembled⟩ := slashCopy_assembled
  obtain ⟨out, hout, hf⟩ := hassembled [] (by simp)
  refine ⟨bytes, out, _, hread, hout, ofBytes_of_assemblePackage hread hout hf, ?_⟩
  decide +kernel

end Archive

end InteractiveBook.Package
