import InteractiveBook.Compiler
import InteractiveBook.Proofs.Content.Sharing
import InteractiveBook.Proofs.Package.Document
import InteractiveBook.Proofs.Package.Template

/-!
# Packages as templates

A package is a template again: it has the manifest and the libraries of the template that it was
compiled from. The same source compiled against it gives the same package, except that other
identifiers were drawn.
-/

namespace InteractiveBook

open Content Package

namespace Package.Archive

/-- What a template needs for its packages to be read back as they were assembled: its folders
carry no data, and the numbers in its document are integers. -/
structure IsStable (template : Archive) : Prop where
  /-- Folders carry no data. -/
  folders : ∀ e ∈ template.entries, e.isFolder = true → e.data.size = 0
  /-- The numbers in the document are integers. -/
  numbers : ∀ m ∈ contentMembers template, m.2.isWhole = true

/-- Two packages of one template and the same chapters that differ in the identifiers of the
chapters alone: the second package has them renamed, and different identifiers are renamed
differently. -/
structure EqualButIds (template : Archive) (chapters : List ContentObject)
    (ρ : SubContentId → SubContentId) (package package' : Archive) : Prop where
  /-- Different identifiers in the chapters are renamed differently. -/
  injective : ∀ o ∈ chapters, ∀ o' ∈ chapters, ∀ id ∈ o.ids, ∀ id' ∈ o'.ids, ρ id = ρ id' → id = id'
  /-- The entries have the same names in the same order, are the same files and folders, and have
  the same data except for the document. -/
  entries : List.Forall₂ (fun e e' => e'.name = e.name ∧ e'.isFolder = e.isFolder ∧
    (e.name ≠ contentName → e'.data = e.data)) package.entries package'.entries
  /-- The first document is that of the chapters. -/
  document : package.read? contentName = some (contentText template chapters).toUTF8
  /-- The second document is that of the chapters with the identifiers renamed. -/
  renamed : package'.read? contentName =
    some (contentText template (chapters.map (·.rename ρ))).toUTF8

/-- The folders of a package carry no data if those of its template carry none. -/
theorem IsStable.folders_assembled {template : Archive} (hs : template.IsStable)
    (chapters : List ContentObject) :
    ∀ e ∈ (assembled template chapters).entries, e.isFolder = true → e.data.size = 0 := by
  intro e he hdir
  rcases mem_assembled he with rfl | rfl | he
  · cases hdir
  · cases hdir
  · exact hs.folders e (mem_withoutFolders.1 he).1 hdir

/-- A package of a stable template is read back as it was assembled. -/
theorem ofBytes_of_isStable {bytes out : ByteArray} {template : Archive}
    {chapters : List ContentObject} {level : Int} (h : ofBytes bytes = .ok template)
    (hs : template.IsStable) (hout : assemblePackage bytes chapters level = .ok out)
    (hf : (assembled template chapters).Fits level) :
    ofBytes out = .ok (assembled template chapters) := by
  have hsame : (assembled template chapters).reloaded = assembled template chapters :=
    reloaded_eq_self (isFolder_assembled (isFolder_of_ofBytes h)) (hs.folders_assembled chapters)
  rw [ofBytes_of_assemblePackage h hout hf, hsame]

/-- Folders are removed only once. -/
theorem withoutFolders_assembled (template : Archive) (chapters : List ContentObject) :
    (assembled template chapters).withoutFolders contentRoot = assembled template chapters := by
  rw [assembled, withoutFolders, withoutFolders, List.filter_filter]
  simp only [Bool.and_self]

/-- The document of a package has the members that were written. -/
theorem contentMembers_assembled {bytes : ByteArray} {template : Archive}
    {chapters : List ContentObject} (h : ofBytes bytes = .ok template) (hs : template.IsStable)
    (hc : ∀ o ∈ chapters, o.IsChapter) :
    contentMembers (assembled template chapters) = documentMembers template chapters := by
  have hread := read?_of_mem (WellNamed.assembled h chapters).nodup
    (document_mem_assembled template chapters)
  have hdocument := objectOf?_contentText hs.numbers fun o ho => (hc o ho).json_fits 112
  rw [contentMembers, hread, Option.bind_some, hdocument, Option.getD_some]

/-- A package of a stable template is stable. -/
theorem IsStable.assembled {bytes : ByteArray} {template : Archive}
    {chapters : List ContentObject} (h : ofBytes bytes = .ok template) (hs : template.IsStable)
    (hc : ∀ o ∈ chapters, o.IsChapter) : (Archive.assembled template chapters).IsStable := by
  refine ⟨hs.folders_assembled chapters, fun m hm => ?_⟩
  rw [contentMembers_assembled h hs hc] at hm
  rcases Json.mem_insertMember hm with rfl | hm
  · exact chapters_isWhole chapters
  · exact hs.numbers m hm

/-- Replacing the document of a package by that of the chapters with the identifiers renamed changes
nothing but the identifiers. -/
theorem equalButIds_writeFile {bytes : ByteArray} {template : Archive}
    {chapters : List ContentObject} {ρ : SubContentId → SubContentId}
    (h : ofBytes bytes = .ok template)
    (hinjective : ∀ o ∈ chapters, ∀ o' ∈ chapters, ∀ id ∈ o.ids, ∀ id' ∈ o'.ids,
      ρ id = ρ id' → id = id') :
    EqualButIds template chapters ρ (assembled template chapters)
      ((assembled template chapters).writeFile contentName
        (contentText template (chapters.map (·.rename ρ))).toUTF8) := by
  have hw := WellNamed.assembled h chapters
  have hdocument := document_mem_assembled template chapters
  have hfile : ∀ e ∈ (assembled template chapters).entries, e.name = contentName →
      e.isFolder = false := by
    intro e he hname
    rw [isFolder_assembled (isFolder_of_ofBytes h) e he, hname]
    exact isFolderName_contentName
  exact ⟨hinjective, forall₂_writeEntries _ hfile (List.mem_map_of_mem hdocument),
    read?_of_mem hw.nodup hdocument,
    read?_of_mem (hw.writeFile _ _).nodup (mem_writeEntries_self ..)⟩

/-- Renaming the identifiers of the chapters changes the document of a package and nothing else. -/
theorem assembled_rename (template : Archive) {chapters : List ContentObject}
    {ρ : SubContentId → SubContentId}
    (hlacks : ∀ o ∈ chapters, ∀ id ∈ o.ids, KeepsLacking placeholderPath.toList ρ id) :
    assembled template (chapters.map (·.rename ρ)) =
      (assembled template chapters).writeFile contentName
        (contentText template (chapters.map (·.rename ρ))).toUTF8 := by
  have hlacking : lacksPlaceholder (contentText template (chapters.map (·.rename ρ))) template =
      lacksPlaceholder (contentText template chapters) template := by
    rw [lacksPlaceholder, lacksPlaceholder, containsText_contentText_rename template hlacks]
  have hne : placeholderName ≠ contentName := by decide
  rw [assembled_eq, assembled_eq]
  dsimp only
  rw [hlacking]
  split
  · exact congrArg Archive.mk (writeEntries_between hne _ _ _ _).symm
  · exact congrArg Archive.mk (writeEntries_writeEntries _ _ _ _).symm

/-- What is assembled from a package with the identifiers renamed is what its template would have
given with the identifiers renamed. -/
theorem assembled_assembled {bytes : ByteArray} {template : Archive}
    {chapters : List ContentObject} {ρ : SubContentId → SubContentId}
    (h : ofBytes bytes = .ok template) (hs : template.IsStable)
    (hc : ∀ o ∈ chapters, o.IsChapter)
    (hlacks : ∀ o ∈ chapters, ∀ id ∈ o.ids, KeepsLacking placeholderPath.toList ρ id) :
    assembled (assembled template chapters) (chapters.map (·.rename ρ)) =
      assembled template (chapters.map (·.rename ρ)) := by
  have htext := contentText_of_contentMembers (chapters.map (·.rename ρ))
    (contentMembers_assembled h hs hc)
  have himage : lacksPlaceholder (contentText template (chapters.map (·.rename ρ)))
      (assembled template chapters) = false := by
    rw [Bool.eq_false_iff, ne_eq, lacksPlaceholder_iff,
      containsText_contentText_rename template hlacks]
    rintro ⟨hmentions, hmissing⟩
    rw [names_assembled, List.mem_append, List.mem_append, not_or, not_or,
      mem_names_withoutFolders isFolderName_placeholderName] at hmissing
    rw [if_pos (lacksPlaceholder_iff.2 ⟨hmentions, hmissing.1.1⟩)] at hmissing
    exact hmissing.2 (List.mem_singleton_self _)
  rw [assembled_rename template hlacks, assembled_eq, htext, withoutFolders_assembled]
  dsimp only
  rw [himage]
  rfl

end Package.Archive

namespace Compiler

/-- The package of a source keeps to the sizes. -/
def PackageFits (c : Compiler) (source : String) (lanes : IdLanes) : Prop :=
  ∀ template chapters, Archive.ofBytes c.template.bytes = .ok template →
    c.buildChapters source lanes = .ok chapters →
      (Archive.assembled template chapters).Fits c.options.level

/-- Compiling builds the chapters and assembles the package. -/
theorem compile_eq_ok_iff {c : Compiler} {source : String} {lanes : IdLanes} {out : ByteArray} :
    c.compile source lanes = .ok out ↔ ∃ chapters, c.buildChapters source lanes = .ok chapters ∧
      assemblePackage c.template.bytes chapters c.options.level = .ok out := by
  rw [compile, bind_eq_ok_iff]

/-- The identifiers that are drawn for the chapters of a source are random. -/
def DrawsRandom (c : Compiler) (source : String) (lanes : IdLanes) : Prop :=
  ∀ chapters, c.buildChapters source lanes = .ok chapters →
    AreRandom (chapters.flatMap ContentObject.ids)

/-- The chapters of a source, when there are any, are those of its text, built. -/
theorem exists_decoded {c : Compiler} {source : String} {lanes : IdLanes}
    {chapters : List ContentObject} (h : c.buildChapters source lanes = .ok chapters) :
    ∃ decoded, Source.decodeSource source = .ok decoded ∧
      chapters = Content.buildChapters c.context decoded c.options.parallel lanes := by
  rw [buildChapters, bind_eq_ok_iff] at h
  obtain ⟨decoded, hdecoded, hbuilt⟩ := h
  exact ⟨decoded, hdecoded, (Except.ok.inj hbuilt).symm⟩

/-- The chapters that are built from a source are columns of blocks. -/
theorem isChapter_of_buildChapters {c : Compiler} {source : String} {lanes : IdLanes}
    {chapters : List ContentObject} (h : c.buildChapters source lanes = .ok chapters) :
    ∀ o ∈ chapters, o.IsChapter := by
  obtain ⟨decoded, -, rfl⟩ := exists_decoded h
  exact isChapter_buildChapters c.context decoded c.options.parallel lanes

/-- Supplies that give random identifiers however often they are drawn from do so for a source. -/
theorem drawsRandom_of_random {lanes : IdLanes} (h : lanes.Random) (c : Compiler)
    (source : String) : c.DrawsRandom source lanes := by
  intro chapters hchapters
  obtain ⟨decoded, -, rfl⟩ := exists_decoded hchapters
  exact h.areRandom_buildChapters c.context decoded c.options.parallel

/-- Compilers with the same libraries and options build the same chapters. -/
theorem buildChapters_congr {t t' : Template} (h : t'.libraries = t.libraries)
    (options : CompileOptions) (source : String) (lanes : IdLanes) :
    (ofTemplate t' options).buildChapters source lanes =
      (ofTemplate t options).buildChapters source lanes := by
  rw [buildChapters, buildChapters, context, context, ofTemplate, ofTemplate, h]

/-- From two supplies that give random identifiers the same chapters are built, up to a renaming. It
confuses no identifiers, and the path of the image is in none of them before or after it. -/
theorem exists_renaming {c : Compiler} {source : String} {lanes lanes' : IdLanes}
    {chapters : List ContentObject} (hl : c.DrawsRandom source lanes)
    (hl' : c.DrawsRandom source lanes') (h : c.buildChapters source lanes = .ok chapters) :
    ∃ ρ : SubContentId → SubContentId,
      c.buildChapters source lanes' = .ok (chapters.map (·.rename ρ)) ∧
      (∀ o ∈ chapters, ∀ o' ∈ chapters, ∀ id ∈ o.ids, ∀ id' ∈ o'.ids, ρ id = ρ id' → id = id') ∧
      ∀ o ∈ chapters, ∀ id ∈ o.ids, KeepsLacking placeholderPath.toList ρ id := by
  have hrandom := hl chapters h
  obtain ⟨decoded, hdecoded, rfl⟩ := exists_decoded h
  obtain ⟨ρ, hρ⟩ := exists_renaming_buildChapters hrandom.nodup lanes'
  have hbuilt : c.buildChapters source lanes' = .ok
      ((Content.buildChapters c.context decoded c.options.parallel lanes).map (·.rename ρ)) := by
    rw [buildChapters, hdecoded, ← hρ]
    rfl
  have hrandom' := hl' _ hbuilt
  refine ⟨ρ, hbuilt, ?_, ?_⟩
  · intro o ho o' ho' id hid id' hid' heq
    exact injOn_of_nodup_rename hrandom'.nodup (List.mem_flatMap_of_mem ho hid)
      (List.mem_flatMap_of_mem ho' hid') heq
  · intro o ho id hid
    rw [ContentObject.flatMap_ids_rename] at hrandom'
    have hmem := List.mem_flatMap_of_mem ho hid
    exact ⟨hrandom.lacks hmem, hrandom'.lacks (List.mem_map_of_mem hmem)⟩

/-- A copy can be written if another one can of which it differs in the data of files. -/
theorem toBytes_of_writeFile {a : Archive} {name : String} {data : ByteArray} {level : Int}
    {bytes : ByteArray} (data' : ByteArray) (hw : a.WellNamed) (hb : a.toBytes level = .ok bytes)
    (hfile : (⟨name, data, false⟩ : ArchiveEntry) ∈ a.entries) :
    ∃ bytes', (a.writeFile name data').toBytes level = .ok bytes' := by
  have hwritable := hw.toBytes_isOk_iff.1 ⟨bytes, hb⟩
  refine (hw.writeFile name data').toBytes_isOk_iff.2 fun e he => ?_
  rcases Archive.mem_writeEntries he with rfl | he
  · obtain ⟨hshort, hlevel⟩ := hwritable _ hfile
    exact ⟨hshort, hlevel⟩
  · exact hwritable e he

/-- A package of a stable template is a template with the same manifest and the same libraries. The
same source compiled against it gives a package with the same entries, of which only the document
differs: it has the identifiers renamed. -/
theorem compile_package {bytes out : ByteArray} {t : Template} {template : Archive}
    {options : CompileOptions} {source : String} {lanes lanes' : IdLanes}
    (ht : Template.ofBytes bytes = .ok t) (htemplate : Archive.ofBytes bytes = .ok template)
    (hs : template.IsStable) (hl : (ofTemplate t options).DrawsRandom source lanes)
    (hl' : (ofTemplate t options).DrawsRandom source lanes')
    (hout : (ofTemplate t options).compile source lanes = .ok out)
    (hf : (ofTemplate t options).PackageFits source lanes)
    (hf' : (ofTemplate t options).PackageFits source lanes') :
    ∃ t', Template.ofBytes out = .ok t' ∧ t'.manifest = t.manifest ∧ t'.libraries = t.libraries ∧
      ∃ out', (ofTemplate t' options).compile source lanes' = .ok out' ∧
        ∃ package package', Archive.ofBytes out = .ok package ∧
          Archive.ofBytes out' = .ok package' ∧
            ∃ chapters ρ, (ofTemplate t options).buildChapters source lanes = .ok chapters ∧
              Archive.EqualButIds template chapters ρ package package' := by
  obtain ⟨e, m, hfind, hm, hbook, rfl⟩ := (Template.ofBytes_eq_ok_iff htemplate).1 ht
  obtain ⟨chapters, hchapters, hassembled⟩ := compile_eq_ok_iff.1 hout
  -- The package is read back as it was assembled, and is a template.
  have hpackage : Archive.ofBytes out = .ok (Archive.assembled template chapters) :=
    Archive.ofBytes_of_isStable htemplate hs hassembled (hf template chapters htemplate hchapters)
  have ht' : Template.ofBytes out = .ok ⟨out, m, (Archive.assembled template chapters).names⟩ :=
    (Template.ofBytes_eq_ok_iff hpackage).2
      ⟨e, m, find?_manifest_assembled htemplate chapters hfind, hm, hbook, rfl⟩
  have hlibraries :
      Template.libraries ⟨out, m, (Archive.assembled template chapters).names⟩ =
        Template.libraries ⟨bytes, m, template.names⟩ := by
    simp only [Template.libraries, Library.resolveLibraries, installedLibraries_assembled]
  -- The chapters are the same with the identifiers renamed.
  obtain ⟨ρ, hrenamed, hdistinct, hlacks⟩ := exists_renaming hl hl' hchapters
  have hchapters' := (buildChapters_congr hlibraries options source lanes').trans hrenamed
  have hchapter := isChapter_of_buildChapters hchapters
  -- The package of the package can be written and is read back.
  have hdocument := Archive.assembled_rename template hlacks
  have hcopy := Archive.assembled_assembled htemplate hs hchapter hlacks
  have hstable := hs.assembled htemplate hchapter
  obtain ⟨out', hout'⟩ := toBytes_of_writeFile
    (contentText template (chapters.map (·.rename ρ))).toUTF8
    (Archive.WellNamed.assembled htemplate chapters)
    ((Archive.assemblePackage_eq_ok_iff htemplate).1 hassembled)
    (Archive.document_mem_assembled template chapters)
  rw [← hdocument, ← hcopy, ← Archive.assemblePackage_eq_ok_iff hpackage] at hout'
  have hfits := hf' template _ htemplate hrenamed
  rw [← hcopy] at hfits
  have hpackage' := Archive.ofBytes_of_isStable hpackage hstable hout' hfits
  rw [hcopy, hdocument] at hpackage'
  exact ⟨_, ht', rfl, hlibraries, out', compile_eq_ok_iff.2 ⟨_, hchapters', hout'⟩, _, _, hpackage,
    hpackage', chapters, ρ, hchapters, Archive.equalButIds_writeFile htemplate hdistinct⟩

/-- A template with a manifest, a library, an explicit folder and a document with a number. -/
def bookCopy : Archive :=
  (((Archive.empty.writeFile manifestName
    "\x7b\"mainLibrary\":\"H5P.InteractiveBook\"\x7d".toUTF8).writeFile
      "H5P.Column-1.17/library.json" "\x7b\x7d".toUTF8).addFolder "content").writeFile
        contentName "\x7b\"pages\":7\x7d".toUTF8

/-- The template when its bytes are known. -/
def bookTemplate (bytes : ByteArray) : Template :=
  ⟨bytes, ⟨none, "H5P.InteractiveBook", []⟩, bookCopy.names⟩

/-- The one chapter that is compiled from the template, with the identifiers of a seed. -/
def oneColumn (seed : Nat) : List ContentObject :=
  Content.buildChapters (ofTemplate (bookTemplate ByteArray.empty) {}).context [⟨"A", []⟩] true
    (.ofSeed seed)

/-- The chapter is that of a source, whatever the bytes of the template are. -/
theorem buildChapters_bookTemplate (bytes : ByteArray) (seed : Nat) :
    (ofTemplate (bookTemplate bytes) {}).buildChapters "# A" (.ofSeed seed) =
      .ok (oneColumn seed) := by
  have hdecode : (Source.decodeSource "# A").toOption = some [⟨"A", []⟩] := by decide +kernel
  rw [buildChapters, eq_ok_of_toOption hdecode]
  rfl

/-- The packages of the source keep to the sizes if their documents do. -/
theorem packageFits_bookTemplate {bytes : ByteArray} {seed : Nat}
    (h : Archive.ofBytes bytes = .ok bookCopy)
    (hs : Archive.entryBound
      ⟨contentName, (contentText bookCopy (oneColumn seed)).toUTF8, false⟩ < 10000) :
    (ofTemplate (bookTemplate bytes) {}).PackageFits "# A" (.ofSeed seed) := by
  intro template chapters htemplate hchapters
  obtain rfl := Except.ok.inj (h.symm.trans htemplate)
  rw [buildChapters_bookTemplate, Except.ok.injEq] at hchapters
  rw [← hchapters]
  refine Archive.fits_assembled (by decide +kernel) (by decide +kernel) (by decide +kernel) ?_
  exact hs.trans (by decide)

/-- The copy is written to bytes that are a template, and the source is compiled from it. -/
theorem bookCopy_compiled : bookCopy.IsStable ∧ ∃ bytes out,
    Archive.ofBytes bytes = .ok bookCopy ∧ Template.ofBytes bytes = .ok (bookTemplate bytes) ∧
      (ofTemplate (bookTemplate bytes) {}).compile "# A" (.ofSeed 0) = .ok out ∧
        ∀ seed ∈ [0, 1], (ofTemplate (bookTemplate bytes) {}).PackageFits "# A" (.ofSeed seed) := by
  have hw : bookCopy.WellNamed :=
    (((Archive.WellNamed.empty.writeFile ..).writeFile ..).addFolder _).writeFile ..
  have hfolders : ∀ e ∈ bookCopy.entries, e.isFolder = isFolderName e.name := by decide +kernel
  have hempty : ∀ e ∈ bookCopy.entries, e.isFolder = true → e.data.size = 0 := by decide +kernel
  have hnumbers : ((contentMembers bookCopy).all fun m => m.2.isWhole) = true := by decide +kernel
  have hfit : bookCopy.Fits defaultLevel :=
    Archive.fits_of_entryBound (by decide +kernel) (by decide +kernel) (by decide +kernel)
  have hlevel : defaultLevel ≤ Zip.maxLevel := by decide
  obtain ⟨bytes, hread⟩ := hw.exists_ofBytes hlevel hfit hfolders hempty
  have hmanifest : readManifest "\x7b\"mainLibrary\":\"H5P.InteractiveBook\"\x7d".toUTF8 =
      .ok ⟨none, "H5P.InteractiveBook", []⟩ := by decide +kernel
  have htemplate : Template.ofBytes bytes = .ok (bookTemplate bytes) :=
    (Template.ofBytes_eq_ok_iff hread).2 ⟨_, _, rfl, hmanifest, by decide +kernel, rfl⟩
  have hfits : ∀ seed ∈ [0, 1],
      (ofTemplate (bookTemplate bytes) {}).PackageFits "# A" (.ofSeed seed) := by
    intro seed hseed
    refine packageFits_bookTemplate hread ?_
    revert seed
    decide +kernel
  have hchapters := buildChapters_bookTemplate bytes 0
  have hpackage := hfits 0 (by decide) bookCopy (oneColumn 0) hread hchapters
  obtain ⟨out, hassembled⟩ := Archive.exists_assemblePackage hread hlevel hpackage
  exact ⟨⟨hempty, List.all_eq_true.1 hnumbers⟩, bytes, out, hread, htemplate,
    compile_eq_ok_iff.2 ⟨_, hchapters, hassembled⟩, hfits⟩

/-- The package of the source is a template that gives a package of the source again. -/
theorem bookCopy_recompiled :
    bookCopy.IsStable ∧
      ∃ bytes t out, Archive.ofBytes bytes = .ok bookCopy ∧ Template.ofBytes bytes = .ok t ∧
        (ofTemplate t {}).DrawsRandom "# A" (.ofSeed 0) ∧
        (ofTemplate t {}).DrawsRandom "# A" (.ofSeed 1) ∧
        (ofTemplate t {}).compile "# A" (.ofSeed 0) = .ok out ∧
        (ofTemplate t {}).PackageFits "# A" (.ofSeed 0) ∧
        (ofTemplate t {}).PackageFits "# A" (.ofSeed 1) ∧
          ∃ t', Template.ofBytes out = .ok t' ∧ t'.manifest = t.manifest ∧
            t'.libraries = t.libraries ∧
              ∃ out', (ofTemplate t' {}).compile "# A" (.ofSeed 1) = .ok out' ∧
                ∃ package package', Archive.ofBytes out = .ok package ∧
                  Archive.ofBytes out' = .ok package' ∧
                    ∃ chapters ρ,
                      (ofTemplate t {}).buildChapters "# A" (.ofSeed 0) = .ok chapters ∧
                        Archive.EqualButIds bookCopy chapters ρ package package' := by
  obtain ⟨hs, bytes, out, hread, htemplate, hout, hfits⟩ := bookCopy_compiled
  have hl := drawsRandom_of_random (IdLanes.ofSeed_random 0)
    (ofTemplate (bookTemplate bytes) {}) "# A"
  have hl' := drawsRandom_of_random (IdLanes.ofSeed_random 1)
    (ofTemplate (bookTemplate bytes) {}) "# A"
  have hf := hfits 0 (by decide)
  have hf' := hfits 1 (by decide)
  exact ⟨hs, bytes, _, out, hread, htemplate, hl, hl', hout, hf, hf',
    compile_package htemplate hread hs hl hl' hout hf hf'⟩

end Compiler

end InteractiveBook
