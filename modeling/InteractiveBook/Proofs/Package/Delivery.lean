import InteractiveBook.Proofs.Package.Assembly
import InteractiveBook.Proofs.Package.Document
import InteractiveBook.Proofs.Package.Template

/-!
# What a package delivers

A package that was assembled is a working copy, written. What is read of it is what is read of the
copy, as long as the sizes of the format are kept to. The document that it delivers is an object
that holds the chapters and whatever else the document of the template held.
-/

namespace InteractiveBook.Package

open Content Json

namespace Archive

/-- A working copy that was written to bytes: they are its archive, and as long as the sizes of the
format are kept to they are read as the copy. -/
structure IsDelivered (package : Archive) (level : Int) (bytes : ByteArray) : Prop where
  /-- The bytes are those that the copy is written to. -/
  written : package.toBytes level = .ok bytes
  /-- What is read of the bytes is what is read of the copy. -/
  read : package.Fits level → ofBytes bytes = .ok package.reloaded

/-- A package that was assembled is the working copy of its template, delivered. -/
theorem isDelivered_of_assemblePackage {bytes out : ByteArray} {chapters : List ContentObject}
    {level : Int} (h : assemblePackage bytes chapters level = .ok out) :
    ∃ template, ofBytes bytes = .ok template ∧
      (assembled template chapters).IsDelivered level out := by
  have hbytes := h
  rw [assemblePackage, bind_eq_ok_iff] at hbytes
  obtain ⟨template, htemplate, -⟩ := hbytes
  have hwritten := (assemblePackage_eq_ok_iff htemplate).1 h
  exact ⟨template, htemplate, hwritten, ofBytes_of_assemblePackage htemplate h⟩

/-- A file that is written is read with its data, unless its name is that of a folder. -/
theorem read?_reloaded_of_mem {a : Archive} {name : String} {data : ByteArray}
    (h : a.names.Nodup) (hname : isFolderName name = false)
    (he : (⟨name, data, false⟩ : ArchiveEntry) ∈ a.entries) :
    a.reloaded.read? name = some data := by
  have hmem : ArchiveEntry.reloaded ⟨name, data, false⟩ ∈ a.reloaded.entries :=
    List.mem_map_of_mem he
  rw [ArchiveEntry.reloaded, hname] at hmem
  exact read?_of_mem (by rwa [names_reloaded]) hmem

/-- The document of a package is read with the text that was written. -/
theorem read?_document {bytes : ByteArray} {template : Archive} (h : ofBytes bytes = .ok template)
    (chapters : List ContentObject) :
    (assembled template chapters).reloaded.read? contentName =
      some (contentText template chapters).toUTF8 :=
  read?_reloaded_of_mem (WellNamed.assembled h chapters).nodup isFolderName_contentName
    (document_mem_assembled template chapters)

end Archive

/-- The members of a document that holds the chapters of a book beside what was found in the
document of its template, if that is an object. -/
structure HoldsChapters (found? : Option (List (String × Json))) (chapters : List ContentObject)
    (members : List (String × Json)) : Prop where
  /-- No key comes twice. -/
  distinct : (members.map Prod.fst).Nodup
  /-- The chapters are there, in order. -/
  listed : ("chapters", (Json.array (chapters.map ContentObject.json)).canonical) ∈ members
  /-- The other members are those that were found if their numbers are integers. -/
  kept : ∀ found ∈ found?, (∀ m ∈ found, m.2.isWhole = true) →
    ∀ m : String × Json, m.1 ≠ "chapters" → (m ∈ members ↔ m ∈ found)
  /-- The chapters are the only member if no object was found. -/
  alone : found? = none →
    members = [("chapters", (Json.array (chapters.map ContentObject.json)).canonical)]

/-- What is read of a document holds the chapters. -/
theorem holdsChapters_reread (template : Archive) (chapters : List ContentObject) :
    HoldsChapters ((template.read? contentName).bind objectOf?) chapters
      (rereadMembers (documentMembers template chapters)) := by
  have hwhole := chapters_isWhole chapters
  constructor
  case distinct =>
    have hkeys : (rereadMembers (documentMembers template chapters)).map Prod.fst =
        (documentMembers template chapters).map Prod.fst := by
      rw [rereadMembers_eq_map, List.map_map]
      rfl
    rw [hkeys]
    exact (canonical_documentMembers template chapters).1.nodup
  case listed =>
    rw [rereadMembers_eq_map, List.mem_map]
    refine ⟨_, mem_insertMember_self "chapters" _ (contentMembers template), ?_⟩
    rw [reread_of_isWhole _ hwhole]
  case kept =>
    intro found hfound hnumbers m hne
    have hmembers : contentMembers template = found := by
      rw [contentMembers, Option.mem_def.1 hfound, Option.getD_some]
    have hall : wholeMembers (documentMembers template chapters) = true := by
      refine wholeMembers_iff.2 fun m hm => ?_
      rcases mem_insertMember hm with rfl | hm
      · exact hwhole
      · exact hnumbers m (hmembers ▸ hm)
    rw [rereadMembers_of_wholeMembers _ hall, documentMembers, hmembers]
    exact mem_insertMember_iff_of_ne hne
  case alone =>
    intro hnone
    have hmembers : contentMembers template = [] := by rw [contentMembers, hnone, Option.getD_none]
    rw [documentMembers, hmembers, insertMember, rereadMembers, reread_of_isWhole _ hwhole,
      rereadMembers]

/-- A package that was assembled from a template delivers a document that the reader takes exactly if
the chapters leave room, among the containers that it allows to be nested, for the two around them.
What it finds then are the chapters, beside which every other member of the document of the template
is there with its value if that has no real numbers. -/
theorem document_delivered {bytes out : ByteArray} {chapters : List ContentObject} {level : Int}
    (h : assemblePackage bytes chapters level = .ok out) :
    ∃ (template : Archive) (text : String),
      Archive.ofBytes bytes = .ok template ∧
      (Archive.assembled template chapters).IsDelivered level out ∧
      (Archive.assembled template chapters).reloaded.read? contentName = some text.toUTF8 ∧
      ((objectOf? text.toUTF8).isSome = true ↔
        ∀ o ∈ chapters, o.json.canonical.fitsWithin 125 = true) ∧
      ∀ members ∈ objectOf? text.toUTF8,
        HoldsChapters ((template.read? contentName).bind objectOf?) chapters members := by
  obtain ⟨template, htemplate, hdelivered⟩ := Archive.isDelivered_of_assemblePackage h
  obtain ⟨hreadable, hfound⟩ := objectOf?_contentText_iff template chapters
  refine ⟨template, _, htemplate, hdelivered, Archive.read?_document htemplate chapters, hreadable,
    fun members hmembers => ?_⟩
  rw [hfound members hmembers]
  exact holdsChapters_reread template chapters

/-- A copy with a document and nothing else. -/
def documentCopy (text : String) : Archive := Archive.empty.writeFile contentName text.toUTF8

/-- A document adds little more than its text to an archive. -/
theorem entryBound_document {text : String} (h : text.utf8ByteSize < 2 ^ 29) :
    Archive.entryBound ⟨contentName, text.toUTF8, false⟩ < 2 ^ 30 := by
  have hbound : Archive.entryBound ⟨contentName, text.toUTF8, false⟩ =
      76 + 2 * contentName.utf8ByteSize + Zip.deflatedBound text.utf8ByteSize := rfl
  have hname : contentName.utf8ByteSize = 20 := by decide
  rw [hbound, hname, Zip.deflatedBound, Zip.maxStored]
  omega

/-- A copy with a document and nothing else is held by some bytes, from which a package is assembled
unless its document or theirs is very long. -/
theorem exists_package_documentCopy {text : String} {chapters : List ContentObject}
    (ht : text.utf8ByteSize < 2 ^ 29)
    (hd : (contentText (documentCopy text) chapters).utf8ByteSize < 2 ^ 29) :
    ∃ bytes out, Archive.ofBytes bytes = .ok (documentCopy text) ∧
      assemblePackage bytes chapters 6 = .ok out ∧
      (Archive.assembled (documentCopy text) chapters).Fits 6 := by
  have hentries : (documentCopy text).entries = [⟨contentName, text.toUTF8, false⟩] := rfl
  have hall : ∀ p : ArchiveEntry → Prop, p ⟨contentName, text.toUTF8, false⟩ →
      ∀ e ∈ (documentCopy text).entries, p e := by
    intro p hp e he
    rw [hentries, List.mem_singleton] at he
    rwa [he]
  have hsum : ((documentCopy text).entries.map Archive.entryBound).sum < 2 ^ 30 := by
    rw [hentries, List.map_singleton, List.sum_singleton]
    exact entryBound_document ht
  have hsize : (documentCopy text).size = 1 := rfl
  have hname : contentName.utf8ByteSize ≤ 65535 := by decide
  have hlevel : (6 : Int) ≤ Zip.maxLevel := by decide
  have hw : (documentCopy text).WellNamed := Archive.WellNamed.empty.writeFile ..
  obtain ⟨bytes, hread⟩ := hw.exists_ofBytes hlevel
    (Archive.fits_of_entryBound (by omega) (hall _ hname) (by omega))
    (hall _ Archive.isFolderName_contentName.symm) (hall _ nofun)
  have hfits : (Archive.assembled (documentCopy text) chapters).Fits 6 :=
    Archive.fits_assembled (by omega) (hall _ hname) (by omega) (entryBound_document hd)
  obtain ⟨out, hout⟩ := Archive.exists_assemblePackage hread hlevel hfits
  exact ⟨bytes, out, hread, hout, hfits⟩

/-- A document with a member besides the chapters, which it lists as none. -/
def numberedText : String := "\x7b\"pages\":7,\"chapters\":[]\x7d"

/-- A copy with the document. -/
def numberedCopy : Archive := documentCopy numberedText

/-- A chapter that holds nothing. -/
def emptyChapter : ContentObject := .column (.new ⟨"H5P.Column", 1, 18⟩ ⟨"id"⟩ "A" .column) []

/-- The document of the package of the copy keeps the member and has the chapter. -/
theorem numberedCopy_delivered :
    (∀ o ∈ [emptyChapter], o.json.canonical.fitsWithin 125 = true) ∧
      ∃ bytes out, Archive.ofBytes bytes = .ok numberedCopy ∧
        assemblePackage bytes [emptyChapter] 6 = .ok out ∧
        (Archive.assembled numberedCopy [emptyChapter]).Fits 6 ∧
        ∃ (template : Archive) (text : String),
          Archive.ofBytes bytes = .ok template ∧
          (Archive.assembled template [emptyChapter]).IsDelivered 6 out ∧
          (Archive.assembled template [emptyChapter]).reloaded.read? contentName =
            some text.toUTF8 ∧
          ((objectOf? text.toUTF8).isSome = true ↔
            ∀ o ∈ [emptyChapter], o.json.canonical.fitsWithin 125 = true) ∧
          ∀ members ∈ objectOf? text.toUTF8,
            HoldsChapters ((template.read? contentName).bind objectOf?) [emptyChapter] members := by
  have htext : numberedText.utf8ByteSize < 2 ^ 29 := by decide
  have hdocument : (contentText numberedCopy [emptyChapter]).utf8ByteSize < 2 ^ 29 := by
    decide +kernel
  obtain ⟨bytes, out, hread, hassembled, hfits⟩ := exists_package_documentCopy htext hdocument
  exact ⟨by decide +kernel, bytes, out, hread, hassembled, hfits, document_delivered hassembled⟩

/-- A text inside of so many columns. -/
def nestedColumns : Nat → ContentObject
  | 0 => .leaf (.new ⟨"H5P.AdvancedText", 1, 1⟩ ⟨"id"⟩ "" .text) (.text "<p>A</p>")
  | n + 1 => .column (.new ⟨"H5P.Column", 1, 18⟩ ⟨"id"⟩ "" .column) [nestedColumns n]

/-- An array inside of so many arrays. -/
def nestedArrays : Nat → Json
  | 0 => .array []
  | n + 1 => .array [nestedArrays n]

/-- An object whose one member is an array inside of so many arrays. -/
def deepObject : Json := .object [("deep", nestedArrays 126)]

/-- The reader refuses the object, of which the text has a syntax tree. -/
theorem objectOf?_deepObject :
    Tree.ofText? deepObject.compact = some deepObject.toTree ∧
      objectOf? deepObject.compact.toUTF8 = none := by
  have hcanonical : deepObject.canonical = deepObject := by
    refine canonical_object (List.pairwise_singleton ..) fun m hm => ?_
    have hsame : ∀ n, (nestedArrays n).canonical = nestedArrays n := by
      intro n
      induction n with
      | zero => rfl
      | succ n ih => rw [nestedArrays, canonical, canonicalItems, canonicalItems, ih]
    rw [List.mem_singleton.1 hm]
    exact hsame 126
  have hread := parse?_compact_isSome_iff hcanonical
    (show deepObject.fitsWithin 128 = true by decide +kernel)
  have hnone : parse? deepObject.compact = none :=
    Option.not_isSome_iff_eq_none.1 (mt hread.1 (by decide +kernel))
  refine ⟨ofText?_compact deepObject, ?_⟩
  rw [objectOf?_toUTF8, hnone]

/-- The document that a package has when its template has that of the object. -/
theorem contentText_deepObject :
    contentText (documentCopy deepObject.compact) [] =
      (Json.object [("chapters", .array [])]).compact := by
  have hfile : (documentCopy deepObject.compact).read? contentName =
      some deepObject.compact.toUTF8 := rfl
  have hmembers : contentMembers (documentCopy deepObject.compact) = [] := by
    rw [contentMembers, hfile, Option.bind_some, objectOf?_deepObject.2, Option.getD_none]
  rw [contentText_eq, documentMembers, hmembers]
  rfl

/-- A package is assembled with a chapter inside of many columns, and the reader refuses its
document. -/
theorem nestedColumns_refused : ∃ bytes out text,
    Archive.ofBytes bytes = .ok (documentCopy "") ∧
    assemblePackage bytes [nestedColumns 31] 6 = .ok out ∧
    Archive.ofBytes out = .ok (Archive.assembled (documentCopy "") [nestedColumns 31]).reloaded ∧
    (Archive.assembled (documentCopy "") [nestedColumns 31]).reloaded.read? contentName =
      some (String.toUTF8 text) ∧
    objectOf? text.toUTF8 = none := by
  have hrefused : ¬∀ o ∈ [nestedColumns 31], o.json.canonical.fitsWithin 125 = true := by
    decide +kernel
  have hnone : objectOf? (contentText (documentCopy "") [nestedColumns 31]).toUTF8 = none :=
    Option.not_isSome_iff_eq_none.1 (mt (objectOf?_contentText_iff _ _).1.1 hrefused)
  have hmembers : documentMembers (documentCopy "") [nestedColumns 31] =
      [("chapters", .array [(nestedColumns 31).json.canonical])] := by
    rw [documentMembers]
    rfl
  have hsize : (contentText (documentCopy "") [nestedColumns 31]).utf8ByteSize < 2 ^ 29 := by
    rw [contentText_eq, hmembers, utf8ByteSize_compact]
    decide +kernel
  obtain ⟨bytes, out, hread, hassembled, hfits⟩ := exists_package_documentCopy (by decide) hsize
  exact ⟨bytes, out, _, hread, hassembled,
    Archive.ofBytes_of_assemblePackage hread hassembled hfits, Archive.read?_document hread _,
    hnone⟩

/-- A package that is assembled from a template with the object as its document has the chapters for
the only member. -/
theorem deepObject_lost : ∃ bytes out text,
    Archive.ofBytes bytes = .ok (documentCopy deepObject.compact) ∧
    assemblePackage bytes [] 6 = .ok out ∧
    Archive.ofBytes out = .ok (Archive.assembled (documentCopy deepObject.compact) []).reloaded ∧
    (Archive.assembled (documentCopy deepObject.compact) []).reloaded.read? contentName =
      some (String.toUTF8 text) ∧
    objectOf? text.toUTF8 = some [("chapters", .array [])] := by
  have hread : objectOf? (contentText (documentCopy deepObject.compact) []).toUTF8 =
      some [("chapters", .array [])] := by
    rw [contentText_deepObject, objectOf?_toUTF8, parse?_compact rfl rfl]
    rfl
  have hlarge : deepObject.compact.utf8ByteSize < 2 ^ 29 := by
    rw [utf8ByteSize_compact]
    decide +kernel
  have hsmall : (contentText (documentCopy deepObject.compact) []).utf8ByteSize < 2 ^ 29 := by
    rw [contentText_deepObject]
    decide +kernel
  obtain ⟨bytes, out, hbytes, hassembled, hfits⟩ := exists_package_documentCopy hlarge hsmall
  exact ⟨bytes, out, _, hbytes, hassembled,
    Archive.ofBytes_of_assemblePackage hbytes hassembled hfits, Archive.read?_document hbytes _,
    hread⟩

/-- A package may be assembled whose document the reader refuses: that of a chapter inside of many
columns. And a member that is nested as deep is lost with the document of its template, although
that is a JSON text. -/
theorem nesting_unread :
    (∃ bytes out text, Archive.ofBytes bytes = .ok (documentCopy "") ∧
      assemblePackage bytes [nestedColumns 31] 6 = .ok out ∧
      Archive.ofBytes out = .ok (Archive.assembled (documentCopy "") [nestedColumns 31]).reloaded ∧
      (Archive.assembled (documentCopy "") [nestedColumns 31]).reloaded.read? contentName =
        some (String.toUTF8 text) ∧
      objectOf? text.toUTF8 = none) ∧
    Tree.ofText? deepObject.compact = some deepObject.toTree ∧
    ∃ bytes out text, Archive.ofBytes bytes = .ok (documentCopy deepObject.compact) ∧
      assemblePackage bytes [] 6 = .ok out ∧
      Archive.ofBytes out = .ok (Archive.assembled (documentCopy deepObject.compact) []).reloaded ∧
      (Archive.assembled (documentCopy deepObject.compact) []).reloaded.read? contentName =
        some (String.toUTF8 text) ∧
      objectOf? text.toUTF8 = some [("chapters", .array [])] :=
  ⟨nestedColumns_refused, objectOf?_deepObject.1, deepObject_lost⟩

end InteractiveBook.Package
