import InteractiveBook.Package.Template
import InteractiveBook.Proofs.Package.Assembly
import InteractiveBook.Proofs.Zip.Intact

/-!
# Templates and their working copies

A template is checked on the entries of its archive, without all of them being read. When they can
all be read, what is checked is the working copy: its manifest and its names. A package has the
manifest of the template it was assembled from, and the same library folders, so that it is itself a
template with the same libraries.
-/

namespace InteractiveBook.Package

open Content Library

/-- Two steps succeed when the first one does and then the second one. -/
theorem bind_eq_ok_iff {ε α β : Type} {x : Except ε α} {f : α → Except ε β} {b : β} :
    x >>= f = .ok b ↔ ∃ a, x = .ok a ∧ f a = .ok b := by
  cases x <;> simp [bind, Except.bind]

/-- A step succeeds with what can be taken out of it. -/
theorem eq_ok_of_toOption {ε α : Type} {x : Except ε α} {a : α} (h : x.toOption = some a) :
    x = .ok a := by
  cases x with
  | error e => cases h
  | ok b => rw [Option.some.inj h]

/-- The entries of a template are those of its directory, each with a local header. -/
theorem checkedEntries_eq_ok_iff {bytes : ByteArray} {found : List Zip.Entry} :
    checkedEntries bytes = .ok found ↔
      Zip.entries bytes = .ok found ∧ ∀ e ∈ found, e.hasHeader bytes = true := by
  rw [checkedEntries, ← List.all_eq_true]
  cases Zip.entries bytes with
  | error f => simp
  | ok es =>
    simp only [Except.ok.injEq]
    cases hall : es.all (Zip.Entry.hasHeader bytes) with
    | false =>
      have hne : es = found → found.all (Zip.Entry.hasHeader bytes) = false := by
        rintro rfl
        exact hall
      simpa using hne
    | true =>
      have heq : es = found → found.all (Zip.Entry.hasHeader bytes) = true := by
        rintro rfl
        exact hall
      simpa using heq

/-- The bytes of the manifest are the data of the first entry of its name. -/
theorem manifestBytes_eq_ok_iff {bytes raw : ByteArray} {found : List Zip.Entry} :
    manifestBytes bytes found = .ok raw ↔
      ∃ e, found.find? (fun e => e.name = manifestName) = some e ∧ e.read bytes = .ok raw := by
  rw [manifestBytes]
  cases found.find? fun e => e.name = manifestName with
  | none => simp
  | some e => cases hread : e.read bytes <;> simp [Except.mapError, hread]

/-- A template is accepted when its entries have local headers and its manifest is that of a
book. -/
theorem Template.ofBytes_spec {bytes : ByteArray} {t : Template} :
    Template.ofBytes bytes = .ok t ↔ ∃ found raw m, checkedEntries bytes = .ok found ∧
      manifestBytes bytes found = .ok raw ∧ readManifest raw = .ok m ∧ m.isBook = true ∧
        t = ⟨bytes, m, found.map (·.name)⟩ := by
  have hlast (m : Manifest) (names : List String) :
      (if m.isBook then pure ⟨bytes, m, names⟩ else throw (otherPackage m) :
        Except TemplateFault Template) = .ok t ↔ m.isBook = true ∧ t = ⟨bytes, m, names⟩ := by
    split
    · next hbook => simp [hbook, pure, Except.pure, eq_comm]
    · next hbook => simp [hbook, throw, throwThe, MonadExceptOf.throw]
  rw [Template.ofBytes]
  simp only [bind_eq_ok_iff, hlast, exists_and_left]

/-- The first entry of a name in an archive is the first one of that name in its working copy. -/
theorem manifestBytes_of_forall₂ {bytes : ByteArray} {found : List Zip.Entry}
    {es : List ArchiveEntry}
    (h : List.Forall₂ (fun f e => Archive.loadEntry bytes f = .ok e) found es) :
    manifestBytes bytes found =
      match es.find? fun e => e.name = manifestName with
      | none => .error .missingManifest
      | some e => .ok e.data := by
  rw [manifestBytes]
  induction h with
  | nil => rfl
  | @cons f e found es hfe _ ih =>
    obtain ⟨hname, hread, -⟩ := Archive.loadEntry_eq_ok_iff.1 hfe
    by_cases hm : e.name = manifestName
    · have hf : f.name = manifestName := hname.trans hm
      rw [List.find?_cons_of_pos (by simpa using hf), List.find?_cons_of_pos (by simpa using hm)]
      dsimp only
      rw [hread]
      rfl
    · have hf : ¬f.name = manifestName := fun h => hm (hname ▸ h)
      rw [List.find?_cons_of_neg (by simpa using hf), List.find?_cons_of_neg (by simpa using hm)]
      exact ih

/-- An entry that can be read has a local header. -/
theorem hasHeader_of_read {bytes data : ByteArray} {f : Zip.Entry} (h : f.read bytes = .ok data) :
    f.hasHeader bytes = true := by
  obtain ⟨start, _, hstart, -⟩ := (Zip.Entry.read_isOk_iff.1 ⟨data, h⟩).sound
  rw [Zip.Entry.hasHeader, hstart]
  rfl

/-- The entries of an archive that can all be read have local headers. -/
theorem checkedEntries_of_forall₂ {bytes : ByteArray} {found : List Zip.Entry}
    {es : List ArchiveEntry} (he : Zip.entries bytes = .ok found)
    (h : List.Forall₂ (fun f e => Archive.loadEntry bytes f = .ok e) found es) :
    checkedEntries bytes = .ok found := by
  have hheaders : ∀ f ∈ found, f.hasHeader bytes = true :=
    ((List.forall₂_and_left _ _).1 (h.imp fun f e hfe =>
      ⟨hasHeader_of_read (Archive.loadEntry_eq_ok_iff.1 hfe).2.1, hfe⟩)).1
  exact checkedEntries_eq_ok_iff.2 ⟨he, hheaders⟩

/-- Bytes that hold a working copy are a template when its manifest can be read and is that of a
book. -/
theorem Template.ofBytes_eq_ok_iff {bytes : ByteArray} {a : Archive}
    (h : Archive.ofBytes bytes = .ok a) {t : Template} :
    Template.ofBytes bytes = .ok t ↔
      ∃ e m, a.entries.find? (fun e => e.name = manifestName) = some e ∧
        readManifest e.data = .ok m ∧ m.isBook = true ∧ t = ⟨bytes, m, a.names⟩ := by
  obtain ⟨found, he, hf⟩ := Archive.ofBytes_eq_ok_iff.1 h
  have hnames : found.map (·.name) = a.names := (Archive.names_of_forall₂ hf).symm
  rw [Template.ofBytes_spec, checkedEntries_of_forall₂ he hf]
  simp only [Except.ok.injEq, exists_and_left, exists_eq_left', manifestBytes_of_forall₂ hf, hnames]
  cases a.entries.find? fun e => e.name = manifestName with
  | none => simp
  | some e => simp

/-- A package has the manifest of its template. -/
theorem find?_manifest_assembled {bytes : ByteArray} {template : Archive} {e : ArchiveEntry}
    (h : Archive.ofBytes bytes = .ok template) (chapters : List ContentObject)
    (he : template.entries.find? (fun e => e.name = manifestName) = some e) :
    (Archive.assembled template chapters).entries.find? (fun e => e.name = manifestName) =
      some e := by
  have hname : e.name = manifestName := by simpa using List.find?_some he
  have hmem : e ∈ (Archive.assembled template chapters).entries := by
    refine Archive.mem_assembled_of_mem
      (Archive.mem_withoutFolders.2 ⟨List.mem_of_find?_eq_some he, ?_⟩) ?_
    · refine Archive.isRemoved_of_not_isFolderName ?_
      rw [hname]
      decide
    · rw [hname]
      decide
  have hnodup := (Archive.WellNamed.assembled h chapters).nodup
  exact Archive.find?_of_mem hnodup hmem (by simpa using hname) fun d hd => by
    rw [hname]
    simpa using hd

/-- What lies in the folder of the content lies in no library folder. -/
theorem folderOfEntry?_of_contentRoot {name : String}
    (h : Text.beginsWith contentRoot.toList name.toList = true) : folderOfEntry? name = none := by
  obtain ⟨rest, hrest⟩ := Option.isSome_iff_exists.1 h
  have hchars := Text.eq_append_of_afterStart? hrest
  have htop : name.toList.takeWhile (· ≠ '/') = "content".toList := by
    rw [hchars]
    rfl
  have hnone : LibraryId.ofFolder? (String.ofList "content".toList) = none := by decide
  unfold folderOfEntry?
  simp only [htop, hnone, ite_self]

/-- A package has the library folders of its template. -/
theorem installedLibraries_assembled (template : Archive) (chapters : List ContentObject) :
    installedLibraries (Archive.assembled template chapters).names =
      installedLibraries template.names := by
  have hcontent : folderOfEntry? contentName = none :=
    folderOfEntry?_of_contentRoot (by decide)
  have hplaceholder : folderOfEntry? placeholderName = none :=
    folderOfEntry?_of_contentRoot (by decide)
  have hkept : ∀ es : List ArchiveEntry,
      ((es.filter fun e => !Archive.isRemoved contentRoot e).map (·.name)).filterMap
        folderOfEntry? = (es.map (·.name)).filterMap folderOfEntry? := by
    intro es
    induction es with
    | nil => rfl
    | cons e es ih =>
      rw [List.map_cons, List.filterMap_cons, List.filter_cons]
      cases hr : Archive.isRemoved contentRoot e with
      | false => rw [if_pos (by rfl), List.map_cons, List.filterMap_cons, ih]
      | true =>
        have hnone : folderOfEntry? e.name = none := by
          rw [Archive.isRemoved, Bool.and_eq_true] at hr
          exact folderOfEntry?_of_contentRoot hr.1
        rw [if_neg (by decide), hnone, ih]
  rw [installedLibraries, installedLibraries, Archive.names_assembled, List.filterMap_append,
    List.filterMap_append, Archive.names, Archive.names, Archive.withoutFolders, hkept]
  split <;> split <;> simp [hcontent, hplaceholder]

end InteractiveBook.Package
