import InteractiveBook.Proofs.Package.Template

/-!
# Damaged templates

A working copy is loaded when all entries of its archive are intact, and fails with the fault of the
first one that is not. A template is accepted when its manifest is intact, whatever is wrong with
the data of the other entries.
-/

namespace InteractiveBook.Package

/-- A working copy of intact entries is loaded. -/
theorem Archive.ofBytes_of_intact {bytes : ByteArray} {found : List Zip.Entry}
    (he : Zip.entries bytes = .ok found) (h : ∀ e ∈ found, e.Intact bytes) :
    ∃ a, Archive.ofBytes bytes = .ok a := by
  have hload : ∀ f ∈ found, ∃ e, loadEntry bytes f = .ok e := by
    intro f hf
    obtain ⟨data, hdata⟩ := Zip.Entry.read_isOk_iff.2 (h f hf)
    exact ⟨⟨f.name, data, f.isFolder⟩, by rw [loadEntry, hdata]; rfl⟩
  obtain ⟨es, hes⟩ := Zip.mapM_isOk hload
  exact ⟨⟨es⟩, ofBytes_eq_ok_iff.2 ⟨found, he, (Zip.mapM_eq_ok_iff _ _ _).1 hes⟩⟩

/-- Loading fails with the fault of the first entry that cannot be read. -/
theorem Archive.ofBytes_of_firstFault? {bytes : ByteArray} {found : List Zip.Entry} {f : Zip.Fault}
    (he : Zip.entries bytes = .ok found) (h : Zip.firstFault? bytes found = some f) :
    Archive.ofBytes bytes = .error (readFault f) := by
  have hload : found.mapM (loadEntry bytes) = .error f := by
    clear he
    induction found with
    | nil => cases h
    | cons e rest ih =>
      rw [Zip.firstFault?, List.findSome?_cons, Zip.Entry.fault?] at h
      rw [List.mapM_cons, loadEntry]
      cases hread : e.read bytes with
      | error g =>
        rw [hread] at h
        obtain rfl := Option.some.inj h
        rfl
      | ok data =>
        rw [hread] at h
        simp only [bind, Except.bind, pure, Except.pure, ih h]
  rw [Archive.ofBytes, he]
  simp only [bind, Except.bind, hload]

/-- An accepted template has a directory of entries with local headers, and its manifest is
intact. -/
theorem Template.entries_of_ofBytes {bytes : ByteArray} {t : Template}
    (h : Template.ofBytes bytes = .ok t) :
    t.bytes = bytes ∧ ∃ found, Zip.entries bytes = .ok found ∧
      ∀ e ∈ found, e.name = manifestName → e.Intact bytes := by
  obtain ⟨found, raw, m, hchecked, hraw, -, -, rfl⟩ := Template.ofBytes_spec.1 h
  obtain ⟨he, -⟩ := checkedEntries_eq_ok_iff.1 hchecked
  obtain ⟨manifest, hfind, hread⟩ := manifestBytes_eq_ok_iff.1 hraw
  have hmanifest : manifest.Intact bytes := Zip.Entry.read_isOk_iff.1 ⟨raw, hread⟩
  refine ⟨rfl, found, he, fun e hmem hname => ?_⟩
  -- No name comes twice, so that an entry of the name is the one that was read.
  have hsame : e = manifest := by
    have hn := Zip.nodup_entries he
    have hmem' := List.mem_of_find?_eq_some hfind
    have hname' : manifest.name = manifestName := by simpa using List.find?_some hfind
    exact List.inj_on_of_nodup_map hn hmem hmem' (hname.trans hname'.symm)
  rwa [hsame]

/-- Bytes whose directory has an entry, other than the manifest, that is not intact. -/
def IsDamaged (bytes : ByteArray) : Prop :=
  ∃ found, Zip.entries bytes = .ok found ∧
    ∃ e ∈ found, e.name ≠ manifestName ∧ ¬e.Intact bytes

/-- The names in a directory are short enough to be written again. -/
def HasShortNames (bytes : ByteArray) : Prop :=
  ∀ found, Zip.entries bytes = .ok found →
    ∀ e ∈ found, e.name.utf8ByteSize ≤ Zip.maxNameLength

/-- An accepted template is sound exactly when no entry of it fails to be read: its manifest never
does. -/
theorem not_isDamaged_iff {bytes : ByteArray} {t : Template} {found : List Zip.Entry}
    (h : Template.ofBytes bytes = .ok t) (he : Zip.entries bytes = .ok found) :
    ¬IsDamaged bytes ↔ Zip.firstFault? bytes found = none := by
  obtain ⟨-, found', he', hmanifest⟩ := Template.entries_of_ofBytes h
  obtain rfl := Except.ok.inj (he.symm.trans he')
  rw [Zip.firstFault?_eq_none_iff]
  constructor
  · intro hsound e hmem
    by_cases hname : e.name = manifestName
    · exact hmanifest e hmem hname
    · by_contra hdamaged
      exact hsound ⟨found, he, e, hmem, hname, hdamaged⟩
  · rintro hintact ⟨found', he', e, hmem, -, hdamaged⟩
    obtain rfl := Except.ok.inj (he.symm.trans he')
    exact hdamaged (hintact e hmem)

/-- The working copy of an accepted template is loaded exactly when the template is not damaged. -/
theorem exists_ofBytes_iff {bytes : ByteArray} {t : Template}
    (h : Template.ofBytes bytes = .ok t) :
    (∃ a, Archive.ofBytes bytes = .ok a) ↔ ¬IsDamaged bytes := by
  obtain ⟨-, found, he, -⟩ := Template.entries_of_ofBytes h
  rw [not_isDamaged_iff h he]
  cases hf : Zip.firstFault? bytes found with
  | some fault =>
    rw [Archive.ofBytes_of_firstFault? he hf]
    simp
  | none =>
    have hload := Archive.ofBytes_of_intact he (Zip.firstFault?_eq_none_iff.1 hf)
    simpa using hload

end InteractiveBook.Package
