import InteractiveBook.Proofs.Package.Damage
import InteractiveBook.Proofs.Recompilation

/-!
# What decides the outcome of a compilation

A compilation is decided by three questions, asked in this order: is the template accepted, does
the source have a chapter, and can every entry of the template be read. No other step fails: the
document and the image can always be made, removing folders loses no file, no name comes twice, and
a level from zero to nine is supported. Only a name that is too long to be written is left out of
account.
-/

namespace InteractiveBook

open Content Package Source

namespace Compiler

variable {c : Compiler} {source : String} {lanes : IdLanes} {found : List Zip.Entry}

/-- A source without chapters is refused before anything is built. -/
theorem compile_of_no_chapters (h : chaptersOf source = []) :
    c.compile source lanes = .error .noChaptersFound := by
  rw [compile, Compiler.buildChapters, decodeSource, splitChapters, h]
  rfl

/-- The chapters of any other source are built. -/
theorem exists_buildChapters (c : Compiler) (lanes : IdLanes) (h : chaptersOf source ≠ []) :
    ∃ columns, c.buildChapters source lanes = .ok columns := by
  rw [Compiler.buildChapters, decodeSource, splitChapters]
  cases hchapters : chaptersOf source with
  | nil => exact absurd hchapters h
  | cons chapter rest => exact ⟨_, rfl⟩

/-- A template with an entry that cannot be read is refused with the fault of the first one. -/
theorem compile_of_firstFault? {f : Zip.Fault} (h : chaptersOf source ≠ [])
    (he : Zip.entries c.template.bytes = .ok found)
    (hf : Zip.firstFault? c.template.bytes found = some f) :
    c.compile source lanes = .error (Archive.readFault f) := by
  obtain ⟨columns, hcolumns⟩ := exists_buildChapters c lanes h
  rw [compile, hcolumns]
  simp only [bind, Except.bind]
  rw [assemblePackage, Archive.ofBytes_of_firstFault? he hf]
  rfl

/-- Against a template of intact entries the package of a source is the working copy, written. -/
theorem compile_of_intact (lanes : IdLanes) (h : chaptersOf source ≠ [])
    (he : Zip.entries c.template.bytes = .ok found)
    (hintact : ∀ e ∈ found, e.Intact c.template.bytes) :
    ∃ template columns, Archive.ofBytes c.template.bytes = .ok template ∧
      c.compile source lanes =
        (Archive.assembled template columns).toBytes c.options.level := by
  obtain ⟨columns, hcolumns⟩ := exists_buildChapters c lanes h
  obtain ⟨template, htemplate⟩ := Archive.ofBytes_of_intact he hintact
  refine ⟨template, columns, htemplate, ?_⟩
  rw [compile, hcolumns]
  exact Archive.assemblePackage_eq htemplate columns c.options.level

/-- A source is compiled when, besides, the names are short enough and the level is supported. -/
theorem exists_compile (lanes : IdLanes) (h : chaptersOf source ≠ [])
    (he : Zip.entries c.template.bytes = .ok found)
    (hintact : ∀ e ∈ found, e.Intact c.template.bytes)
    (hnames : ∀ e ∈ found, e.name.utf8ByteSize ≤ Zip.maxNameLength)
    (hlevel : c.options.level ≤ Zip.maxLevel) : ∃ out, c.compile source lanes = .ok out := by
  obtain ⟨template, columns, htemplate, hcompile⟩ := compile_of_intact lanes h he hintact
  have hshort : ∀ e ∈ template.entries, e.name.utf8ByteSize ≤ Zip.maxNameLength := by
    obtain ⟨found', he', hf⟩ := Archive.ofBytes_eq_ok_iff.1 htemplate
    obtain rfl := Except.ok.inj (he.symm.trans he')
    intro e hmem
    have hname : e.name ∈ found.map (·.name) :=
      Archive.names_of_forall₂ hf ▸ List.mem_map_of_mem hmem
    obtain ⟨f, hfound, hfe⟩ := List.mem_map.1 hname
    exact hfe ▸ hnames f hfound
  have hown : contentName.utf8ByteSize ≤ Zip.maxNameLength ∧
      placeholderName.utf8ByteSize ≤ Zip.maxNameLength := by decide
  have hwritten : ∀ e ∈ (Archive.assembled template columns).entries,
      e.name.utf8ByteSize ≤ Zip.maxNameLength ∧
        (e.isFolder = true ∨ c.options.level ≤ Zip.maxLevel) := by
    intro e hmem
    refine ⟨?_, .inr hlevel⟩
    rcases Archive.mem_assembled hmem with rfl | rfl | hkept
    · exact hown.1
    · exact hown.2
    · exact hshort e (Archive.mem_withoutFolders.1 hkept).1
  rw [hcompile]
  exact (Archive.WellNamed.assembled htemplate columns).toBytes_isOk_iff.2 hwritten

/-- Against a template of intact entries nothing fails but writing. -/
theorem compile_ne_archiveRead (lanes : IdLanes) (h : chaptersOf source ≠ [])
    (he : Zip.entries c.template.bytes = .ok found)
    (hintact : ∀ e ∈ found, e.Intact c.template.bytes) (reason : String) :
    c.compile source lanes ≠ .error (.package (.archiveRead reason)) := by
  obtain ⟨template, columns, -, hcompile⟩ := compile_of_intact lanes h he hintact
  rw [hcompile, Archive.toBytes]
  cases Zip.write _ c.options.level _ <;> simp [Archive.writeFault]

/-- A compilation against an accepted template ends at the archive of the template exactly when the
source has a chapter and the template is damaged. -/
theorem compile_archiveRead_iff {bytes : ByteArray} {t : Template}
    (ht : Template.ofBytes bytes = .ok t) (options : CompileOptions) (source : String)
    (lanes : IdLanes) :
    (∃ reason, (ofTemplate t options).compile source lanes =
      .error (.package (.archiveRead reason))) ↔ chaptersOf source ≠ [] ∧ IsDamaged bytes := by
  obtain ⟨hbytes, found, he, -⟩ := Template.entries_of_ofBytes ht
  have htemplate : (ofTemplate t options).template.bytes = bytes := hbytes
  by_cases hchapters : chaptersOf source = []
  · rw [compile_of_no_chapters hchapters]
    simp [hchapters]
  · have hsound := not_isDamaged_iff ht he
    cases hf : Zip.firstFault? bytes found with
    | some fault =>
      rw [compile_of_firstFault? hchapters (htemplate ▸ he) (htemplate ▸ hf)]
      have hdamaged : IsDamaged bytes := by simpa [hf] using hsound
      simp [Archive.readFault, hchapters, hdamaged]
    | none =>
      have hne := compile_ne_archiveRead lanes hchapters (htemplate ▸ he)
        (htemplate ▸ Zip.firstFault?_eq_none_iff.1 hf)
      simp [hne, hsound.2 hf]

end Compiler

/-- The outcome of compiling a source against a template, as it is decided by the first of three
questions that is answered with no. -/
structure Decided (template : ByteArray) (source : String)
    (outcome : Except BookError ByteArray) : Prop where
  /-- A template that is refused. -/
  refused : ∀ fault, Template.ofBytes template = .error fault →
    outcome = .error (.template fault)
  /-- A source without chapters. -/
  chapterless : ∀ t, Template.ofBytes template = .ok t → chaptersOf source = [] →
    outcome = .error .noChaptersFound
  /-- An entry that cannot be read; the fault is that of the first one. -/
  unreadable : ∀ t, Template.ofBytes template = .ok t → chaptersOf source ≠ [] →
    ∀ found, Zip.entries template = .ok found → (∃ e ∈ found, ∀ data, e.read template ≠ .ok data) →
      ∃ fault, Zip.firstFault? template found = some fault ∧
        outcome = .error (.package (.archiveRead fault.message))
  /-- Nothing that is wrong. -/
  compiled : ∀ t, Template.ofBytes template = .ok t → chaptersOf source ≠ [] →
    ∀ found, Zip.entries template = .ok found → (∀ e ∈ found, ∃ data, e.read template = .ok data) →
      ∃ out, outcome = .ok out
  /-- There are no other failures. -/
  failures : ∀ e, outcome = .error e → e = .noChaptersFound ∨ (∃ fault, e = .template fault) ∨
    ∃ reason, e = .package (.archiveRead reason)

/-- A template that is refused is not compiled against. -/
theorem compileWith_of_refused {options : CompileOptions} {source : String} {template : ByteArray}
    {lanes : IdLanes} {fault : TemplateFault} (h : Template.ofBytes template = .error fault) :
    compileWith options source template lanes = .error (.template fault) := by
  simp only [compileWith, h, bind, Except.bind, Except.mapError]

/-- A template that is accepted is compiled against by its compiler. -/
theorem compileWith_of_accepted {options : CompileOptions} {source : String}
    {template : ByteArray} {lanes : IdLanes} {t : Template}
    (h : Template.ofBytes template = .ok t) :
    compileWith options source template lanes =
      (Compiler.ofTemplate t options).compile source lanes := by
  simp only [compileWith, h, bind, Except.bind, Except.mapError]

open Compiler in
/-- The outcome of a compilation is decided by the template, then by the source, and then by the
entries of the template. -/
theorem compileWith_decided (options : CompileOptions) (level : Int) (source : String)
    (template : ByteArray) (lanes : IdLanes)
    (hnames : HasShortNames template) :
    Decided template source (compileWith (options.withLevel level) source template lanes) := by
  have hlevel : (options.withLevel level).level ≤ Zip.maxLevel := by
    have hmax : Zip.maxLevel = 264 := rfl
    simp only [CompileOptions.withLevel]
    omega
  cases ht : Template.ofBytes template with
  | error fault =>
    rw [compileWith_of_refused ht]
    constructor <;> simp [ht]
  | ok t =>
    rw [compileWith_of_accepted ht]
    obtain ⟨htemplate, found, he, -⟩ := Template.entries_of_ofBytes ht
    have hbytes : (ofTemplate t (options.withLevel level)).template.bytes = template := htemplate
    by_cases hchapters : chaptersOf source = []
    · rw [compile_of_no_chapters hchapters]
      constructor <;> simp [ht, hchapters]
    have hfound : ∀ found', Zip.entries template = .ok found' → found' = found := by
      intro found' he'
      exact Except.ok.inj (he'.symm.trans he)
    cases hf : Zip.firstFault? template found with
    | some fault =>
      rw [compile_of_firstFault? hchapters (hbytes ▸ he) (hbytes ▸ hf)]
      refine ⟨by simp [ht], by simp [hchapters], ?_, ?_, by simp [Archive.readFault]⟩
      · intro _ _ _ found' he' _
        exact ⟨fault, hfound found' he' ▸ hf, rfl⟩
      · intro _ _ _ found' he' hread
        have hnone : Zip.firstFault? template found = none :=
          Zip.firstFault?_eq_none_iff.2 fun e hmem =>
            Zip.Entry.read_isOk_iff.1 (hread e (hfound found' he' ▸ hmem))
        rw [hnone] at hf
        cases hf
    | none =>
      have hintact := Zip.firstFault?_eq_none_iff.1 hf
      obtain ⟨out, hout⟩ := exists_compile lanes hchapters (hbytes ▸ he) (hbytes ▸ hintact)
        (hnames found he) hlevel
      rw [hout]
      refine ⟨by simp [ht], by simp [hchapters], ?_, fun _ _ _ _ _ _ => ⟨out, rfl⟩, by simp⟩
      intro _ _ _ found' he' hunread
      obtain ⟨e, hmem, hread⟩ := hunread
      obtain ⟨data, hdata⟩ := Zip.Entry.read_isOk_iff.2 (hintact e (hfound found' he' ▸ hmem))
      exact absurd hdata (hread data)

/-- Against the bytes of a sound template, a source with a chapter is compiled and one without is
not. -/
theorem bookCopy_decided : ∃ template t, Template.ofBytes template = .ok t ∧
    HasShortNames template ∧
    (∀ source, Decided template source
      (compileWith (({} : CompileOptions).withLevel 12) source template (.ofSeed 0))) ∧
    (∃ out, compileWith (({} : CompileOptions).withLevel 12) "# A" template (.ofSeed 0) = .ok out) ∧
      compileWith (({} : CompileOptions).withLevel 12) " " template (.ofSeed 0) =
        .error .noChaptersFound := by
  obtain ⟨-, template, -, hread, ht, -⟩ := Compiler.bookCopy_compiled
  obtain ⟨found, he, hf⟩ := Archive.ofBytes_eq_ok_iff.1 hread
  have hnames : HasShortNames template := by
    intro found' he' e hmem
    obtain rfl := Except.ok.inj (he.symm.trans he')
    have hname : e.name ∈ Compiler.bookCopy.entries.map (·.name) :=
      Archive.names_of_forall₂ hf ▸ List.mem_map_of_mem hmem
    have hshort : ∀ name ∈ Compiler.bookCopy.entries.map (·.name),
        name.utf8ByteSize ≤ Zip.maxNameLength := by decide +kernel
    exact hshort e.name hname
  have hdecided : ∀ source, Decided template source
      (compileWith (({} : CompileOptions).withLevel 12) source template (.ofSeed 0)) :=
    fun source => compileWith_decided {} 12 source template (.ofSeed 0) hnames
  have hsome : chaptersOf "# A" ≠ [] := by decide +kernel
  have hnone : chaptersOf " " = [] := by decide +kernel
  have hreadable : ∀ e ∈ found, ∃ data, e.read template = .ok data :=
    ((List.forall₂_and_left _ _).1 (hf.imp fun e a h =>
      ⟨⟨a.data, (Archive.loadEntry_eq_ok_iff.1 h).2.1⟩, h⟩)).1
  exact ⟨template, _, ht, hnames, hdecided, (hdecided "# A").compiled _ ht hsome found he hreadable,
    (hdecided " ").chapterless _ ht hnone⟩

end InteractiveBook
