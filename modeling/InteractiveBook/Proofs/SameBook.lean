import InteractiveBook.Proofs.Compilation
import InteractiveBook.Proofs.Package.Delivery

/-!
# Compiling a source again

Two compilations of one source against one template draw different identifiers. Either both fail for
the same reason, or the packages differ in nothing but the identifiers. So it does not matter by
which way, how often and in which order a source is compiled.
-/

namespace InteractiveBook

open Content Package

/-! ### Failing for the same reason -/

namespace Zip

/-- Working through two lists fails for the same reason when their items do. -/
theorem mapM_eq_error_congr {ε α β : Type} {f : α → Except ε β} {as bs : List α}
    (h : List.Forall₂ (fun a b => ∀ e, f a = .error e ↔ f b = .error e) as bs) (e : ε) :
    as.mapM f = .error e ↔ bs.mapM f = .error e := by
  have hpure : ∀ (d : Except ε (List β)) (x : β),
      (d >>= fun rest => pure (x :: rest)) = .error e ↔ d = .error e := by
    intro d x
    cases d <;> simp [bind, Except.bind, pure, Except.pure]
  induction h with
  | nil => rfl
  | @cons a b as bs hab _ ih =>
    rw [List.mapM_cons, List.mapM_cons]
    cases ha : f a with
    | error fault =>
      rw [(hab fault).1 ha]
      rfl
    | ok x =>
      cases hb : f b with
      | error fault =>
        rw [(hab fault).2 hb] at ha
        cases ha
      | ok y => exact (hpure _ x).trans (ih.trans (hpure _ y).symm)

/-- Why an entry cannot be written depends on its name and on whether it is a folder, and not on
its data. -/
theorem NewEntry.member_eq_error_congr {e e' : NewEntry} (hname : e'.name = e.name)
    (hfolder : e'.isFolder = e.isFolder) (z : Deflater) (level : Int) (fault : Fault) :
    e.member z level = .error fault ↔ e'.member z level = .error fault := by
  have hwritten : e'.writtenName = e.writtenName := by
    rw [writtenName, writtenName, hname, hfolder]
  rw [member, member, hwritten, hfolder]
  by_cases hlong : maxNameLength < (Text.bytesOf e.writtenName).size
  · rw [if_pos hlong, if_pos hlong]
    rfl
  · rw [if_neg hlong, if_neg hlong]
    by_cases hdir : e.isFolder = true
    · rw [if_pos hdir, if_pos hdir]
    rw [if_neg hdir, if_neg hdir]
    by_cases hstored : level ≤ 0
    · rw [if_pos hstored, if_pos hstored]
      simp [pure, Except.pure]
    rw [if_neg hstored, if_neg hstored]
    by_cases hlevel : level > maxLevel
    · rw [if_pos hlevel, if_pos hlevel]
    · rw [if_neg hlevel, if_neg hlevel]
      simp [pure, Except.pure]

/-- Why entries cannot be written does not depend on their data. -/
theorem write_eq_error_congr {es es' : List NewEntry}
    (h : List.Forall₂ (fun e e' => e'.name = e.name ∧ e'.isFolder = e.isFolder) es es')
    (z : Deflater) (level : Int) (fault : Fault) :
    write z level es = .error fault ↔ write z level es' = .error fault := by
  have hmembers : ∀ f, es.mapM (NewEntry.member z level) = .error f ↔
      es'.mapM (NewEntry.member z level) = .error f :=
    mapM_eq_error_congr (h.imp fun e e' he => NewEntry.member_eq_error_congr he.1 he.2 z level)
  have hnames : es.map NewEntry.writtenName = es'.map NewEntry.writtenName := by
    rw [← List.forall₂_eq_eq_eq, List.forall₂_map_left_iff, List.forall₂_map_right_iff]
    refine h.imp fun e e' he => ?_
    rw [NewEntry.writtenName, NewEntry.writtenName, he.1, he.2]
  rw [write, write, hnames]
  cases hes : es.mapM (NewEntry.member z level) with
  | error f => rw [(hmembers f).1 hes]
  | ok ms =>
    cases hes' : es'.mapM (NewEntry.member z level) with
    | error f =>
      rw [(hmembers f).2 hes'] at hes
      cases hes
    | ok ms' =>
      simp only [bind, Except.bind]
      split <;> simp [pure, Except.pure]

end Zip

/-- Why a working copy cannot be written does not depend on the data of its entries. -/
theorem Package.Archive.toBytes_eq_error_congr {a a' : Archive}
    (h : List.Forall₂ (fun e e' => e'.name = e.name ∧ e'.isFolder = e.isFolder)
      a.entries a'.entries) (level : Int) (z : Zip.Deflater) (e : BookError) :
    a.toBytes level z = .error e ↔ a'.toBytes level z = .error e := by
  have hwrite : ∀ fault, Zip.write z level (a.entries.map newEntry) = .error fault ↔
      Zip.write z level (a'.entries.map newEntry) = .error fault := by
    refine Zip.write_eq_error_congr ?_ z level
    rwa [List.forall₂_map_left_iff, List.forall₂_map_right_iff]
  rw [toBytes, toBytes]
  cases ha : Zip.write z level (a.entries.map newEntry) with
  | error fault => rw [(hwrite fault).1 ha]
  | ok bytes =>
    cases ha' : Zip.write z level (a'.entries.map newEntry) with
    | error fault =>
      rw [(hwrite fault).2 ha'] at ha
      cases ha
    | ok bytes' => simp

/-! ### The same book -/

/-- Two packages of one book: they were written from working copies of one template with the same
chapters, in which those of the second have their identifiers renamed, and what is read of the
packages differs in the identifiers of the chapters alone. -/
def SameBook (template : ByteArray) (level : Int) (out out' : ByteArray) : Prop :=
  ∃ (copy : Archive) (chapters : List ContentObject) (ρ : SubContentId → SubContentId),
    Archive.ofBytes template = .ok copy ∧
    (Archive.assembled copy chapters).IsDelivered level out ∧
    (Archive.assembled copy (chapters.map (·.rename ρ))).IsDelivered level out' ∧
    Archive.EqualButIds copy chapters ρ (Archive.assembled copy chapters).reloaded
      (Archive.assembled copy (chapters.map (·.rename ρ))).reloaded

/-- Two outcomes of compiling one source: the same failure, or packages of one book. -/
inductive SameOutcome (template : ByteArray) (level : Int) :
    Except BookError ByteArray → Except BookError ByteArray → Prop where
  /-- Both fail for the same reason. -/
  | failed (e : BookError) : SameOutcome template level (.error e) (.error e)
  /-- Both succeed with the same book. -/
  | compiled {out out' : ByteArray} (h : SameBook template level out out') :
    SameOutcome template level (.ok out) (.ok out')

/-- What has the outcome of a failure fails for the same reason. -/
theorem SameOutcome.eq_error {template : ByteArray} {level : Int} {e : BookError}
    {outcome : Except BookError ByteArray}
    (h : SameOutcome template level (.error e) outcome) : outcome = .error e := by
  cases h
  rfl

/-- What has the outcome of a package gives a package of the same book. -/
theorem SameOutcome.exists_ok {template out : ByteArray} {level : Int}
    {outcome : Except BookError ByteArray} (h : SameOutcome template level (.ok out) outcome) :
    ∃ out', outcome = .ok out' ∧ SameBook template level out out' := by
  cases h with
  | compiled hsame => exact ⟨_, rfl, hsame⟩

namespace Package.Archive

/-- Packages that differ in identifiers alone are read back as such. -/
theorem EqualButIds.reloaded {bytes : ByteArray} {template : Archive}
    {chapters : List ContentObject} {ρ : SubContentId → SubContentId}
    (htemplate : ofBytes bytes = .ok template)
    (h : EqualButIds template chapters ρ (assembled template chapters)
      (assembled template (chapters.map (·.rename ρ)))) :
    EqualButIds template chapters ρ (assembled template chapters).reloaded
      (assembled template (chapters.map (·.rename ρ))).reloaded := by
  refine ⟨h.injective, ?_, read?_document htemplate _, read?_document htemplate _⟩
  rw [Archive.reloaded, Archive.reloaded, List.forall₂_map_left_iff, List.forall₂_map_right_iff]
  refine h.entries.imp fun e e' he => ⟨he.1, ?_, fun hne => ?_⟩
  · rw [ArchiveEntry.reloaded, ArchiveEntry.reloaded, he.1]
  · rw [ArchiveEntry.reloaded, ArchiveEntry.reloaded, he.2.1, he.2.2 hne]

/-- The packages of chapters and of the same chapters with other identifiers have the same outcome.
-/
theorem assemblePackage_renamed {bytes : ByteArray} {chapters : List ContentObject}
    {ρ : SubContentId → SubContentId} (level : Int)
    (hlacks : ∀ o ∈ chapters, ∀ id ∈ o.ids, KeepsLacking placeholderPath.toList ρ id)
    (hinjective : ∀ o ∈ chapters, ∀ o' ∈ chapters, ∀ id ∈ o.ids, ∀ id' ∈ o'.ids,
      ρ id = ρ id' → id = id') :
    SameOutcome bytes level (assemblePackage bytes chapters level)
      (assemblePackage bytes (chapters.map (·.rename ρ)) level) := by
  cases htemplate : ofBytes bytes with
  | error e =>
    have hrefused : ∀ chapters, assemblePackage bytes chapters level = .error e := by
      intro chapters
      rw [assemblePackage, htemplate]
      rfl
    rw [hrefused, hrefused]
    exact .failed e
  | ok template =>
    have hequal := equalButIds_writeFile htemplate hinjective
    rw [← assembled_rename template hlacks] at hequal
    have herrors := toBytes_eq_error_congr
      (hequal.entries.imp fun e e' h => ⟨h.1, h.2.1⟩) level .stored
    cases hout : assemblePackage bytes chapters level with
    | error e =>
      rw [assemblePackage_eq htemplate] at hout
      rw [assemblePackage_eq htemplate, (herrors e).1 hout]
      exact .failed e
    | ok out =>
      cases hout' : assemblePackage bytes (chapters.map (·.rename ρ)) level with
      | error e =>
        rw [assemblePackage_eq htemplate] at hout hout'
        rw [(herrors e).2 hout'] at hout
        cases hout
      | ok out' =>
        have hdelivered : ∀ {chapters out}, assemblePackage bytes chapters level = .ok out →
            (assembled template chapters).IsDelivered level out := fun h =>
          ⟨(assemblePackage_eq_ok_iff htemplate).1 h, ofBytes_of_assemblePackage htemplate h⟩
        exact .compiled ⟨template, chapters, ρ, htemplate, hdelivered hout, hdelivered hout',
          hequal.reloaded htemplate⟩

end Package.Archive

namespace Compiler

/-- A source that is compiled twice, with identifiers from two supplies, has the same outcome. -/
theorem compile_again {c : Compiler} {source : String} {lanes lanes' : IdLanes}
    (hl : c.DrawsRandom source lanes) (hl' : c.DrawsRandom source lanes') :
    SameOutcome c.template.bytes c.options.level (c.compile source lanes)
      (c.compile source lanes') := by
  by_cases hsource : Source.chaptersOf source = []
  · rw [compile_of_no_chapters hsource, compile_of_no_chapters hsource]
    exact .failed .noChaptersFound
  obtain ⟨chapters, hchapters⟩ := exists_buildChapters c lanes hsource
  obtain ⟨ρ, hchapters', hdistinct, hlacks⟩ := exists_renaming hl hl' hchapters
  rw [compile, compile, hchapters, hchapters']
  exact Archive.assemblePackage_renamed c.options.level hlacks hdistinct

/-- A compilation fails for want of chapters or because of the package. -/
theorem compile_failure {c : Compiler} {source : String} {lanes : IdLanes} {e : BookError}
    (h : c.compile source lanes = .error e) :
    e = .noChaptersFound ∨ ∃ fault, e = .package fault := by
  by_cases hchapters : Source.chaptersOf source = []
  · rw [compile_of_no_chapters hchapters] at h
    exact .inl (Except.error.inj h).symm
  obtain ⟨columns, hcolumns⟩ := exists_buildChapters c lanes hchapters
  refine .inr ?_
  rw [compile, hcolumns] at h
  simp only [bind, Except.bind] at h
  cases htemplate : Archive.ofBytes c.template.bytes with
  | error f =>
    rw [assemblePackage, htemplate] at h
    obtain rfl := Except.error.inj h
    rw [Archive.ofBytes] at htemplate
    split at htemplate
    · cases htemplate
    · exact ⟨_, (Except.error.inj htemplate).symm⟩
  | ok copy =>
    rw [Archive.assemblePackage_eq htemplate, Archive.toBytes] at h
    split at h
    · cases h
    · exact ⟨_, (Except.error.inj h).symm⟩

end Compiler

/-- The identifiers that are drawn for a source, compiled against the bytes of a template, are random.
-/
def DrawsRandom (options : CompileOptions) (source : String) (template : ByteArray)
    (lanes : IdLanes) : Prop :=
  ∀ t, Template.ofBytes template = .ok t →
    (Compiler.ofTemplate t options).DrawsRandom source lanes

/-- A source that is compiled twice against the bytes of a template has the same outcome. -/
theorem compileWith_again {options : CompileOptions} {source : String} {template : ByteArray}
    {lanes lanes' : IdLanes} (hl : DrawsRandom options source template lanes)
    (hl' : DrawsRandom options source template lanes') :
    SameOutcome template options.level (compileWith options source template lanes)
      (compileWith options source template lanes') := by
  cases ht : Template.ofBytes template with
  | error fault =>
    rw [compileWith_of_refused ht, compileWith_of_refused ht]
    exact .failed _
  | ok t =>
    rw [compileWith_of_accepted ht, compileWith_of_accepted ht]
    obtain ⟨rfl, -⟩ := Template.entries_of_ofBytes ht
    exact Compiler.compile_again (hl t ht) (hl' t ht)

/-- The failures of a compilation: the source has no chapters, the template is unusable, or the
package cannot be assembled. -/
theorem compileWith_failure {options : CompileOptions} {source : String} {template : ByteArray}
    {lanes : IdLanes} {e : BookError} (h : compileWith options source template lanes = .error e) :
    e = .noChaptersFound ∨ (∃ fault, e = .template fault) ∨ ∃ fault, e = .package fault := by
  cases ht : Template.ofBytes template with
  | error fault =>
    rw [compileWith_of_refused ht] at h
    exact .inr (.inl ⟨fault, (Except.error.inj h).symm⟩)
  | ok t =>
    rw [compileWith_of_accepted ht] at h
    exact (Compiler.compile_failure h).imp_right .inr

end InteractiveBook
