import InteractiveBook.Proofs.Compilation
import InteractiveBook.Service.Resource

/-!
# Damage that is found after a template was accepted

A template is accepted without the data of its entries being read, except for the manifest. What is
wrong with the data of another entry is found when a package is assembled, and the service then
says that it is at fault itself. This happens exactly for sources with a chapter and templates with
a damaged entry.
-/

namespace InteractiveBook.Service

open Content Package Source

/-- A request that a source be compiled against the template that comes with it. -/
structure Asks (r : Request) (source : String) (template : ByteArray) : Prop where
  /-- The method is that of the resource. -/
  method : r.method = Resource.compile.method
  /-- The path is that of the resource. -/
  path : r.path = Resource.compile.path
  /-- The form has the source and the template, each in the last part of its name. -/
  form : ∃ parts sourcePart templatePart, r.form = some parts ∧
    lastPart? parts "source" = some sourcePart ∧
    Text.decodeUtf8 sourcePart.data = .ok source ∧
    lastPart? parts "template" = some templatePart ∧ templatePart.data = template

/-- A request that a source be compiled against the default template. -/
structure AsksDefault (r : Request) (source : String) : Prop where
  /-- The method is that of the resource. -/
  method : r.method = Resource.compile.method
  /-- The path is that of the resource. -/
  path : r.path = Resource.compile.path
  /-- The form has the source, in the last part of its name, and no template. -/
  form : ∃ parts sourcePart, r.form = some parts ∧
    lastPart? parts "source" = some sourcePart ∧
    Text.decodeUtf8 sourcePart.data = .ok source ∧ lastPart? parts "template" = none

/-- What the service is asked with a request: to compile a source against a template, which comes
with the request or is the default one. -/
def Serves (s : Settings) (r : Request) (source : String) (template : ByteArray) : Prop :=
  Asks r source template ∨
    AsksDefault r source ∧ ∃ t, s.defaultTemplate = some t ∧ Template.ofBytes template = .ok t

/-- The response with which a compilation ends, whose package is to be saved under a name. -/
def compileResponse (name : String) : Except BookError ByteArray → Response
  | .error e => (Refusal.failed e).response
  | .ok bytes => { status := 200, payload := .package bytes name }

/-- A request to compile is answered by the resource for it. -/
theorem respond_compile {s : Settings} {lanes : IdLanes} {r : Request}
    (hmethod : r.method = Resource.compile.method) (hpath : r.path = Resource.compile.path) :
    respond s lanes r = Resource.compile.respond s lanes r := by
  have hresource : Resource.ofPath? r.path = some .compile := by
    rw [hpath]
    decide
  have hplain : r.method ≠ "OPTIONS" := by
    rw [hmethod]
    decide
  rw [respond, if_neg hplain, hresource]
  exact if_pos hmethod

/-- The response to a request to compile is decided by the template and then by the compilation. -/
theorem respond_eq_of_form {s : Settings} {lanes : IdLanes} {r : Request} {source : String}
    {parts : List Part} {sourcePart : Part} (hmethod : r.method = Resource.compile.method)
    (hpath : r.path = Resource.compile.path) (hform : r.form = some parts)
    (hsource : lastPart? parts "source" = some sourcePart)
    (hdecode : Text.decodeUtf8 sourcePart.data = .ok source) :
    respond s lanes r = match templateFor s parts with
      | .error refusal => refusal.response
      | .ok t => compileResponse (savedName sourcePart)
        ((Compiler.ofTemplate t s.options).compile source lanes) := by
  rw [respond_compile hmethod hpath, Resource.respond, hform]
  dsimp only
  rw [compileForm, hsource]
  dsimp only
  rw [hdecode]
  dsimp only
  cases templateFor s parts with
  | error refusal => rfl
  | ok t =>
    simp only [bind, Except.bind, Except.mapError]
    cases (Compiler.ofTemplate t s.options).compile source lanes <;> rfl

/-- The service answers with the outcome of the compilation. -/
theorem respond_eq {s : Settings} (lanes : IdLanes) {r : Request} {source : String}
    {template : ByteArray} (h : Serves s r source template) : ∃ name, respond s lanes r =
      compileResponse name (compileWith s.options source template lanes) := by
  obtain hasks | ⟨hasks, t, hdefault, ht⟩ := h
  · obtain ⟨parts, sourcePart, templatePart, hform, hsource, hdecode, htemplate, hdata⟩ :=
      hasks.form
    refine ⟨savedName sourcePart, ?_⟩
    rw [respond_eq_of_form hasks.method hasks.path hform hsource hdecode, templateFor, htemplate]
    dsimp only
    rw [hdata]
    cases ht : Template.ofBytes template with
    | error fault =>
      rw [compileWith_of_refused ht]
      rfl
    | ok t =>
      rw [compileWith_of_accepted ht]
      rfl
  · obtain ⟨parts, sourcePart, hform, hsource, hdecode, hnone⟩ := hasks.form
    refine ⟨savedName sourcePart, ?_⟩
    rw [respond_eq_of_form hasks.method hasks.path hform hsource hdecode, templateFor, hnone,
      hdefault, compileWith_of_accepted ht]

/-- The status of the answer is that of the compilation. -/
theorem respond_status {s : Settings} {lanes : IdLanes} {r : Request} {source : String}
    {template : ByteArray} (h : Asks r source template) :
    (respond s lanes r).status = match compileWith s.options source template lanes with
      | .ok _ => 200
      | .error e => failureStatus e := by
  obtain ⟨name, hresponse⟩ := respond_eq lanes (.inl h : Serves s r source template)
  rw [hresponse]
  cases compileWith s.options source template lanes <;> rfl

/-- The service takes the blame for a template that it accepted exactly when the source has a
chapter and the template is damaged. -/
theorem status_internal_iff {bytes : ByteArray} {t : Template}
    {s : Settings} {lanes : IdLanes} {r : Request} {source : String}
    (ht : Template.ofBytes bytes = .ok t) (hnames : HasShortNames bytes)
    (hasks : Asks r source bytes) (hlevel : s.options.level ≤ Zip.maxLevel) :
    (respond s lanes r).status = 500 ↔ chaptersOf source ≠ [] ∧ IsDamaged bytes := by
  have hread := Compiler.compile_archiveRead_iff ht s.options source lanes
  rw [respond_status hasks, compileWith_of_accepted ht, ← hread]
  by_cases hchapters : chaptersOf source = []
  · rw [Compiler.compile_of_no_chapters hchapters]
    simp [failureStatus]
  by_cases hdamaged : IsDamaged bytes
  · obtain ⟨reason, hreason⟩ := hread.2 ⟨hchapters, hdamaged⟩
    rw [hreason]
    simp [failureStatus]
  · obtain ⟨hbytes, found, he, -⟩ := Template.entries_of_ofBytes ht
    have htemplate : (Compiler.ofTemplate t s.options).template.bytes = bytes := hbytes
    have hintact := Zip.firstFault?_eq_none_iff.1 ((not_isDamaged_iff ht he).1 hdamaged)
    obtain ⟨out, hout⟩ := Compiler.exists_compile lanes hchapters (htemplate ▸ he)
      (htemplate ▸ hintact) (hnames found he) hlevel
    rw [hout]
    simp

/-- For a template that is accepted, the working copy cannot be loaded, a source with a chapter
cannot be compiled, and the service takes the blame, each exactly when an entry other than the
manifest is damaged. -/
theorem damage_shows_late {bytes : ByteArray} {t : Template}
    (ht : Template.ofBytes bytes = .ok t) (hnames : HasShortNames bytes) :
    ((∃ a, Archive.ofBytes bytes = .ok a) ↔ ¬IsDamaged bytes) ∧
    (∀ options source lanes, (∃ reason, (Compiler.ofTemplate t options).compile source lanes =
      .error (.package (.archiveRead reason))) ↔ chaptersOf source ≠ [] ∧ IsDamaged bytes) ∧
    ∀ s lanes r source, Asks r source bytes → s.options.level ≤ Zip.maxLevel →
      ((respond s lanes r).status = 500 ↔ chaptersOf source ≠ [] ∧ IsDamaged bytes) := by
  refine ⟨exists_ofBytes_iff ht, Compiler.compile_archiveRead_iff ht, ?_⟩
  intro s lanes r source hasks hlevel
  exact status_internal_iff ht hnames hasks hlevel

/-- A template of two entries: the manifest, and a file of one byte whose checksum is given as
zero. -/
def damagedBook : ByteArray :=
  ⟨#[0x50, 0x4b, 0x03, 0x04, 0x0a, 0x00, 0x00, 0x00, 0x00, 0x00, 0x00, 0x00, 0x21, 0x00, 0x2e,
    0x8f, 0xbc, 0x4c, 0x25, 0x00, 0x00, 0x00, 0x25, 0x00, 0x00, 0x00, 0x08, 0x00, 0x00, 0x00,
    0x68, 0x35, 0x70, 0x2e, 0x6a, 0x73, 0x6f, 0x6e, 0x7b, 0x22, 0x6d, 0x61, 0x69, 0x6e, 0x4c,
    0x69, 0x62, 0x72, 0x61, 0x72, 0x79, 0x22, 0x3a, 0x22, 0x48, 0x35, 0x50, 0x2e, 0x49, 0x6e,
    0x74, 0x65, 0x72, 0x61, 0x63, 0x74, 0x69, 0x76, 0x65, 0x42, 0x6f, 0x6f, 0x6b, 0x22, 0x7d,
    0x50, 0x4b, 0x03, 0x04, 0x0a, 0x00, 0x00, 0x00, 0x00, 0x00, 0x00, 0x00, 0x21, 0x00, 0x00,
    0x00, 0x00, 0x00, 0x01, 0x00, 0x00, 0x00, 0x01, 0x00, 0x00, 0x00, 0x01, 0x00, 0x00, 0x00,
    0x61, 0x78, 0x50, 0x4b, 0x01, 0x02, 0x0a, 0x00, 0x0a, 0x00, 0x00, 0x00, 0x00, 0x00, 0x00,
    0x00, 0x21, 0x00, 0x2e, 0x8f, 0xbc, 0x4c, 0x25, 0x00, 0x00, 0x00, 0x25, 0x00, 0x00, 0x00,
    0x08, 0x00, 0x00, 0x00, 0x00, 0x00, 0x00, 0x00, 0x00, 0x00, 0x00, 0x00, 0x00, 0x00, 0x00,
    0x00, 0x00, 0x00, 0x68, 0x35, 0x70, 0x2e, 0x6a, 0x73, 0x6f, 0x6e, 0x50, 0x4b, 0x01, 0x02,
    0x0a, 0x00, 0x0a, 0x00, 0x00, 0x00, 0x00, 0x00, 0x00, 0x00, 0x21, 0x00, 0x00, 0x00, 0x00,
    0x00, 0x01, 0x00, 0x00, 0x00, 0x01, 0x00, 0x00, 0x00, 0x01, 0x00, 0x00, 0x00, 0x00, 0x00,
    0x00, 0x00, 0x00, 0x00, 0x00, 0x00, 0x00, 0x00, 0x4b, 0x00, 0x00, 0x00, 0x61, 0x50, 0x4b,
    0x05, 0x06, 0x00, 0x00, 0x00, 0x00, 0x02, 0x00, 0x02, 0x00, 0x65, 0x00, 0x00, 0x00, 0x6b,
    0x00, 0x00, 0x00, 0x00, 0x00]⟩

/-- The entries of the template. -/
def damagedEntries : List Zip.Entry :=
  [⟨"h5p.json", 0, false, 0x4cbc8f2e, 37, 0, false⟩, ⟨"a", 0, false, 0, 1, 75, false⟩]

/-- The template is accepted, and its file of one byte is damaged. -/
theorem damagedBook_spec : Zip.entries damagedBook = .ok damagedEntries ∧
    Zip.firstFault? damagedBook damagedEntries = some .badChecksum ∧
    ∃ t, Template.ofBytes damagedBook = .ok t := by
  have he : Zip.entries damagedBook = .ok damagedEntries := by decide +kernel
  have hheaders : ∀ e ∈ damagedEntries, e.hasHeader damagedBook = true := by decide +kernel
  have hraw : manifestBytes damagedBook damagedEntries =
      .ok "\x7b\"mainLibrary\":\"H5P.InteractiveBook\"\x7d".toUTF8 := by decide +kernel
  have hmanifest : readManifest "\x7b\"mainLibrary\":\"H5P.InteractiveBook\"\x7d".toUTF8 =
      .ok ⟨none, "H5P.InteractiveBook", []⟩ := by decide +kernel
  have hfault : Zip.firstFault? damagedBook damagedEntries = some .badChecksum := by
    decide +kernel
  have hbook : (⟨none, "H5P.InteractiveBook", []⟩ : Manifest).isBook = true := by decide +kernel
  exact ⟨he, hfault, _, Template.ofBytes_spec.2 ⟨_, _, _,
    checkedEntries_eq_ok_iff.2 ⟨he, hheaders⟩, hraw, hmanifest, hbook, rfl⟩⟩

/-- A request to compile a heading against the template. -/
def damagedRequest : Request :=
  { method := "POST"
    path := "/api/v1/compile"
    form := some [⟨"source", none, Text.bytesOf "# A"⟩, ⟨"template", none, damagedBook⟩] }

/-- The request asks for the heading to be compiled. -/
theorem asks_damagedRequest : Asks damagedRequest "# A" damagedBook := by
  have hdecode : Text.decodeUtf8 (Text.bytesOf "# A") = .ok "# A" := by
    rw [Text.decodeUtf8, Text.bytesOf, fromUTF8?_toUTF8]
  exact ⟨rfl, rfl, _, _, _, rfl, rfl, hdecode, rfl, rfl⟩

/-- The damage of the template shows in the working copy, in the compilation and in the answer of
the service. -/
theorem damagedBook_shows_late : ∃ t, Template.ofBytes damagedBook = .ok t ∧
    HasShortNames damagedBook ∧
    Asks damagedRequest "# A" damagedBook ∧ IsDamaged damagedBook ∧
    (¬∃ a, Archive.ofBytes damagedBook = .ok a) ∧
    (∃ reason, (Compiler.ofTemplate t {}).compile "# A" (.ofSeed 0) =
      .error (.package (.archiveRead reason))) ∧
      (respond {} (.ofSeed 0) damagedRequest).status = 500 := by
  obtain ⟨he, hf, t, ht⟩ := damagedBook_spec
  have hshort : ∀ e ∈ damagedEntries, e.name.utf8ByteSize ≤ Zip.maxNameLength := by decide +kernel
  have hnames : HasShortNames damagedBook := by
    intro found hfound
    obtain rfl := Except.ok.inj (he.symm.trans hfound)
    exact hshort
  have hdamaged : IsDamaged damagedBook := by
    by_contra hsound
    rw [(not_isDamaged_iff ht he).1 hsound] at hf
    cases hf
  have hchapters : chaptersOf "# A" ≠ [] := by decide +kernel
  have hlevel : ({} : Settings).options.level ≤ Zip.maxLevel := by decide
  obtain ⟨hload, hcompile, hrespond⟩ := damage_shows_late ht hnames
  exact ⟨t, ht, hnames, asks_damagedRequest, hdamaged, fun h => hload.1 h hdamaged,
    (hcompile {} "# A" (.ofSeed 0)).2 ⟨hchapters, hdamaged⟩,
    (hrespond {} (.ofSeed 0) damagedRequest "# A" asks_damagedRequest hlevel).2
      ⟨hchapters, hdamaged⟩⟩

/-- Not every template that is accepted can be loaded, not every compilation against it gets past
its archive, and the service takes the blame for a template that came with a request. -/
theorem damagedBook_accepted : ∃ t, Template.ofBytes damagedBook = .ok t ∧
    (∀ a, Archive.ofBytes damagedBook ≠ .ok a) ∧
    (Compiler.ofTemplate t {}).compile "# A" (.ofSeed 0) =
      .error (.package (.archiveRead (Zip.Fault.message .badChecksum))) ∧
    Asks damagedRequest "# A" damagedBook ∧
      (respond {} (.ofSeed 0) damagedRequest).status = 500 := by
  obtain ⟨he, hf, t, ht⟩ := damagedBook_spec
  obtain ⟨hbytes, -⟩ := Template.entries_of_ofBytes ht
  have hchapters : chaptersOf "# A" ≠ [] := by decide +kernel
  have hcompile : (Compiler.ofTemplate t {}).compile "# A" (.ofSeed 0) =
      .error (Archive.readFault .badChecksum) := by
    have htemplate : (Compiler.ofTemplate t {}).template.bytes = damagedBook := hbytes
    exact Compiler.compile_of_firstFault? hchapters (htemplate ▸ he) (htemplate ▸ hf)
  refine ⟨t, ht, fun a => ?_, hcompile, asks_damagedRequest, ?_⟩
  · rw [Archive.ofBytes_of_firstFault? he hf]
    exact nofun
  · rw [respond_status asks_damagedRequest, compileWith_of_accepted ht]
    have hdefault : ({} : Settings).options = {} := rfl
    rw [hdefault, hcompile]
    rfl

end InteractiveBook.Service
