import InteractiveBook.CommandLine.Build
import InteractiveBook.CommandLine.FileTree
import InteractiveBook.Proofs.Content.Column
import InteractiveBook.Proofs.Recompilation

/-!
# What a check says is what a build does

A check looks at the outline of a source and at the libraries of a template, and builds nothing. It
accepts the sources that can be built, its outline has the chapters of the book with as many blocks
as their columns have items, and it lists the blocks that a build replaces.
-/

namespace InteractiveBook.CommandLine

open Compiler Content Library Package Source

/-- The blocks that were replaced in the column of a chapter, as a report names them. -/
def replacedIn (ctx : BuildContext) (c : DecodedChapter) (column : ContentObject) : List String :=
  ((c.blocks.zip column.items).filter fun p => isFallback ctx p.1 p.2).map fun p =>
    c.title ++ ": " ++ p.1.kind.label

/-- How the report of a check and the columns that are built go together. -/
structure Agrees (ctx : BuildContext) (chapters : List DecodedChapter) (r : CheckReport)
    (columns : List ContentObject) : Prop where
  /-- The outline is that of the chapters. -/
  outline : r.chapters = chapters.map DecodedChapter.outline
  /-- The columns have the titles of the outline, in order. -/
  titles : r.chapters.map (·.title) = columns.map (·.info.title)
  /-- A chapter becomes a column of as many items as it has blocks, and of one if it has none. -/
  items : List.Forall₂ (fun c o => o.shape = .column ∧
    o.items.length = if c.blocks.length = 0 then 1 else c.blocks.length) r.chapters columns
  /-- The listed blocks are those that were replaced, in the order of the source. -/
  fallbacks : r.fallbacks = (chapters.zip columns).flatMap fun p => replacedIn ctx p.1 p.2

/-- The blocks that were replaced in a column are those that the table has no library for. -/
theorem replacedIn_eq {ctx : BuildContext} {c : DecodedChapter} {column : ContentObject}
    (h : IsColumnOf ctx c column) :
    replacedIn ctx c column = (c.blocks.filter fun b => (blockLibrary? ctx b).isNone).map fun b =>
      c.title ++ ": " ++ b.kind.label := by
  have hlength : c.blocks.length ≤ column.items.length := by
    have hcount := h.count
    split at hcount <;> omega
  have hblocks : (c.blocks.zip column.items).map Prod.fst = c.blocks :=
    List.map_fst_zip hlength
  have hmarks : (c.blocks.zip column.items).filter (fun p => isFallback ctx p.1 p.2) =
      (c.blocks.zip column.items).filter fun p => (blockLibrary? ctx p.1).isNone :=
    List.filter_congr h.marks
  rw [replacedIn, hmarks]
  conv_rhs => rw [← hblocks, List.filter_map, List.map_map]
  rfl

/-- A check lists the blocks that are replaced in the columns. -/
theorem fallbacks_eq {ctx : BuildContext} {chapters : List DecodedChapter}
    {columns : List ContentObject} (h : List.Forall₂ (IsColumnOf ctx) chapters columns) :
    fallbacks (chapters.map DecodedChapter.outline) ctx.libraries =
      (chapters.zip columns).flatMap fun p => replacedIn ctx p.1 p.2 := by
  induction h with
  | nil => rfl
  | @cons c o chapters columns hc _ ih =>
    have hfirst : fallbacks [c.outline] ctx.libraries = replacedIn ctx c o := by
      rw [replacedIn_eq hc, fallbacks, List.flatMap_cons, List.flatMap_nil, List.append_nil,
        DecodedChapter.outline, List.filter_map, List.map_map]
      rfl
    rw [List.zip_cons_cons, List.flatMap_cons, ← ih, ← hfirst]
    simp only [fallbacks, List.map_cons, List.flatMap_cons, List.flatMap_nil, List.append_nil]

/-- The report of a check agrees with the columns of the chapters. -/
theorem agrees_of_forall₂ {ctx : BuildContext} {chapters : List DecodedChapter}
    {columns : List ContentObject} (h : List.Forall₂ (IsColumnOf ctx) chapters columns) :
    Agrees ctx chapters ⟨chapters.map DecodedChapter.outline,
      fallbacks (chapters.map DecodedChapter.outline) ctx.libraries⟩ columns where
  outline := rfl
  titles := by
    rw [List.map_map]
    induction h with
    | nil => rfl
    | cons hc _ ih => rw [List.map_cons, List.map_cons, ih, hc.title]; rfl
  items := by
    rw [List.forall₂_map_left_iff]
    refine h.imp fun c o hc => ⟨hc.shape, ?_⟩
    rw [hc.count, DecodedChapter.outline, List.length_map]
  fallbacks := fallbacks_eq h

section Files

variable {ε σ α β : Type}

/-- A step that succeeds is followed by the next one. -/
theorem run_bind_of_ok {d : ExceptT ε (StateM σ) α} {f : α → ExceptT ε (StateM σ) β} {s s' : σ}
    {a : α} (h : ExceptT.run d s = (.ok a, s')) :
    ExceptT.run (d >>= f) s = ExceptT.run (f a) s' := by
  have hbind : ExceptT.run (d >>= f) s =
      ExceptT.bindCont f (ExceptT.run d s).1 (ExceptT.run d s).2 := rfl
  rw [hbind, h]
  rfl

/-- A step that cannot fail is followed by the next one. -/
theorem run_lift_bind {d : StateM σ α} {f : α → ExceptT ε (StateM σ) β} (s : σ) :
    ExceptT.run (liftM d >>= f) s = ExceptT.run (f (d s).1) (d s).2 :=
  run_bind_of_ok rfl

variable {naming : Naming} {tree : FileTree} {path : String} {data : ByteArray}

/-- What is reported changes nothing. -/
theorem run_report_bind {o : LogOrigin} {lines : List LogLine}
    {f : Unit → ExceptT ε (StateM FileTree) β} :
    ExceptT.run (liftM ((FileTree.access naming).report o lines) >>= f) tree =
      ExceptT.run (f ()) tree :=
  run_lift_bind tree

/-- A source that is text is read. -/
theorem readSource_run {source : String} (hdata : tree.readFile path = .ok data)
    (hsource : Text.decodeUtf8 data = .ok source) :
    ExceptT.run (readSource (FileTree.access naming) path) tree = (.ok source, tree) := by
  have htext : readText (FileTree.access naming) path tree = (.ok source, tree) := by
    have hread : (FileTree.access naming).readFile path tree = (.ok data, tree) := by
      rw [← hdata]
      rfl
    simp only [readText, bind, StateT.bind, hread, hsource]
    rfl
  rw [readSource, run_lift_bind, htext]
  rfl

/-- A template is loaded. -/
theorem loadTemplate_run {t : Template} (hdata : tree.readFile path = .ok data)
    (ht : Template.ofBytes data = .ok t) :
    ExceptT.run (loadTemplate (FileTree.access naming) path) tree = (.ok t, tree) := by
  have hread : (FileTree.access naming).readFile path tree = (.ok data, tree) := by
    rw [← hdata]
    rfl
  rw [loadTemplate, run_lift_bind, hread]
  simp only [ht]
  rfl

end Files

/-- A check of a source against a template refuses the sources that cannot be built against it, and
for any other source its report agrees with the columns that are built, whatever the options and
the identifiers. -/
theorem check_agrees_build {tree : FileTree} {input path source : String}
    {data bytes : ByteArray} {t : Template} (options : CompileOptions) (lanes : IdLanes)
    (hdata : tree.readFile input = .ok data) (hsource : Text.decodeUtf8 data = .ok source)
    (hbytes : tree.readFile path = .ok bytes) (ht : Template.ofBytes bytes = .ok t) :
    (∃ e, ExceptT.run (check FileTree.access input (some path)) tree =
        (.error (.check input e), tree) ∧
      (ofTemplate t options).buildChapters source lanes = .error e) ∨
    ∃ chapters report columns, decodeSource source = .ok chapters ∧
      ExceptT.run (check FileTree.access input (some path)) tree = (.ok report, tree) ∧
      (ofTemplate t options).buildChapters source lanes = .ok columns ∧
      Agrees (ofTemplate t options).context chapters report columns := by
  rw [check, run_bind_of_ok (readSource_run hdata hsource), Compiler.buildChapters, outlineSource]
  cases hdecode : decodeSource source with
  | error e => exact .inl ⟨e, rfl, rfl⟩
  | ok chapters =>
    refine .inr ⟨chapters, _, _, rfl, ?_, rfl, agrees_of_forall₂ (forall₂_buildChapters _ _ _ _)⟩
    dsimp only [Except.map]
    rw [run_report_bind, run_bind_of_ok (loadTemplate_run hbytes ht), run_report_bind]
    rfl

/-- A source of prose and a quiz. -/
def quizSource : String := "# A\nb\n[QUIZ]\n"

/-- The one chapter of the source. -/
def quizChapters : List DecodedChapter := [⟨"A", [⟨.text, ["b"]⟩, ⟨.quiz, []⟩]⟩]

/-- A folder with the source and a template. -/
def quizFolder (template : ByteArray) : FileTree where
  nodes := [(["book.md"], .file (Text.bytesOf quizSource)), (["book.h5p"], .file template)]

/-- The source is cut into its chapter. -/
theorem decodeSource_quizSource : decodeSource quizSource = .ok quizChapters := by
  have hdecode : (decodeSource quizSource).toOption = some quizChapters := by decide +kernel
  exact eq_ok_of_toOption hdecode

/-- Against a template that has a library for columns only, both blocks are reported and
replaced. -/
theorem quizFolder_checked : ∃ bytes t, Template.ofBytes bytes = .ok t ∧
    (quizFolder bytes).readFile "book.md" = .ok (Text.bytesOf quizSource) ∧
    Text.decodeUtf8 (Text.bytesOf quizSource) = .ok quizSource ∧
    (quizFolder bytes).readFile "book.h5p" = .ok bytes ∧
    ∃ report columns,
      ExceptT.run (check FileTree.access "book.md" (some "book.h5p")) (quizFolder bytes) =
        (.ok report, quizFolder bytes) ∧
      (ofTemplate t {}).buildChapters quizSource (.ofSeed 0) = .ok columns ∧
      Agrees (ofTemplate t {}).context quizChapters report columns ∧
      report.fallbacks = ["A: Text", "A: Quiz"] := by
  obtain ⟨-, bytes, -, -, htemplate, -⟩ := bookCopy_compiled
  have hsource : Text.decodeUtf8 (Text.bytesOf quizSource) = .ok quizSource := by
    rw [Text.decodeUtf8, Text.bytesOf, fromUTF8?_toUTF8]
  have hinput : (quizFolder bytes).readFile "book.md" = .ok (Text.bytesOf quizSource) := rfl
  have hbytes : (quizFolder bytes).readFile "book.h5p" = .ok bytes := rfl
  refine ⟨bytes, _, htemplate, hinput, hsource, hbytes, ?_⟩
  have hbuilt : (ofTemplate (bookTemplate bytes) {}).buildChapters quizSource (.ofSeed 0) =
      .ok (Content.buildChapters (ofTemplate (bookTemplate bytes) {}).context quizChapters true
        (.ofSeed 0)) := by
    rw [Compiler.buildChapters, decodeSource_quizSource]
    rfl
  rcases check_agrees_build {} (.ofSeed 0) hinput hsource hbytes htemplate with
    ⟨e, -, hcolumns⟩ | ⟨chapters, report, columns, hchapters, hcheck, hcolumns, hagrees⟩
  · rw [hbuilt] at hcolumns
    cases hcolumns
  · obtain rfl := Except.ok.inj (decodeSource_quizSource.symm.trans hchapters)
    refine ⟨report, columns, hcheck, hcolumns, hagrees, ?_⟩
    have hlisted : fallbacks (quizChapters.map DecodedChapter.outline)
        (bookTemplate ByteArray.empty).libraries = ["A: Text", "A: Quiz"] := by decide +kernel
    rw [← Except.ok.inj (hbuilt.symm.trans hcolumns)] at hagrees
    rw [hagrees.fallbacks, ← fallbacks_eq (forall₂_buildChapters _ _ _ _)]
    exact hlisted

end InteractiveBook.CommandLine
