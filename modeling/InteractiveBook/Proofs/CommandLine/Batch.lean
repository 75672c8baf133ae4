import InteractiveBook.Proofs.CommandLine.Build
import InteractiveBook.Proofs.CommandLine.Rivals

/-!
# What a batch leaves behind

A batch compiles the sources whose packages have names of their own, in any order. A package never
takes the place of a source, so what is read of a source and whether its package can be put in place
can be told before the batch runs, and each source that is compiled puts its package at one place.
What is left is to count.
-/

namespace InteractiveBook.CommandLine

open Compiler Content Package

variable {naming : Naming} {start t : FileTree} {o : Place} {folder path : String}

/-! ### Reading beside packages -/

/-- The text in a file, if the file can be read and holds one. -/
def FileTree.text? (t : FileTree) (path : String) : Option String :=
  match t.readFile path with
  | .ok data => (Text.decodeUtf8 data).toOption
  | .error _ => none

/-- Two trees have the same folders, and the same files but for packages in one folder. -/
structure SameButPackages (naming : Naming) (o : Place) (t t' : FileTree) : Prop where
  /-- The same places are folders. -/
  folders : ∀ q, t.node? q = some .folder ↔ t'.node? q = some .folder
  /-- Where no package can be, there is the same. -/
  others : ∀ q, (∀ path, q ≠ o ++ [naming.packageName path]) → t.node? q = t'.node? q
  /-- The system refuses the same. -/
  refusals : t.refusals = t'.refusals

/-- A tree has the same as itself. -/
theorem SameButPackages.refl (t : FileTree) : SameButPackages naming o t t :=
  ⟨fun _ => Iff.rfl, fun _ _ => rfl, rfl⟩

/-- Having the same but for packages goes both ways. -/
theorem SameButPackages.symm {t' : FileTree} (h : SameButPackages naming o t t') :
    SameButPackages naming o t' t :=
  ⟨fun q => (h.folders q).symm, fun q hq => (h.others q hq).symm, h.refusals.symm⟩

/-- A package that is put where no folder stands changes nothing but packages. -/
theorem SameButPackages.put (h : SameButPackages naming o t start)
    (hfree : start.node? (o ++ [naming.packageName path]) ≠ some .folder) (bytes : ByteArray) :
    SameButPackages naming o (t.put (o ++ [naming.packageName path]) (.file bytes)) start := by
  have hne : o ++ [naming.packageName path] ≠ [] := by simp
  refine ⟨fun q => ?_, fun q hq => ?_, (FileTree.refusals_put ..).trans h.refusals⟩
  · rw [FileTree.node?_put t hne]
    split
    · next hq =>
      rw [hq]
      exact iff_of_false nofun hfree
    · exact h.folders q
  · rw [FileTree.node?_put t hne, if_neg (hq path), h.others q hq]

/-- A file is put in place or not alike beside other packages. -/
theorem SameButPackages.replaceFault?_eq (h : SameButPackages naming o t start) (path : String)
    (p : Place) : t.replaceFault? path p = start.replaceFault? path p := by
  have hnode : (t.node? p = some .folder) = (start.node? p = some .folder) := propext (h.folders p)
  simp only [FileTree.replaceFault?, h.refusals, hnode]

/-- The name of a package is not that of a source. -/
theorem packageName_ne_of_isSource {name : List Char} (h : isSource path = true)
    (hname : Text.lastName? path = some name) (other : String) :
    String.ofList name ≠ naming.packageName other := by
  intro heq
  have hpackage : sourceExtensions.contains
      (Text.Unicode.foldCase (String.ofList packageExtension.toList)) = false := by decide +kernel
  rw [isSource, Text.extension?, hname, Option.bind_some] at h
  have hlist : name = (naming.packageName other).toList := by rw [← heq, String.toList_ofList]
  cases hcut : (Text.cutExtension name).2 with
  | none =>
    rw [hcut] at h
    cases h
  | some extension =>
    rw [hcut] at h
    rw [hlist] at hcut
    rw [(naming.isPackageFile other).cutExtension hcut, ← Bool.not_eq_false] at h
    exact h hpackage

/-- A source that can be read is read in the same way beside other packages. -/
theorem SameButPackages.readFile {t' : FileTree} (h : SameButPackages naming o t t')
    (hpath : isSource path = true) {data : ByteArray} (hread : t.readFile path = .ok data) :
    t'.readFile path = .ok data := by
  obtain ⟨p, name, -, -, hname, hplace⟩ := FileTree.exists_leadsTo_of_readFile hread
  obtain ⟨q, hq, hfile, hallowed⟩ := FileTree.readFile_eq_ok_iff.1 hread
  obtain rfl := Except.ok.inj (hq.symm.trans hplace)
  have hother : ∀ other, p ++ [String.ofList name] ≠ o ++ [naming.packageName other] := by
    intro other heq
    have hlast := congrArg List.getLast? heq
    rw [List.getLast?_concat, List.getLast?_concat] at hlast
    exact packageName_ne_of_isSource hpath hname other (Option.some.inj hlast)
  refine FileTree.readFile_eq_ok_iff.2 ⟨_, FileTree.place?_mono (fun r hr => ?_) hplace, ?_, ?_⟩
  · exact (h.folders r).1 hr
  · rw [← h.others _ hother, hfile]
  · rw [← h.refusals, hallowed]

/-- The text of a source is the same beside other packages. -/
theorem SameButPackages.text?_eq (h : SameButPackages naming o t start)
    (hpath : isSource path = true) : t.text? path = start.text? path := by
  rw [FileTree.text?, FileTree.text?]
  cases hread : t.readFile path with
  | ok data => rw [h.readFile hpath hread]
  | error fault =>
    cases hread' : start.readFile path with
    | ok data =>
      rw [h.symm.readFile hpath hread'] at hread
      cases hread
    | error fault' => rfl

/-! ### One source -/

/-- Why the package of a source is not put in the folder of packages. -/
def outputFault? (start : FileTree) (naming : Naming) (folder : String) (o : Place)
    (path : String) : Option ReplaceFault :=
  start.replaceFault? (outputPath naming folder path) (o ++ [naming.packageName path])

/-- A package is put in place only where no folder stands. -/
theorem ne_folder_of_outputFault?_eq_none (h : outputFault? start naming folder o path = none) :
    start.node? (o ++ [naming.packageName path]) ≠ some .folder := by
  intro hnode
  rw [outputFault?, FileTree.replaceFault?, Option.or_eq_none_iff, if_pos hnode] at h
  cases h.2

/-- The package that a batch puts in place for a source, if the source can be read and compiled and
nothing keeps the package from its place. -/
def deliverable? (start : FileTree) (naming : Naming) (c : Compiler) (folder : String) (o : Place)
    (path : String) (lanes : IdLanes) : Option ByteArray :=
  match start.text? path with
  | none => none
  | some source =>
    if (outputFault? start naming folder o path).isSome then none
    else (c.compile source lanes).toOption

/-- A source has a package to be put in place when nothing keeps it from its place, the source holds
a text and the text is compiled. -/
theorem deliverable?_eq_some_iff {c : Compiler} {lanes : IdLanes} {bytes : ByteArray} :
    deliverable? start naming c folder o path lanes = some bytes ↔
      outputFault? start naming folder o path = none ∧
        ∃ source, start.text? path = some source ∧ c.compile source lanes = .ok bytes := by
  rw [deliverable?]
  cases hsource : start.text? path with
  | none => simp
  | some source =>
    dsimp only
    have hcompile : (c.compile source lanes).toOption = some bytes ↔
        c.compile source lanes = .ok bytes := by
      cases c.compile source lanes <;> simp [Except.toOption]
    cases hfault : outputFault? start naming folder o path with
    | some fault => simp
    | none => simp [hcompile]

/-- Where something keeps a package from its place, none is put there. -/
theorem deliverable?_eq_none {c : Compiler} {lanes : IdLanes}
    (hblocked : outputFault? start naming folder o path ≠ none) :
    deliverable? start naming c folder o path lanes = none := by
  rw [Option.eq_none_iff_forall_ne_some]
  exact fun bytes hbytes => hblocked (deliverable?_eq_some_iff.1 hbytes).1

/-- A source that holds a text is read. -/
theorem readSource_run_of_some {source : String} (h : t.text? path = some source) :
    ExceptT.run (readSource (FileTree.access naming) path) t = (.ok source, t) := by
  rw [FileTree.text?] at h
  split at h
  · next data hdata => exact readSource_run hdata (eq_ok_of_toOption h)
  · cases h

/-- A source that holds no text is not read. -/
theorem readSource_run_of_none (h : t.text? path = none) : ∃ fault,
    ExceptT.run (readSource (FileTree.access naming) path) t = (.error (.source path fault), t) := by
  rw [FileTree.text?] at h
  have hread : (FileTree.access naming).readFile path t = (t.readFile path, t) := rfl
  have htext : ∀ fault, readText (FileTree.access naming) path t = (.error fault, t) →
      ExceptT.run (readSource (FileTree.access naming) path) t = (.error (.source path fault), t) := by
    intro fault htext
    rw [readSource, run_lift_bind, htext]
    rfl
  split at h
  · next data hdata =>
    cases hdecode : Text.decodeUtf8 data with
    | ok source =>
      rw [hdecode] at h
      cases h
    | error e =>
      refine ⟨.notText, htext _ ?_⟩
      simp only [readText, bind, StateT.bind, hread, hdata, hdecode]
      rfl
  · next fault hfault =>
    refine ⟨.file fault, htext _ ?_⟩
    simp only [readText, bind, StateT.bind, hread, hfault]
    rfl

/-- A package is put in place beside other packages unless something keeps it from its place. -/
theorem SameButPackages.writePackage_run (h : SameButPackages naming o t start)
    (hfolder : start.LeadsTo folder o) (path : String) (bytes : ByteArray) :
    ExceptT.run (writePackage (FileTree.access naming) (outputPath naming folder path) bytes) t =
      match outputFault? start naming folder o path with
      | some fault => (.error (writeFailure (outputPath naming folder path) fault), t)
      | none => (.ok (), t.put (o ++ [naming.packageName path]) (.file bytes)) := by
  refine (CommandLine.writePackage_run (hfolder.mono fun r hr => (h.folders r).2 hr)
    (naming.isPackageFile path).isFileName bytes).trans ?_
  rw [h.replaceFault?_eq]
  rfl

/-- Compiling a source puts its package in place. -/
theorem compileInto_run_of_some {c : Compiler} {lanes : IdLanes} {bytes : ByteArray}
    (hfolder : start.LeadsTo folder o) (hsame : SameButPackages naming o t start)
    (hpath : isSource path = true)
    (h : deliverable? start naming c folder o path lanes = some bytes) :
    ExceptT.run (compileInto (FileTree.access naming) c folder path lanes) t =
      (.ok (), t.put (o ++ [naming.packageName path]) (.file bytes)) := by
  obtain ⟨hfree, source, hsource, hcompile⟩ := deliverable?_eq_some_iff.1 h
  rw [compileInto, run_bind_of_ok (readSource_run_of_some ((hsame.text?_eq hpath).trans hsource)),
    run_report_bind, hcompile]
  exact (hsame.writePackage_run hfolder path bytes).trans (by rw [hfree])

/-- Compiling a source that has no package to be put in place changes nothing. -/
theorem compileInto_run_of_none {c : Compiler} {lanes : IdLanes}
    (hfolder : start.LeadsTo folder o) (hsame : SameButPackages naming o t start)
    (hpath : isSource path = true) (h : deliverable? start naming c folder o path lanes = none) :
    ∃ f, ExceptT.run (compileInto (FileTree.access naming) c folder path lanes) t =
      (.error f, t) := by
  rw [compileInto]
  cases hsource : start.text? path with
  | none =>
    obtain ⟨fault, hread⟩ := readSource_run_of_none ((hsame.text?_eq hpath).trans hsource)
    exact ⟨_, run_bind_of_error hread⟩
  | some source =>
    rw [run_bind_of_ok (readSource_run_of_some ((hsame.text?_eq hpath).trans hsource)),
      run_report_bind]
    cases hcompile : c.compile source lanes with
    | error e => exact ⟨_, rfl⟩
    | ok bytes =>
      cases hfault : outputFault? start naming folder o path with
      | some fault =>
        exact ⟨_, (hsame.writePackage_run hfolder path bytes).trans (by rw [hfault])⟩
      | none =>
        rw [deliverable?_eq_some_iff.2 ⟨hfault, source, hsource, hcompile⟩] at h
        cases h

/-! ### All of them -/

/-- A source with the number of its run. -/
abbrev Job := String × Nat

/-- What a batch has to do its work with. -/
structure Bench where
  /-- The files at the start. -/
  start : FileTree
  /-- How names are shown. -/
  naming : Naming
  /-- The compiler. -/
  compiler : Compiler
  /-- The path of the folder of packages. -/
  folder : String
  /-- The place of the folder of packages. -/
  place : Place
  /-- The identifiers of each run. -/
  runs : Nat → IdLanes

namespace Bench

variable {b : Bench} {j : Job} {jobs : List Job} {count count' : BatchCount} {t' : FileTree}

/-- The package that a job puts in place, if it does. -/
def deliverable? (b : Bench) (j : Job) : Option ByteArray :=
  CommandLine.deliverable? b.start b.naming b.compiler b.folder b.place j.1 (b.runs j.2)

/-- The place of the package of a source. -/
def output (b : Bench) (path : String) : Place := b.place ++ [b.naming.packageName path]

/-- The place of a package is not the root. -/
theorem output_ne_nil (b : Bench) (path : String) : b.output path ≠ [] := by simp [output]

/-- Packages of the same place have the same name. -/
theorem output_inj {other : String} : b.output path = b.output other ↔
    b.naming.packageName path = b.naming.packageName other := by
  simp [output]

/-- The sources whose jobs put a package in place. -/
def delivered (b : Bench) (jobs : List Job) : List String :=
  (jobs.filter fun j => (b.deliverable? j).isSome).map Prod.fst

/-- The package of a source is delivered when one of its jobs puts it in place. -/
theorem mem_delivered : path ∈ b.delivered jobs ↔
    ∃ n bytes, (path, n) ∈ jobs ∧ b.deliverable? (path, n) = some bytes := by
  simp only [delivered, List.mem_map, List.mem_filter, Option.isSome_iff_exists]
  constructor
  · rintro ⟨⟨_, n⟩, ⟨hj, bytes, hbytes⟩, rfl⟩
    exact ⟨n, bytes, hj, hbytes⟩
  · rintro ⟨n, bytes, hj, hbytes⟩
    exact ⟨(path, n), ⟨hj, bytes, hbytes⟩, rfl⟩

/-- What some jobs did, from one count and tree to another. -/
structure Done (b : Bench) (jobs : List Job) (count count' : BatchCount) (t t' : FileTree) :
    Prop where
  /-- The jobs with a package are counted as successes. -/
  successes : count'.successes = count.successes +
    jobs.countP fun j => (b.deliverable? j).isSome
  /-- The jobs without a package are counted as errors. -/
  errors : count'.errors = count.errors + jobs.countP fun j => ¬(b.deliverable? j).isSome
  /-- The packages are in place. -/
  packages : ∀ j ∈ jobs, ∀ bytes, b.deliverable? j = some bytes →
    t'.node? (b.output j.1) = some (.file bytes)
  /-- Nothing else is changed. -/
  others : ∀ q, (∀ j ∈ jobs, (b.deliverable? j).isSome → q ≠ b.output j.1) →
    t'.node? q = t.node? q

/-- A job without a package is an error more and changes nothing. -/
theorem Done.cons_of_none {f : Failure} (hnone : b.deliverable? j = none)
    (h : b.Done jobs (count.add (.error f)) count' t t') : b.Done (j :: jobs) count count' t t' := by
  constructor
  case successes =>
    rw [List.countP_cons_of_neg (by rw [hnone]; decide)]
    exact h.successes
  case errors =>
    have hadd : (count.add (.error f)).errors = count.errors + 1 := rfl
    rw [List.countP_cons_of_pos (by simp [hnone]), h.errors, hadd]
    omega
  case packages =>
    intro k hk bytes hbytes
    obtain rfl | hk := List.mem_cons.1 hk
    · rw [hnone] at hbytes
      cases hbytes
    · exact h.packages k hk bytes hbytes
  case others =>
    intro q hq
    exact h.others q fun k hk => hq k (List.mem_cons_of_mem _ hk)

/-- A job with a package is a success more and puts it in place, where the jobs behind it leave it
alone if their packages have other names. -/
theorem Done.cons_of_some {bytes : ByteArray} (hsome : b.deliverable? j = some bytes)
    (hfresh : b.naming.packageName j.1 ∉ jobs.map fun k => b.naming.packageName k.1)
    (h : b.Done jobs (count.add (.ok ())) count' (t.put (b.output j.1) (.file bytes)) t') :
    b.Done (j :: jobs) count count' t t' := by
  have hplace := b.output_ne_nil j.1
  constructor
  case successes =>
    have hadd : (count.add (.ok ())).successes = count.successes + 1 := rfl
    rw [List.countP_cons_of_pos (by rw [hsome]; rfl), h.successes, hadd]
    omega
  case errors =>
    rw [List.countP_cons_of_neg (by simp [hsome])]
    exact h.errors
  case packages =>
    intro k hk bytes' hbytes
    obtain rfl | hk := List.mem_cons.1 hk
    · have hothers : ∀ i ∈ jobs, (b.deliverable? i).isSome → b.output k.1 ≠ b.output i.1 := by
        intro i hi _ heq
        exact hfresh (List.mem_map.2 ⟨i, hi, (output_inj.1 heq).symm⟩)
      obtain rfl := Option.some.inj (hsome.symm.trans hbytes)
      rw [h.others _ hothers, FileTree.node?_put t hplace, if_pos rfl]
    · exact h.packages k hk bytes' hbytes
  case others =>
    intro q hq
    have hself : q ≠ b.output j.1 := hq j List.mem_cons_self (by rw [hsome]; rfl)
    rw [h.others q fun k hk => hq k (List.mem_cons_of_mem _ hk), FileTree.node?_put t hplace,
      if_neg hself]

/-- Jobs whose packages have different names put them in place one after the other. -/
theorem compileAll_done (b : Bench) {jobs : List Job} (count : BatchCount)
    (hfolder : b.start.LeadsTo b.folder b.place)
    (hsame : SameButPackages b.naming b.place t b.start)
    (hjobs : ∀ j ∈ jobs, isSource j.1 = true)
    (hnames : (jobs.map fun j => b.naming.packageName j.1).Nodup) :
    ∃ count' t', compileAll (FileTree.access b.naming) b.compiler b.folder b.runs count jobs t =
        (count', t') ∧ b.Done jobs count count' t t' := by
  -- What every job finds is the tree at the start but for packages, which no source is read from.
  induction jobs generalizing count t with
  | nil => exact ⟨count, t, rfl, rfl, rfl, nofun, fun _ _ => rfl⟩
  | cons j jobs ih =>
    obtain ⟨path, n⟩ := j
    obtain ⟨hpath, hjobs⟩ := List.forall_mem_cons.1 hjobs
    obtain ⟨hfresh, hnames⟩ := List.nodup_cons.1 hnames
    have hstep : ∀ result t₁,
        ExceptT.run (compileInto (FileTree.access b.naming) b.compiler b.folder path (b.runs n)) t =
            (result, t₁) →
          compileAll (FileTree.access b.naming) b.compiler b.folder b.runs count
              ((path, n) :: jobs) t =
            compileAll (FileTree.access b.naming) b.compiler b.folder b.runs (count.add result)
              jobs t₁ := by
      intro result t₁ hrun
      rw [compileAll, bind_apply, hrun]
      rfl
    cases hpackage : b.deliverable? (path, n) with
    | none =>
      obtain ⟨f, hrun⟩ := compileInto_run_of_none hfolder hsame hpath hpackage
      obtain ⟨count', t', hall, hdone⟩ := ih (count.add (.error f)) hsame hjobs hnames
      exact ⟨count', t', (hstep _ _ hrun).trans hall, hdone.cons_of_none hpackage⟩
    | some bytes =>
      have hfree := ne_folder_of_outputFault?_eq_none (deliverable?_eq_some_iff.1 hpackage).1
      have hrun := compileInto_run_of_some hfolder hsame hpath hpackage
      obtain ⟨count', t', hall, hdone⟩ :=
        ih (count.add (.ok ())) (hsame.put hfree bytes) hjobs hnames
      exact ⟨count', t', (hstep _ _ hrun).trans hall, hdone.cons_of_some hpackage hfresh⟩

/-- The jobs are counted as successes where they deliver, and as errors where they do not. -/
theorem Done.counts (h : b.Done jobs count count' t t') :
    count'.successes = count.successes + (b.delivered jobs).length ∧
      count'.successes + count'.errors = count.successes + count.errors + jobs.length := by
  have hall := List.length_eq_countP_add_countP (fun j => (b.deliverable? j).isSome) (l := jobs)
  rw [delivered, List.length_map, ← List.countP_eq_length_filter, h.errors, h.successes]
  exact ⟨rfl, by omega⟩

end Bench

/-! ### The whole batch -/

/-- What a batch answers that has found sources and counted them. -/
def batchAnswer (inputFolder : String) (sources : List String) (count : BatchCount) : Answer :=
  if sources = [] then { lines := ["No Markdown files found in " ++ inputFolder] }
  else { count.answer with
    lines := ("Found " ++ toString sources.length ++ " files to compile") :: count.answer.lines }

/-- A batch that finds sources and a template compiles those whose packages have names of their
own. -/
theorem batch_run {tree after : FileTree} {inputFolder template outputFolder : String}
    {names : List String} {bytes : ByteArray} {t : Template} {options : CompileOptions}
    {schedule : List String → List String} {runs : Nat → IdLanes} {count : BatchCount}
    {split : OutputSplit} (hsplit : splitOutputConflicts naming (sourcePaths inputFolder names) = split)
    (hcreated : tree.createFolders outputFolder = .ok start)
    (hlisted : start.listFolder inputFolder = .ok names)
    (hbytes : start.readFile template = .ok bytes) (ht : Template.ofBytes bytes = .ok t)
    (hschedule : ∀ paths, (schedule paths).Perm paths)
    (hall : compileAll (FileTree.access naming) (ofTemplate t options) outputFolder runs
      { errors := split.conflicting } (schedule split.unique).zipIdx start = (count, after)) :
    batch (FileTree.access naming) schedule runs inputFolder template outputFolder options tree =
      (batchAnswer inputFolder (sourcePaths inputFolder names) count, after) := by
  have hcreate : (FileTree.access naming).createFolders outputFolder tree = (.ok (), start) := by
    have haccess : (FileTree.access naming).createFolders outputFolder =
        FileTree.update fun t => t.createFolders outputFolder := rfl
    rw [haccess, FileTree.update_of_ok hcreated]
  have hlist : (FileTree.access naming).listFolder inputFolder start = (.ok names, start) := by
    rw [← hlisted]
    rfl
  have hload : ExceptT.run (loadTemplate (FileTree.access naming) template) start = (.ok t, start) :=
    loadTemplate_run hbytes ht
  have hreport : ∀ o lines, (FileTree.access naming).report o lines start = ((), start) :=
    fun _ _ => rfl
  rw [batch, bind_apply, hcreate]
  dsimp only
  rw [bind_apply, hlist]
  dsimp only
  rw [batchAnswer]
  cases hsources : sourcePaths inputFolder names with
  | nil =>
    have hnone : split = ⟨[], []⟩ := by
      rw [← hsplit, hsources, splitOutputConflicts]
      simp [groupByOutput]
    rw [hnone, (hschedule []).eq_nil] at hall
    obtain rfl : start = after := congrArg Prod.snd hall
    rfl
  | cons path rest =>
    rw [hsources] at hsplit
    rw [if_neg (List.cons_ne_nil _ _)]
    dsimp only
    have hnaming : (FileTree.access naming).naming = naming := rfl
    rw [bind_apply, batchOver, bind_apply, hreport, hnaming, hsplit]
    dsimp only
    rw [bind_apply, hload]
    dsimp only
    rw [bind_apply, hreport, bind_apply, hall]
    rfl

/-- What a batch has done with its sources when it started from one tree and left another. -/
structure Accounts (naming : Naming) (start after : FileTree) (t : Template)
    (options : CompileOptions) (folder : String) (o : Place) (sources written : List String)
    (count : BatchCount) : Prop where
  /-- The sources are divided by the names of their packages. -/
  split : IsSplit naming sources (splitOutputConflicts naming sources)
  /-- The packages of those sources are written that are alone with the name, hold a text that is
  compiled, and whose package the system lets be put in place. -/
  chosen : ∀ path, path ∈ written ↔ path ∈ (splitOutputConflicts naming sources).unique ∧
    outputFault? start naming folder o path = none ∧
      ∃ source, start.text? path = some source ∧
        ∃ lanes out, (ofTemplate t options).DrawsRandom source lanes ∧
          (ofTemplate t options).compile source lanes = .ok out
  /-- No package is written twice. -/
  once : (written.map naming.packageName).Nodup
  /-- A package that is written is the book that the source is always compiled into. -/
  packages : ∀ path ∈ written, ∃ source out, start.text? path = some source ∧
    after.node? (o ++ [naming.packageName path]) = some (.file out) ∧
      ∀ lanes, (ofTemplate t options).DrawsRandom source lanes → SameOutcome t.bytes options.level
        ((ofTemplate t options).compile source lanes) (.ok out)
  /-- At every other place there is what was there. -/
  others : ∀ q, (∀ path ∈ written, q ≠ o ++ [naming.packageName path]) →
    after.node? q = start.node? q
  /-- The packages are counted. -/
  successes : count.successes = written.length
  /-- No source is lost in counting. -/
  total : count.successes + count.errors = sources.length

/-- The jobs over sources that are apart, in any order, have packages of different names. -/
theorem nodup_packageName_jobs {sources paths : List String} (hsources : sources.Nodup)
    (hpaths : paths.Perm (splitOutputConflicts naming sources).unique) :
    (paths.zipIdx.map fun j => naming.packageName j.1).Nodup := by
  have hjobs : (paths.zipIdx.map fun j => naming.packageName j.1) =
      paths.map naming.packageName := by
    conv_rhs => rw [← List.zipIdx_map_fst 0 paths, List.map_map]
    rfl
  rw [hjobs, (hpaths.map naming.packageName).nodup_iff]
  exact (isSplit_splitOutputConflicts hsources).nodup_packageName hsources

/-- A path has a job if it is among those that are worked through. -/
theorem mem_iff_exists_job {paths : List String} :
    path ∈ paths ↔ ∃ n, (path, n) ∈ paths.zipIdx := by
  have hpath : path ∈ paths ↔ path ∈ paths.zipIdx.map Prod.fst := by
    rw [List.zipIdx_map_fst]
  rw [hpath, List.mem_map]
  exact ⟨fun ⟨⟨_, n⟩, hj, heq⟩ => ⟨n, heq ▸ hj⟩, fun ⟨n, hj⟩ => ⟨(path, n), hj, rfl⟩⟩

/-- The jobs of a batch account for its sources. -/
theorem Bench.Done.accounts {b : Bench} {after : FileTree} {t : Template} {options : CompileOptions}
    {sources paths : List String} {count : BatchCount}
    (h : b.Done paths.zipIdx { errors := (splitOutputConflicts b.naming sources).conflicting }
      count b.start after)
    (hcompiler : b.compiler = ofTemplate t options) (hsources : sources.Nodup)
    (hpaths : paths.Perm (splitOutputConflicts b.naming sources).unique)
    (hruns : ∀ path ∈ sources, ∀ source, b.start.text? path = some source →
      ∀ n, (ofTemplate t options).DrawsRandom source (b.runs n)) :
    Accounts b.naming b.start after t options b.folder b.place sources
      (b.delivered paths.zipIdx) count := by
  have hsplit := isSplit_splitOutputConflicts (n := b.naming) hsources
  -- Each job is over one of the sources, and so its run draws random identifiers.
  have hdrawn : ∀ {path : String} {n : Nat}, (path, n) ∈ paths.zipIdx → ∀ source,
      b.start.text? path = some source →
        ∀ n, (ofTemplate t options).DrawsRandom source (b.runs n) := by
    intro path n hj
    exact hruns path (mem_unique.1 (hpaths.mem_iff.1 (mem_iff_exists_job.2 ⟨n, hj⟩))).1
  constructor
  case split => exact hsplit
  case chosen =>
    intro path
    rw [mem_delivered, ← hpaths.mem_iff, mem_iff_exists_job]
    constructor
    · rintro ⟨n, bytes, hj, hbytes⟩
      obtain ⟨hfree, source, hsource, hcompile⟩ := deliverable?_eq_some_iff.1 hbytes
      exact ⟨⟨n, hj⟩, hfree, source, hsource, b.runs n, bytes,
        hdrawn hj source hsource n, hcompiler ▸ hcompile⟩
    · rintro ⟨⟨n, hj⟩, hfree, source, hsource, lanes, out, hl, hcompile⟩
      -- The run of the job draws other identifiers, and compiles the source as well.
      have hagain := compile_again hl (hdrawn hj source hsource n)
      rw [hcompile] at hagain
      obtain ⟨bytes, hbytes, -⟩ := hagain.exists_ok
      exact ⟨n, bytes, hj,
        deliverable?_eq_some_iff.2 ⟨hfree, source, hsource, hcompiler ▸ hbytes⟩⟩
  case once =>
    rw [delivered, List.map_map]
    exact (nodup_packageName_jobs hsources hpaths).sublist (List.filter_sublist.map _)
  case packages =>
    intro path hpath
    obtain ⟨n, bytes, hj, hbytes⟩ := mem_delivered.1 hpath
    obtain ⟨-, source, hsource, hcompile⟩ := deliverable?_eq_some_iff.1 hbytes
    rw [hcompiler] at hcompile
    refine ⟨source, bytes, hsource, h.packages (path, n) hj bytes hbytes, fun lanes hl => ?_⟩
    exact hcompile ▸ compile_again hl (hdrawn hj source hsource n)
  case others =>
    intro q hq
    refine h.others q fun j hj hsome => ?_
    obtain ⟨bytes, hbytes⟩ := Option.isSome_iff_exists.1 hsome
    exact hq j.1 (mem_delivered.2 ⟨j.2, bytes, hj, hbytes⟩)
  case successes => rw [h.counts.1, Nat.zero_add]
  case total =>
    have hapart := hpaths.length_eq
    have hall := hsplit.length_eq
    rw [h.counts.2, List.length_zipIdx]
    dsimp only
    omega

/-- Sources are lost in no count: as many are counted as errors as are not written. -/
theorem Accounts.errors_ne_zero_iff {after : FileTree} {t : Template} {options : CompileOptions}
    {sources written : List String} {count : BatchCount} (hsources : sources.Nodup)
    (h : Accounts naming start after t options folder o sources written count) :
    count.errors ≠ 0 ↔ ∃ path ∈ sources, path ∉ written := by
  have hsubset : written ⊆ sources := by
    intro path hpath
    exact ((h.split.alone path).1 ((h.chosen path).1 hpath).1).1
  have hwritten : written.Nodup := h.once.of_map _
  have htotal := h.total
  rw [h.successes] at htotal
  constructor
  · intro herrors
    by_contra hnone
    have hall : sources ⊆ written := fun path hpath =>
      by_contra fun hlost => hnone ⟨path, hpath, hlost⟩
    have hlength := (List.subperm_of_subset hsources hall).length_le
    omega
  · rintro ⟨path, hpath, hlost⟩ hzero
    have hperm := (List.subperm_of_subset hwritten hsubset).perm_of_length_le (by omega)
    exact hlost (hperm.mem_iff.2 hpath)

/-- The sources of a folder are listed once. -/
theorem nodup_sourcePaths {names : List String} (folder : String) (h : names.Nodup) :
    (sourcePaths folder names).Nodup := by
  rw [sourcePaths, (List.mergeSort_perm _ _).nodup_iff]
  exact (h.map (Text.childPath_injective folder)).filter _

/-- The sources of a folder have the extensions of sources. -/
theorem isSource_of_mem_sourcePaths {folder : String} {names : List String}
    (h : path ∈ sourcePaths folder names) : isSource path = true := by
  rw [sourcePaths, (List.mergeSort_perm _ _).mem_iff] at h
  exact (List.mem_filter.1 h).2

/-- A batch against a template that is accepted, in whatever order it compiles the sources of a
folder and however their names are shown: it accounts for each of them, and it fails exactly when
the package of one is not written. -/
theorem batch_accounts {tree start : FileTree} {inputFolder template outputFolder : String}
    {names : List String} {bytes : ByteArray} {t : Template}
    {schedule : List String → List String} {runs : Nat → IdLanes} (naming : Naming)
    (options : CompileOptions) (hcreated : tree.createFolders outputFolder = .ok start)
    (hlisted : start.listFolder inputFolder = .ok names) (hnames : names.Nodup)
    (hbytes : start.readFile template = .ok bytes) (ht : Template.ofBytes bytes = .ok t)
    (hschedule : ∀ paths, (schedule paths).Perm paths)
    (hruns : ∀ path ∈ sourcePaths inputFolder names, ∀ source, start.text? path = some source →
      ∀ n, (ofTemplate t options).DrawsRandom source (runs n)) :
    tree.AddsFolders start ∧ ∃ o written count after, start.LeadsTo outputFolder o ∧
      batch (FileTree.access naming) schedule runs inputFolder template outputFolder options tree =
        (batchAnswer inputFolder (sourcePaths inputFolder names) count, after) ∧
      Accounts naming start after t options outputFolder o (sourcePaths inputFolder names) written
        count ∧
      ((batchAnswer inputFolder (sourcePaths inputFolder names) count).failure ≠ none ↔
        ∃ path ∈ sourcePaths inputFolder names, path ∉ written) := by
  obtain ⟨hadds, o, hfolder⟩ := FileTree.leadsTo_of_createFolders hcreated
  have hsources := nodup_sourcePaths inputFolder hnames
  generalize hpaths :
    schedule (splitOutputConflicts naming (sourcePaths inputFolder names)).unique = paths
  have hperm : paths.Perm (splitOutputConflicts naming (sourcePaths inputFolder names)).unique := by
    rw [← hpaths]
    exact hschedule _
  have hsource : ∀ j ∈ paths.zipIdx, isSource j.1 = true := by
    intro j hj
    have hpath := hperm.mem_iff.1 (mem_iff_exists_job.2 ⟨j.2, hj⟩)
    exact isSource_of_mem_sourcePaths (mem_unique.1 hpath).1
  obtain ⟨count, after, hall, hdone⟩ := Bench.compileAll_done
    ⟨start, naming, ofTemplate t options, outputFolder, o, runs⟩
    { errors := (splitOutputConflicts naming (sourcePaths inputFolder names)).conflicting }
    hfolder (.refl start) hsource (nodup_packageName_jobs hsources hperm)
  have haccounts := hdone.accounts rfl hsources hperm hruns
  rw [← hpaths] at hall
  refine ⟨hadds, o, _, count, after, hfolder,
    batch_run rfl hcreated hlisted hbytes ht hschedule hall, haccounts, ?_⟩
  rw [← haccounts.errors_ne_zero_iff hsources]
  have htotal := haccounts.total
  rw [batchAnswer]
  split
  · next hnone =>
    rw [hnone, List.length_nil] at htotal
    have hzero : count.errors = 0 := by omega
    simp [hzero]
  · rw [BatchCount.answer]
    by_cases hzero : count.errors = 0 <;> simp [hzero]

/-- A folder with three sources, of which two would write the same package, next to a template. -/
def shelf (template : ByteArray) : FileTree where
  nodes := [(["in"], .folder), (["in", "a.md"], .file (Text.bytesOf "# A")),
    (["in", "b.md"], .file (Text.bytesOf "# B")), (["in", "b.txt"], .file (Text.bytesOf "# C")),
    (["plain.h5p"], .file template)]

/-- A batch over the folder, from the last source to the first, accounts for the three sources. -/
theorem shelf_accounted : ∃ template t, Template.ofBytes template = .ok t ∧
    (shelf template).createFolders "out" = .ok ((shelf template).put ["out"] .folder) ∧
    ((shelf template).put ["out"] .folder).listFolder "in" = .ok ["a.md", "b.md", "b.txt"] ∧
    ["a.md", "b.md", "b.txt"].Nodup ∧
    ((shelf template).put ["out"] .folder).readFile "plain.h5p" = .ok template ∧
    (∀ paths : List String, paths.reverse.Perm paths) ∧
    (∀ source n, (ofTemplate t {}).DrawsRandom source (.ofSeed n)) ∧
    sourcePaths "in" ["a.md", "b.md", "b.txt"] = ["in/a.md", "in/b.md", "in/b.txt"] ∧
    ∃ o written count after, ((shelf template).put ["out"] .folder).LeadsTo "out" o ∧
      batch FileTree.access List.reverse IdLanes.ofSeed "in" "plain.h5p" "out" {} (shelf template) =
        (batchAnswer "in" ["in/a.md", "in/b.md", "in/b.txt"] count, after) ∧
      Accounts {} ((shelf template).put ["out"] .folder) after t {} "out" o
        ["in/a.md", "in/b.md", "in/b.txt"] written count ∧
      (batchAnswer "in" ["in/a.md", "in/b.md", "in/b.txt"] count).failure ≠ none := by
  obtain ⟨-, template, -, -, ht, -⟩ := bookCopy_compiled
  have hcreated : (shelf template).createFolders "out" =
      .ok ((shelf template).put ["out"] .folder) := rfl
  have hlisted : ((shelf template).put ["out"] .folder).listFolder "in" =
      .ok ["a.md", "b.md", "b.txt"] := rfl
  have hbytes : ((shelf template).put ["out"] .folder).readFile "plain.h5p" = .ok template := rfl
  have hfound : (["a.md", "b.md", "b.txt"].map (Text.childPath "in")).filter isSource =
      ["in/a.md", "in/b.md", "in/b.txt"] := by decide +kernel
  have hsources : sourcePaths "in" ["a.md", "b.md", "b.txt"] =
      ["in/a.md", "in/b.md", "in/b.txt"] := by
    rw [sourcePaths, hfound]
    exact List.mergeSort_of_pairwise (by decide +kernel)
  have hschedule : ∀ paths : List String, paths.reverse.Perm paths := fun paths =>
    paths.reverse_perm
  have hrandom : ∀ source n, (ofTemplate (bookTemplate template) {}).DrawsRandom source
      (.ofSeed n) := fun source n => drawsRandom_of_random (IdLanes.ofSeed_random n) _ source
  obtain ⟨-, o, written, count, after, hfolder, hrun, haccounts, hfails⟩ :=
    batch_accounts {} {} hcreated hlisted (by decide) hbytes ht hschedule
      fun _ _ source _ n => hrandom source n
  rw [hsources] at hrun haccounts hfails
  have hshared : "in/b.md" ∉ written := by
    intro hwritten
    have hunique := mem_unique.1 ((haccounts.chosen _).1 hwritten).1
    have htwo : (named {} ["in/a.md", "in/b.md", "in/b.txt"]
        (Naming.packageName {} "in/b.md")).length = 2 := by decide +kernel
    omega
  exact ⟨template, _, ht, hcreated, hlisted, by decide, hbytes, hschedule,
    hrandom, hsources, o, written, count, after, hfolder, hrun, haccounts,
    hfails.2 ⟨"in/b.md", by simp, hshared⟩⟩

/-- A folder with one source next to a template, and a folder that has the name of the package of
the source. -/
def blockedShelf (template : ByteArray) : FileTree where
  nodes := [(["in"], .folder), (["in", "a.md"], .file (Text.bytesOf "# A")), (["out"], .folder),
    (["out", "a.h5p"], .folder), (["plain.h5p"], .file template)]

/-- The source is alone with the name of its package, holds a text and is compiled, and yet its
package is not written. -/
theorem blockedShelf_unwritten : ∃ template t out count after,
    Template.ofBytes template = .ok t ∧
    (splitOutputConflicts {} ["in/a.md"]).unique = ["in/a.md"] ∧
    (blockedShelf template).text? "in/a.md" = some "# A" ∧
    (ofTemplate t {}).compile "# A" (.ofSeed 0) = .ok out ∧
    batch FileTree.access id IdLanes.ofSeed "in" "plain.h5p" "out" {} (blockedShelf template) =
      (batchAnswer "in" ["in/a.md"] count, after) ∧
    count.successes = 0 ∧ count.errors = 1 ∧
    (∀ q, after.node? q = (blockedShelf template).node? q) ∧
      after.node? ["out", Naming.packageName {} "in/a.md"] = some .folder := by
  obtain ⟨-, template, out, -, ht, hcompile, -⟩ := bookCopy_compiled
  have hgroups : groupByOutput {} ["in/a.md"] = [("a.h5p", ["in/a.md"])] := by decide +kernel
  have hsplit : splitOutputConflicts {} ["in/a.md"] = ⟨["in/a.md"], []⟩ := by
    rw [splitOutputConflicts, hgroups]
    exact congrArg (OutputSplit.mk · []) (List.mergeSort_singleton _)
  have hfound : (["a.md"].map (Text.childPath "in")).filter isSource = ["in/a.md"] := by
    decide +kernel
  have hsources : sourcePaths "in" ["a.md"] = ["in/a.md"] := by
    rw [sourcePaths, hfound]
    exact List.mergeSort_singleton _
  have hname : Naming.packageName {} "in/a.md" = "a.h5p" := by decide +kernel
  have hread : (blockedShelf template).readFile "in/a.md" = .ok (Text.bytesOf "# A") := rfl
  have htext : (blockedShelf template).text? "in/a.md" = some "# A" := by
    rw [FileTree.text?, hread]
    dsimp only
    rw [decodeUtf8_bytesOf]
    rfl
  have hfolder : (blockedShelf template).LeadsTo "out" ["out"] := ⟨rfl, rfl⟩
  have hblocked : (blockedShelf template).node? ["out", Naming.packageName {} "in/a.md"] =
      some .folder := by
    rw [hname]
    rfl
  have hjobs : ∀ j ∈ [(("in/a.md", 0) : Job)], isSource j.1 = true := by decide +kernel
  let b : Bench := ⟨blockedShelf template, {}, ofTemplate (bookTemplate template) {}, "out", ["out"],
    IdLanes.ofSeed⟩
  obtain ⟨count, after, hall, hdone⟩ := b.compileAll_done {} hfolder (.refl _) hjobs (by simp)
  have hnone : b.deliverable? ("in/a.md", 0) = none := deliverable?_eq_none fun hfree =>
    ne_folder_of_outputFault?_eq_none hfree hblocked
  have hrun : batch FileTree.access id IdLanes.ofSeed "in" "plain.h5p" "out" {}
      (blockedShelf template) = (batchAnswer "in" (sourcePaths "in" ["a.md"]) count, after) := by
    have hcreated : (blockedShelf template).createFolders "out" = .ok (blockedShelf template) := rfl
    have hlisted : (blockedShelf template).listFolder "in" = .ok ["a.md"] := rfl
    have hbytes : (blockedShelf template).readFile "plain.h5p" = .ok template := rfl
    have hfound : splitOutputConflicts {} (sourcePaths "in" ["a.md"]) = ⟨["in/a.md"], []⟩ := by
      rw [hsources, hsplit]
    exact batch_run hfound hcreated hlisted hbytes ht (fun paths => .refl paths) hall
  rw [hsources] at hrun
  have hsame : ∀ q, after.node? q = (blockedShelf template).node? q := by
    refine fun q => hdone.others q fun j hj hsome => ?_
    obtain rfl := List.mem_singleton.1 hj
    rw [hnone] at hsome
    cases hsome
  refine ⟨template, _, out, count, after, ht, by rw [hsplit], htext, hcompile, hrun, ?_, ?_, hsame,
    ?_⟩
  · rw [hdone.successes]
    simp [hnone]
  · rw [hdone.errors]
    simp [hnone]
  · rw [hsame, hblocked]

end InteractiveBook.CommandLine
