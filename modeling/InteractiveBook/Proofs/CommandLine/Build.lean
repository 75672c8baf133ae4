import InteractiveBook.CommandLine.Run
import InteractiveBook.Proofs.CommandLine.Place
import InteractiveBook.Proofs.SameBook

/-!
# What a build leaves behind

A build reads a template and a source, compiles, and puts the package next to the source. The tree
of files is the same afterwards when anything fails, and otherwise it has the package at one place.
-/

namespace InteractiveBook.CommandLine

open Compiler Content Package

variable {naming : Naming} {tree : FileTree} {p : Place}

/-- How a build fails that does not get as far as a package: the failure tells a template that is
refused from a source that is not compiled. -/
def buildFailure (input path : String) : BookError → Failure
  | .template fault => .template path (.template fault)
  | e => .compile input e

/-- Whatever a build says that it could not do, its causes are those of the error. -/
theorem causes_buildFailure (input path : String) (e : BookError) :
    (buildFailure input path e).causes = [e.message, e.cause] := by
  cases e <;> rfl

/-- What a build prints and leaves behind when the compilation came to an end: with a package that
is to be put at a place, unless the system refuses or a folder stands there. -/
def buildOutcome (tree : FileTree) (input path : String) (place : Place) :
    Except BookError ByteArray → Outcome × FileTree
  | .error e => (Answer.outcome { failure := some (buildFailure input path e) }, tree)
  | .ok bytes => match tree.replaceFault? (packagePath input) place with
    | some fault => (Answer.outcome { failure := some (writeFailure (packagePath input) fault) }, tree)
    | none => ({}, tree.put place (.file bytes))

/-- A template that is refused is not loaded. -/
theorem loadTemplate_run_of_refused {path : String} {data : ByteArray} {fault : TemplateFault}
    (hdata : tree.readFile path = .ok data) (ht : Template.ofBytes data = .error fault) :
    ExceptT.run (loadTemplate (FileTree.access naming) path) tree =
      (.error (.template path (.template fault)), tree) := by
  have hread : (FileTree.access naming).readFile path tree = (.ok data, tree) := by
    rw [← hdata]
    rfl
  rw [loadTemplate, run_lift_bind, hread]
  simp only [ht]
  rfl

/-- Two steps are run one after the other. -/
theorem bind_apply {σ α β : Type} (d : StateM σ α) (f : α → StateM σ β) (s : σ) :
    (d >>= f) s = f (d s).1 (d s).2 := rfl

/-- A step that fails is not followed by the next one. -/
theorem run_bind_of_error {ε σ α β : Type} {d : ExceptT ε (StateM σ) α}
    {f : α → ExceptT ε (StateM σ) β} {s s' : σ} {e : ε} (h : ExceptT.run d s = (.error e, s')) :
    ExceptT.run (d >>= f) s = (.error e, s') := by
  have hbind : ExceptT.run (d >>= f) s =
      ExceptT.bindCont f (ExceptT.run d s).1 (ExceptT.run d s).2 := rfl
  rw [hbind, h]
  rfl

/-- An operation that succeeds changes the tree. -/
theorem FileTree.update_of_ok {ε : Type} {f : FileTree → Except ε FileTree} {new : FileTree}
    (h : f tree = .ok new) : FileTree.update f tree = (.ok (), new) := by
  rw [update, h]

/-- An operation that fails leaves the tree as it was. -/
theorem FileTree.update_of_error {ε : Type} {f : FileTree → Except ε FileTree} {fault : ε}
    (h : f tree = .error fault) : FileTree.update f tree = (.error fault, tree) := by
  rw [update, h]

/-- Access to a tree puts a file in place where the tree does. -/
theorem FileTree.replaceFile_access_of_ok {new : FileTree} {folder path : String}
    {data : ByteArray} (h : tree.replaceFile folder path data = .ok new) :
    (access naming).replaceFile folder path data tree = (.ok (), new) :=
  update_of_ok (f := fun t => t.replaceFile folder path data) h

/-- Access to a tree leaves it as it was where a file cannot be put in place. -/
theorem FileTree.replaceFile_access_of_error {fault : ReplaceFault} {folder path : String}
    {data : ByteArray} (h : tree.replaceFile folder path data = .error fault) :
    (access naming).replaceFile folder path data tree = (.error fault, tree) :=
  update_of_error (f := fun t => t.replaceFile folder path data) h

/-- A package is put in a folder that a path leads to, unless the system refuses or a folder stands
at its place. -/
theorem writePackage_run {folder name : String} (h : tree.LeadsTo folder p)
    (hname : Text.IsFileName name.toList) (bytes : ByteArray) :
    ExceptT.run (writePackage (FileTree.access naming) (Text.childPath folder name) bytes) tree =
      match tree.replaceFault? (Text.childPath folder name) (p ++ [name]) with
      | some fault => (.error (writeFailure (Text.childPath folder name) fault), tree)
      | none => (.ok (), tree.put (p ++ [name]) (.file bytes)) := by
  have hreplace := h.replaceFile_childPath hname bytes
  rw [writePackage, run_lift_bind]
  cases hfault : tree.replaceFault? (Text.childPath folder name) (p ++ [name]) with
  | some fault =>
    rw [hfault] at hreplace
    rw [FileTree.replaceFile_access_of_error hreplace]
    rfl
  | none =>
    rw [hfault] at hreplace
    rw [FileTree.replaceFile_access_of_ok hreplace]
    rfl

/-- A build ends as the compilation of the source against the template does, and then puts the
package in the folder of the source. -/
theorem build_run (naming : Naming) {input path source : String} {data template : ByteArray}
    (hinput : tree.readFile input = .ok data) (hsource : Text.decodeUtf8 data = .ok source)
    (htemplate : tree.readFile path = .ok template)
    (hfolder : tree.LeadsTo (Text.parentPath input) p) (options : CompileOptions)
    (lanes : IdLanes) :
    ExceptT.run (build (FileTree.access naming) input path none options lanes) tree =
      match compileWith options source template lanes with
      | .error e => (.error (buildFailure input path e), tree)
      | .ok bytes => match tree.replaceFault? (packagePath input) (p ++ [packageName input]) with
        | some fault => (.error (writeFailure (packagePath input) fault), tree)
        | none => (.ok (), tree.put (p ++ [packageName input]) (.file bytes)) := by
  rw [build]
  cases ht : Template.ofBytes template with
  | error fault =>
    rw [run_bind_of_error (loadTemplate_run_of_refused htemplate ht), compileWith_of_refused ht]
    rfl
  | ok t =>
    rw [run_bind_of_ok (loadTemplate_run htemplate ht), run_report_bind, run_report_bind,
      run_bind_of_ok (readSource_run hinput hsource), run_report_bind, compileWith_of_accepted ht]
    cases hcompile : (ofTemplate t options).compile source lanes with
    | error e => obtain rfl | ⟨fault, rfl⟩ := compile_failure hcompile <;> rfl
    | ok bytes => exact writePackage_run hfolder (isFileName_packageName input) bytes

/-- Access to a tree is the same whatever is to be shown of the log, since nothing is reported. -/
theorem showing_access (verbose : Bool) :
    (FileTree.access naming).showing verbose = FileTree.access naming := rfl

/-- The program that is asked to build a source prints and leaves behind what the compilation
decides. -/
theorem run_of_build (naming : Naming) {input path source : String} {data template : ByteArray}
    {arguments : List String} {options : CompileOptions}
    (harguments : Command.ofArguments arguments = .ok (.build input path none options))
    (hinput : tree.readFile input = .ok data) (hsource : Text.decodeUtf8 data = .ok source)
    (htemplate : tree.readFile path = .ok template)
    (hfolder : tree.LeadsTo (Text.parentPath input) p) (schedule : List String → List String)
    (runs : Nat → IdLanes) :
    run (FileTree.access naming) schedule runs arguments tree =
      buildOutcome tree input path (p ++ [packageName input])
        (compileWith options source template (runs 0)) := by
  obtain ⟨call, hcall, hcommand⟩ : ∃ call, Call.ofArguments arguments = .ok call ∧
      call.command = .build input path none options := by
    rw [Command.ofArguments] at harguments
    cases hcall : Call.ofArguments arguments with
    | error stop =>
      rw [hcall] at harguments
      cases harguments
    | ok call =>
      rw [hcall] at harguments
      exact ⟨call, rfl, Except.ok.inj harguments⟩
  -- The answer of the command is made from the result of the build.
  have hanswer : ∀ r after,
      ExceptT.run (build (FileTree.access naming) input path none options (runs 0)) tree =
          (r, after) →
        run (FileTree.access naming) schedule runs arguments tree =
          (Answer.outcome (.ofResult (r.map fun _ => [])), after) := by
    intro r after hbuild
    rw [run, hcall]
    dsimp only
    rw [hcommand, showing_access]
    dsimp only [Command.run, Functor.map, StateT.map, ExceptT.map, ExceptT.mk, ExceptT.run, bind,
      StateT.bind] at hbuild ⊢
    rw [hbuild]
    cases r <;> rfl
  have hbuild := build_run naming hinput hsource htemplate hfolder options (runs 0)
  cases hcompile : compileWith options source template (runs 0) with
  | error e =>
    rw [hcompile] at hbuild
    exact hanswer _ _ hbuild
  | ok bytes =>
    rw [hcompile] at hbuild
    dsimp only at hbuild
    rw [buildOutcome]
    cases hfault : tree.replaceFault? (packagePath input) (p ++ [packageName input]) with
    | some fault =>
      rw [hfault] at hbuild
      exact hanswer _ _ hbuild
    | none =>
      rw [hfault] at hbuild
      exact hanswer _ _ hbuild

/-- An argument that does not begin with a hyphen is a value: that of the last option if that lacks
one, or else one by position. -/
theorem Arguments.next_of_value {specs : List OptionSpec} {most : Nat} {a : Arguments}
    {argument : String} (hvalue : argument.toList.head? ≠ some '-') (ha : a.trailing = false) :
    a.next specs most argument = match a.pending with
      | some (o, none) => .ok { a with pending := some (o, some argument) }
      | _ => a.givePositional most argument := by
  rw [next, ha, if_neg (by decide)]
  split
  · next heq => exact absurd (congrArg List.head? heq) hvalue
  · next heq => exact absurd (congrArg List.head? heq) hvalue
  · next heq => exact absurd (congrArg List.head? heq) hvalue
  · rfl

/-- The arguments that name a source and a template, and nothing else, ask for a build in the usual
way. -/
theorem ofArguments_build {input path : String} (hinput : input.toList.head? ≠ some '-')
    (hpath : path.toList.head? ≠ some '-') :
    Command.ofArguments ["build", input, "--template", path] =
      .ok (.build input path none {}) := by
  -- The source, the name of the option and its value are taken one after the other.
  have hsource : Arguments.next Command.buildOptions 1 {} input =
      .ok { positional := [input] } := by
    rw [Arguments.next_of_value hinput rfl]
    rfl
  have hoption : Arguments.next Command.buildOptions 1 { positional := [input] } "--template" =
      .ok { positional := [input], pending := some (Command.templateOption true, none) } := rfl
  have htemplate : Arguments.next Command.buildOptions 1
      { positional := [input], pending := some (Command.templateOption true, none) } path =
        .ok { positional := [input],
              pending := some (Command.templateOption true, some path) } := by
    rw [Arguments.next_of_value hpath rfl]
  have hread : Arguments.read Command.buildOptions ["INPUT"] [input, "--template", path] =
      .ok { positional := [input], options := [("template", path)] } := by
    rw [Arguments.read, List.foldlM_cons, List.length_singleton, hsource]
    simp only [List.foldlM_cons, List.foldlM_nil, bind, Except.bind, hoption, htemplate]
    rfl
  have hbuild : Command.ofArguments ["build", input, "--template", path] =
      (Command.ofNamed false "build" [input, "--template", path]).map (·.command) := rfl
  rw [hbuild, Command.ofNamed, hread]
  rfl

end InteractiveBook.CommandLine
