import InteractiveBook.Proofs.CommandLine.Build
import InteractiveBook.Proofs.Service.Compile

/-!
# One book by three ways

A source is compiled by the library, by the program that is given files, and by the service that is
sent a form. All three read the source and the template on their own and call the same compilation.
So they fail together and for the same reason, or they give packages of the same book; the program
alone has to put its package in place, which the file system may refuse.
-/

namespace InteractiveBook

open CommandLine Content Package Service

/-- How the program and the service end when the library refuses to compile. -/
structure RefusedAlike (e : BookError) (input path : String) (tree : FileTree)
    (shown : Outcome × FileTree) (response : Response) : Prop where
  /-- The program fails with the error, and the files are left as they were. -/
  program : shown = (Answer.outcome { failure := some (buildFailure input path e) }, tree)
  /-- The causes that the program names are those of the error. -/
  causes : (buildFailure input path e).causes = [e.message, e.cause]
  /-- The service answers with the error. -/
  service : response = (Refusal.failed e).response
  /-- What was sent is at fault exactly where the source or the template is. -/
  unprocessable : response.status = 422 ↔ e = .noChaptersFound ∨ ∃ fault, e = .template fault
  /-- The service is at fault exactly where the package is. -/
  internal : response.status = 500 ↔ ∃ fault, e = .package fault

/-- How the program and the service end when the library gives a package: with packages of the same
book. The program puts its package at a place, unless the file system refuses. -/
structure CompiledAlike (template out : ByteArray) (input : String) (place : Place)
    (tree : FileTree) (shown : Outcome × FileTree) (response : Response) : Prop where
  /-- The program puts a package of the book at the place and changes nothing else. -/
  program : tree.replaceFault? (packagePath input) place = none →
    ∃ out', SameBook template defaultLevel out out' ∧ shown = ({}, tree.put place (.file out'))
  /-- Where the file system refuses that, the program says so, and the files are left as they were. -/
  blocked : ∀ fault, tree.replaceFault? (packagePath input) place = some fault →
    shown = (Answer.outcome { failure := some (writeFailure (packagePath input) fault) }, tree)
  /-- The service sends a package of the book. -/
  service : ∃ out' name, SameBook template defaultLevel out out' ∧
    response = { status := 200, payload := .package out' name }

/-- The failures of a compilation have the statuses of their groups. -/
theorem refusedAlike {e : BookError} {input path : String} {tree : FileTree}
    (h : e = .noChaptersFound ∨ (∃ fault, e = .template fault) ∨ ∃ fault, e = .package fault) :
    RefusedAlike e input path tree
      (Answer.outcome { failure := some (buildFailure input path e) }, tree)
      (Refusal.failed e).response := by
  have hstatus : ∀ e, (Refusal.failed e).response.status = failureStatus e := fun _ => rfl
  refine ⟨rfl, causes_buildFailure input path e, rfl, ?_, ?_⟩
  all_goals
    rw [hstatus]
    obtain rfl | ⟨fault, rfl⟩ | ⟨fault, rfl⟩ := h <;> simp [failureStatus]

/-- The library, the program and the service agree on every source and template, whichever
identifiers they draw: they fail for the same reason, or they give packages of the same book. What
they are given is a text and bytes, two files that hold them, and a request with both of them, or
one with the source alone where the template is the default one. The program may be called in any
way that asks for a build in the usual manner, as naming the two files does. -/
theorem frontEnds_agree (runs : Nat → IdLanes) {source input path : String}
    {data template : ByteArray} {tree : FileTree} {naming : Naming} {s : Settings} {r : Request}
    {lanes lanes' : IdLanes}
    (hinput : tree.readFile input = .ok data) (hsource : Text.decodeUtf8 data = .ok source)
    (htemplate : tree.readFile path = .ok template) (hserves : Serves s r source template)
    (hoptions : s.options = {}) (hl : DrawsRandom {} source template lanes)
    (hl' : DrawsRandom {} source template lanes')
    (hruns : DrawsRandom {} source template (runs 0)) (schedule : List String → List String) :
    (input.toList.head? ≠ some '-' → path.toList.head? ≠ some '-' →
      Command.ofArguments ["build", input, "--template", path] =
        .ok (.build input path none {})) ∧
    ∃ place, tree.place? (packagePath input) = .ok place ∧
      ∀ arguments, Command.ofArguments arguments = .ok (.build input path none {}) →
        match compileBook source template lanes with
        | .error e => RefusedAlike e input path tree
            (run (FileTree.access naming) schedule runs arguments tree) (respond s lanes' r)
        | .ok out => CompiledAlike template out input place tree
            (run (FileTree.access naming) schedule runs arguments tree) (respond s lanes' r) := by
  obtain ⟨folder, -, hfolder, -, -, -⟩ := FileTree.exists_leadsTo_of_readFile hinput
  have hplace := hfolder.place?_childPath (isFileName_packageName input)
  refine ⟨ofArguments_build, _, hplace, fun arguments harguments => ?_⟩
  have hprogram := run_of_build naming harguments hinput hsource htemplate hfolder schedule runs
  obtain ⟨name, hservice⟩ := respond_eq lanes' hserves
  rw [hoptions] at hservice
  rw [hprogram, hservice]
  -- The program and the service compile with identifiers of their own.
  have hfirst := compileWith_again hl hruns
  have hsecond := compileWith_again hl hl'
  rw [compileBook]
  cases hcompile : compileWith {} source template lanes with
  | error e =>
    rw [hcompile] at hfirst hsecond
    rw [hfirst.eq_error, hsecond.eq_error]
    exact refusedAlike (compileWith_failure hcompile)
  | ok out =>
    rw [hcompile] at hfirst hsecond
    obtain ⟨out₁, hout₁, hsame₁⟩ := hfirst.exists_ok
    obtain ⟨out₂, hout₂, hsame₂⟩ := hsecond.exists_ok
    rw [hout₁, hout₂, buildOutcome]
    refine ⟨fun hfree => ⟨out₁, hsame₁, ?_⟩, fun fault hfault => ?_, out₂, name, hsame₂, rfl⟩
    · rw [hfree]
    · rw [hfault]

/-- A folder with a source and a template. -/
def headingFolder (template : ByteArray) : FileTree where
  nodes := [(["book.md"], .file (Text.bytesOf "# A")), (["plain.h5p"], .file template)]

/-- A request to compile the source against the default template. -/
def headingRequest : Request :=
  { method := "POST"
    path := "/api/v1/compile"
    form := some [⟨"source", none, Text.bytesOf "# A"⟩] }

/-- A heading is compiled by the library; the program puts its package next to the source, and the
service, whose default template it is compiled against, sends one. -/
theorem headingFolder_built : ∃ template t out, Template.ofBytes template = .ok t ∧
    (headingFolder template).readFile "book.md" = .ok (Text.bytesOf "# A") ∧
    Text.decodeUtf8 (Text.bytesOf "# A") = .ok "# A" ∧
    (headingFolder template).readFile "plain.h5p" = .ok template ∧
    Serves { defaultTemplate := some t } headingRequest "# A" template ∧
    (∀ seed, DrawsRandom {} "# A" template (.ofSeed seed)) ∧
    compileBook "# A" template (.ofSeed 0) = .ok out ∧
    CompiledAlike template out "book.md" ["book.h5p"] (headingFolder template)
      (run FileTree.access id (fun _ => .ofSeed 1) ["build", "book.md", "--template", "plain.h5p"]
        (headingFolder template))
      (respond { defaultTemplate := some t } (.ofSeed 2) headingRequest) := by
  obtain ⟨-, template, out, -, ht, hcompile, -⟩ := Compiler.bookCopy_compiled
  have hsource := decodeUtf8_bytesOf "# A"
  have hinput : (headingFolder template).readFile "book.md" = .ok (Text.bytesOf "# A") := rfl
  have htemplate : (headingFolder template).readFile "plain.h5p" = .ok template := rfl
  have hserves : Serves { defaultTemplate := some (Compiler.bookTemplate template) } headingRequest
      "# A" template :=
    .inr ⟨⟨rfl, rfl, _, _, rfl, rfl, hsource, rfl⟩, _, rfl, ht⟩
  have hbook : compileBook "# A" template (.ofSeed 0) = .ok out := by
    rw [compileBook, compileWith_of_accepted ht, hcompile]
  have hrandom : ∀ seed, DrawsRandom {} "# A" template (.ofSeed seed) := fun seed t _ =>
    Compiler.drawsRandom_of_random (IdLanes.ofSeed_random seed) (.ofTemplate t {}) "# A"
  obtain ⟨hparse, place, hplace, hagree⟩ := frontEnds_agree (fun _ => .ofSeed 1) hinput hsource
    htemplate hserves rfl (hrandom 0) (hrandom 2) (hrandom 1) id
  replace hagree := hagree _ (hparse (by decide) (by decide))
  have hpath : packagePath "book.md" = "book.h5p" := by decide
  have hknown : (headingFolder template).place? (packagePath "book.md") = .ok ["book.h5p"] := by
    rw [hpath]
    rfl
  obtain rfl := Except.ok.inj (hplace.symm.trans hknown)
  rw [hbook] at hagree
  exact ⟨template, _, out, ht, hinput, hsource, htemplate, hserves, hrandom, hbook, hagree⟩

/-- A folder with a source, and with a template in a folder that has the name of a package. -/
def blockedFolder (template : ByteArray) : FileTree where
  nodes := [(["book.md"], .file (Text.bytesOf "# A")), (["book.h5p"], .folder),
    (["book.h5p", "plain.h5p"], .file template)]

/-- The library compiles the source against the template, and the program does not put the package
in the place of the folder. -/
theorem blockedFolder_unbuilt : ∃ template out,
    (blockedFolder template).readFile "book.md" = .ok (Text.bytesOf "# A") ∧
    Text.decodeUtf8 (Text.bytesOf "# A") = .ok "# A" ∧
    (blockedFolder template).readFile "book.h5p/plain.h5p" = .ok template ∧
    compileBook "# A" template (.ofSeed 0) = .ok out ∧
    run FileTree.access id (fun _ => .ofSeed 0)
      ["build", "book.md", "--template", "book.h5p/plain.h5p"] (blockedFolder template) =
        (Answer.outcome { failure := some (.output "book.h5p" .isFolder) },
          blockedFolder template) := by
  obtain ⟨-, template, out, -, ht, hcompile, -⟩ := Compiler.bookCopy_compiled
  have hsource := decodeUtf8_bytesOf "# A"
  have hinput : (blockedFolder template).readFile "book.md" = .ok (Text.bytesOf "# A") := rfl
  have htemplate : (blockedFolder template).readFile "book.h5p/plain.h5p" = .ok template := rfl
  have hbook : compileBook "# A" template (.ofSeed 0) = .ok out := by
    rw [compileBook, compileWith_of_accepted ht, hcompile]
  have hfolder : (blockedFolder template).LeadsTo (Text.parentPath "book.md") [] := ⟨rfl, rfl⟩
  have hrun := run_of_build {} (ofArguments_build (by decide) (by decide)) hinput hsource htemplate
    hfolder id fun _ => .ofSeed 0
  have hbuilt : compileWith {} "# A" template (.ofSeed 0) = .ok out := hbook
  rw [hbuilt] at hrun
  have hname : packageName "book.md" = "book.h5p" := by decide
  have hpath : packagePath "book.md" = "book.h5p" := by decide
  rw [hname, buildOutcome, hpath] at hrun
  exact ⟨template, out, hinput, hsource, htemplate, hbook, hrun⟩

end InteractiveBook
