import InteractiveBook.Proofs.Service.Compile
import InteractiveBook.Proofs.Text.Path
import InteractiveBook.Proofs.Text.Trimming

/-!
# The name under which a package is saved

When the service sends a package, it names the file in a header. The name has only characters that
mean nothing there and at most a hundred of them. It is cut to that length with its extension, so
that it ends in the extension exactly when the name of the source without its own one is short
enough, or when what is kept of a long name happens to end in the extension.
-/

namespace InteractiveBook.Service

open Content Package Text

/-- A character that may stand in a name under which a package is saved: a letter or number of any
script, a blank, a hyphen, an underscore or a point. -/
def IsNameChar (c : Char) : Prop :=
  isAlphanumeric c = true ∨ c = ' ' ∨ c = '-' ∨ c = '_' ∨ c = '.'

instance : DecidablePred IsNameChar := fun c =>
  inferInstanceAs (Decidable (isAlphanumeric c = true ∨ c = ' ' ∨ c = '-' ∨ c = '_' ∨ c = '.'))

/-- What is kept of the characters of a name. -/
def nameChars (cs : List Char) : List Char := cs.filter fun c => IsNameChar c

/-- The name is cut, then cleaned, then trimmed. -/
theorem toList_safeFileName (name : String) :
    (safeFileName name).toList = trimChars (nameChars (name.toList.take 100)) := by
  rw [safeFileName, String.toList_ofList, nameChars, longestFileName]
  refine congrArg trimChars (List.filter_congr fun c _ => ?_)
  rw [Bool.eq_iff_iff, decide_eq_true_iff]
  simp only [IsNameChar, Bool.or_eq_true, beq_iff_eq, or_assoc]

/-- Only characters that may stand in a name are left. -/
theorem isNameChar_of_mem_safeFileName {name : String} {c : Char}
    (h : c ∈ (safeFileName name).toList) : IsNameChar c := by
  rw [toList_safeFileName] at h
  simpa using (List.mem_filter.1 ((trimChars_sublist _).subset h)).2

/-- At most a hundred characters are left. -/
theorem length_safeFileName_le (name : String) : (safeFileName name).length ≤ 100 := by
  rw [← String.length_toList, toList_safeFileName]
  calc (trimChars (nameChars (name.toList.take 100))).length
      ≤ (nameChars (name.toList.take 100)).length := (trimChars_sublist _).length_le
    _ ≤ (name.toList.take 100).length := List.length_filter_le _ _
    _ ≤ 100 := List.length_take_le _ _

/-- The ending of names of packages. -/
def packageEnding : List Char := ['.', 'h', '5', 'p']

/-- The ending is kept, also where it is cut. -/
theorem nameChars_take_packageEnding (k : Nat) :
    nameChars (packageEnding.take k) = packageEnding.take k := by
  have hkept : ∀ c ∈ packageEnding, IsNameChar c := by
    simp [packageEnding, IsNameChar, isAlphanumeric]
  exact List.filter_eq_self.2 fun c hc => decide_eq_true (hkept c (List.mem_of_mem_take hc))

/-- An ending that is cut is none. -/
theorem not_ending_of_lt {front back cs : List Char} {k : Nat} (hpos : 0 < k) (hk : k < 4)
    (hback : ∀ c ∈ back, isWhiteSpace c = true) :
    cs ++ packageEnding.take k ≠ front ++ packageEnding ++ back := by
  intro h
  have hcut : ∃ c, (packageEnding.take k).getLast? = some c ∧ isWhiteSpace c = false ∧ c ≠ 'p' := by
    obtain rfl | rfl | rfl : k = 1 ∨ k = 2 ∨ k = 3 := by omega
    · exact ⟨'.', rfl, by decide, by decide⟩
    · exact ⟨'h', rfl, by decide, by decide⟩
    · exact ⟨'5', rfl, by decide, by decide⟩
  obtain ⟨c, hlast, hplain, hne⟩ := hcut
  have hc : (cs ++ packageEnding.take k).getLast? = some c := by
    rw [List.getLast?_append, hlast, Option.some_or]
  have hp : packageEnding.getLast? = some c := getLast?_of_part hc hplain nofun h hback
  exact hne (Option.some.inj hp).symm

/-- A name ends in the ending of packages exactly when it was not too long, or when what is kept of
a name that was cut before its ending ends in it. -/
theorem suffix_safeFileName_iff {name : String} {stem : List Char}
    (h : name.toList = stem ++ packageEnding) : packageEnding <:+ (safeFileName name).toList ↔
      stem.length ≤ 96 ∨ 100 ≤ stem.length ∧ ∃ front back,
        nameChars (stem.take 100) = front ++ packageEnding ++ back ∧
          ∀ c ∈ back, isWhiteSpace c = true := by
  have hhead : ∀ c ∈ packageEnding.head?, isWhiteSpace c = false := by
    rintro c ⟨⟩
    decide
  have hlast : ∀ c ∈ packageEnding.getLast?, isWhiteSpace c = false := by
    rintro c ⟨⟩
    decide
  have hlength : packageEnding.length = 4 := rfl
  have hkept : nameChars (name.toList.take 100) =
      nameChars (stem.take 100) ++ packageEnding.take (100 - stem.length) := by
    rw [h, List.take_append, nameChars, List.filter_append]
    exact congrArg _ (nameChars_take_packageEnding _)
  rw [toList_safeFileName, suffix_trimChars_iff hhead hlast, hkept]
  by_cases hshort : stem.length ≤ 96
  · rw [List.take_of_length_le (l := packageEnding) (by omega)]
    exact iff_of_true ⟨_, [], (List.append_nil _).symm, by simp⟩ (.inl hshort)
  · by_cases hlong : 100 ≤ stem.length
    · rw [Nat.sub_eq_zero_of_le hlong, List.take_zero, List.append_nil]
      simp [hshort, hlong]
    · refine iff_of_false ?_ (by omega)
      rintro ⟨front, back, heq, hback⟩
      exact not_ending_of_lt (by omega) (by omega) hback heq

/-! ### The answer of the service -/

/-- A package is sent under the name that is saved for the last source of the form. -/
theorem exists_source_of_compileForm {s : Settings} {lanes : IdLanes} {form : List Part}
    {bytes : ByteArray} {name : String} (h : compileForm s lanes form = .ok (bytes, name)) :
    ∃ part, lastPart? form "source" = some part ∧ name = savedName part := by
  rw [compileForm] at h
  cases hpart : lastPart? form "source" with
  | none =>
    rw [hpart] at h
    cases h
  | some part =>
    rw [hpart] at h
    dsimp only at h
    refine ⟨part, rfl, ?_⟩
    cases hdecode : decodeUtf8 part.data with
    | error fault =>
      rw [hdecode] at h
      cases h
    | ok source =>
      rw [hdecode] at h
      obtain ⟨t, -, h⟩ := bind_eq_ok_iff.1 h
      obtain ⟨out, -, h⟩ := bind_eq_ok_iff.1 h
      exact (Prod.mk.inj (Except.ok.inj h)).2.symm

/-- A refusal is no success. -/
theorem Refusal.status_response_ne (refusal : Refusal) : refusal.response.status ≠ 200 := by
  cases refusal with
  | failed cause => cases cause <;> simp [Refusal.response, Refusal.status, failureStatus]
  | _ => simp [Refusal.response, Refusal.status]

/-- A request to compile that succeeds is answered with a package under the name that is saved for
the source. -/
theorem exists_package_of_respond {s : Settings} {lanes : IdLanes} {r : Request}
    (hmethod : r.method = Resource.compile.method) (hpath : r.path = Resource.compile.path)
    (hok : (respond s lanes r).status = 200) : ∃ form part bytes, r.form = some form ∧
      lastPart? form "source" = some part ∧
        (respond s lanes r).payload = .package bytes (savedName part) := by
  rw [respond_compile hmethod hpath, Resource.respond] at hok ⊢
  cases hform : r.form with
  | none =>
    rw [hform] at hok
    exact absurd hok (Refusal.status_response_ne _)
  | some form =>
    rw [hform] at hok
    dsimp only at hok ⊢
    cases hcompile : compileForm s lanes form with
    | error refusal =>
      rw [hcompile] at hok
      exact absurd hok (Refusal.status_response_ne _)
    | ok package =>
      obtain ⟨part, hpart, hname⟩ := exists_source_of_compileForm hcompile
      exact ⟨form, part, package.1, rfl, hpart, by rw [← hname]⟩

/-- When a request to compile succeeds, the name in the header has at most a hundred characters, all
of which may stand there, and it ends in the extension of packages exactly when the name of the
source, without its own extension, has at most 96 characters, or when it has a hundred or more and
what is kept of the first hundred ends in that extension. -/
theorem respond_savedName {s : Settings} {lanes : IdLanes} {r : Request}
    (hmethod : r.method = "POST") (hpath : r.path = "/api/v1/compile")
    (hok : (respond s lanes r).status = 200) :
    ∃ form part bytes name stem, r.form = some form ∧ lastPart? form "source" = some part ∧
      packageName (part.fileName.getD "book.md") = stem ++ ".h5p" ∧
      (respond s lanes r).payload = .package bytes name ∧
      (respond s lanes r).payload.disposition =
        some ("attachment; filename=\"" ++ name ++ "\"") ∧
      (∀ c ∈ name.toList, IsNameChar c) ∧ name.length ≤ 100 ∧
      (".h5p".toList <:+ name.toList ↔ stem.length ≤ 96 ∨ 100 ≤ stem.length ∧ ∃ front back,
        nameChars (stem.toList.take 100) = front ++ ".h5p".toList ++ back ∧
          ∀ c ∈ back, isWhiteSpace c = true) := by
  obtain ⟨form, part, bytes, hform, hpart, hpayload⟩ := exists_package_of_respond hmethod hpath hok
  obtain ⟨stem, hstem, -⟩ := isPackageFile_packageName (part.fileName.getD "book.md")
  have hname : packageName (part.fileName.getD "book.md") = String.ofList stem ++ ".h5p" := by
    rw [← String.toList_inj, String.toList_append, String.toList_ofList, hstem]
    rfl
  have hending := suffix_safeFileName_iff hstem
  rw [← String.toList_ofList (l := stem), String.length_toList] at hending
  refine ⟨form, part, bytes, savedName part, String.ofList stem, hform, hpart, hname, hpayload,
    by rw [hpayload, Payload.disposition], fun c hc => isNameChar_of_mem_safeFileName hc,
    length_safeFileName_le _, hending⟩

/-- A request to compile a heading in a file of a name. -/
def namedRequest (fileName : String) : Request :=
  { method := "POST"
    path := "/api/v1/compile"
    form := some [⟨"source", some fileName, bytesOf "# A"⟩] }

/-- There is a template against which the heading is compiled, whatever the name of its file is. -/
theorem exists_respond_namedRequest : ∃ template t out, Template.ofBytes template = .ok t ∧
    ∀ fileName, respond { defaultTemplate := some t } (.ofSeed 0) (namedRequest fileName) =
      { status := 200, payload := .package out (safeFileName (packageName fileName)) } := by
  obtain ⟨-, template, out, -, ht, hcompile, -⟩ := Compiler.bookCopy_compiled
  refine ⟨template, _, out, ht, fun fileName => ?_⟩
  rw [respond_eq_of_form rfl rfl rfl rfl (decodeUtf8_bytesOf "# A")]
  have htemplate : templateFor { defaultTemplate := some (Compiler.bookTemplate template) }
      [⟨"source", some fileName, bytesOf "# A"⟩] = .ok (Compiler.bookTemplate template) := rfl
  rw [htemplate]
  dsimp only
  rw [hcompile]
  rfl

/-- A name with quotation marks, which are left out. -/
theorem quotedName_saved : ∃ template t, Template.ofBytes template = .ok t ∧
    (namedRequest "a \"b\".tar.gz").method = "POST" ∧
    (namedRequest "a \"b\".tar.gz").path = "/api/v1/compile" ∧
    (respond { defaultTemplate := some t } (.ofSeed 0)
      (namedRequest "a \"b\".tar.gz")).status = 200 ∧
    (respond { defaultTemplate := some t } (.ofSeed 0)
      (namedRequest "a \"b\".tar.gz")).payload.disposition =
        some "attachment; filename=\"a b.tar.h5p\"" ∧
    (∀ c ∈ "a b.tar.h5p".toList, IsNameChar c) ∧ ".h5p".toList <:+ "a b.tar.h5p".toList := by
  obtain ⟨template, t, out, ht, hrespond⟩ := exists_respond_namedRequest
  replace hrespond := hrespond "a \"b\".tar.gz"
  have hok : (respond { defaultTemplate := some t } (.ofSeed 0)
      (namedRequest "a \"b\".tar.gz")).status = 200 := by
    rw [hrespond]
  have hsaved : safeFileName (packageName "a \"b\".tar.gz") = "a b.tar.h5p" := by decide +kernel
  obtain ⟨form, part, bytes, name, stem, hform, hpart, hstem, hpayload, hheader, hchars, -, hend⟩ :=
    respond_savedName rfl rfl hok
  have hname : name = "a b.tar.h5p" := by
    rw [hrespond, hsaved] at hpayload
    exact (Payload.package.inj hpayload).2.symm
  subst hname
  obtain rfl : [_] = form := Option.some.inj hform
  obtain rfl : _ = part := Option.some.inj hpart
  have hlength : stem.length + 4 = 13 := by
    have hwhole : (packageName "a \"b\".tar.gz").length = 13 := by decide +kernel
    have happend : (stem ++ ".h5p").length = stem.length + 4 := String.length_append ..
    rw [← happend, ← hstem]
    exact hwhole
  exact ⟨template, t, ht, rfl, rfl, hok, hheader, hchars, hend.2 (.inl (by omega))⟩

/-- A name of 97 characters and an extension. -/
def longName : String := String.ofList (List.replicate 97 'a') ++ ".md"

/-- The extension of a package with a long name is cut. -/
theorem longName_cut : ∃ template t, Template.ofBytes template = .ok t ∧
    (respond { defaultTemplate := some t } (.ofSeed 0) (namedRequest longName)).status = 200 ∧
    ∃ bytes name,
      (respond { defaultTemplate := some t } (.ofSeed 0) (namedRequest longName)).payload =
        .package bytes name ∧
      name = String.ofList (List.replicate 97 'a') ++ ".h5" ∧
      ¬".h5p".toList <:+ name.toList := by
  obtain ⟨template, t, out, ht, hrespond⟩ := exists_respond_namedRequest
  have hsaved : safeFileName (packageName longName) =
    String.ofList (List.replicate 97 'a') ++ ".h5" := by decide +kernel
  refine ⟨template, t, ht, by rw [hrespond], out, _, by rw [hrespond], hsaved, ?_⟩
  rw [hsaved]
  decide +kernel

end InteractiveBook.Service
