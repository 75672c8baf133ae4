import InteractiveBook.Proofs.Json.Place
import InteractiveBook.Proofs.Library.Folder
import InteractiveBook.Proofs.Package.Document
import InteractiveBook.Proofs.Package.Fields
import InteractiveBook.Proofs.Package.Template
import InteractiveBook.Proofs.Text.Trimming

/-!
# Versions in manifests

A version is written as an integer or as a text, and both mean the same. Each part of the version of
each dependency has a place in the tree of the manifest and in every text of the tree. What stands
there decides by itself whether the manifest can be read, and the manifest has the number that is
written there and is otherwise as before.
-/

namespace InteractiveBook.Package

open Library

/-! ### How a version is written -/

/-- How a version is written as text: its digits, perhaps behind a plus sign, with white space
around. -/
inductive IsVersionText (n : Nat) : List Char → Prop
  /-- There is white space on both sides, or none. -/
  | spaced {front sign digits back : List Char} (hfront : ∀ c ∈ front, Text.isWhiteSpace c = true)
    (hsign : sign = [] ∨ sign = ['+']) (h : DenotesVersion digits n)
    (hback : ∀ c ∈ back, Text.isWhiteSpace c = true) :
    IsVersionText n (front ++ (sign ++ digits ++ back))

/-- A sign and digits are left when the white space around them is trimmed. -/
theorem trimChars_version {n : Nat} {front sign digits back : List Char}
    (hfront : ∀ c ∈ front, Text.isWhiteSpace c = true) (hsign : sign = [] ∨ sign = ['+'])
    (h : DenotesVersion digits n) (hback : ∀ c ∈ back, Text.isWhiteSpace c = true) :
    Text.trimChars (front ++ (sign ++ digits ++ back)) = sign ++ digits := by
  have hplain : ∀ c ∈ sign ++ digits, Text.isWhiteSpace c = false := by
    intro c hc
    rcases List.mem_append.1 hc with hc | hc
    · rcases hsign with rfl | rfl
      · cases hc
      · rw [List.mem_singleton.1 hc]
        decide
    · exact Text.isWhiteSpace_of_isDigit (h.decimal c hc)
  exact Text.trimChars_append hfront (fun c hc => hplain c (List.mem_of_mem_head? hc))
    (fun c hc => hplain c (List.mem_of_mem_getLast? hc))
    (List.append_ne_nil_of_right_ne_nil _ h.nonempty) hback

/-- A version is found in a text exactly when the text is written as one. -/
theorem versionOfText?_eq_some_iff {s : String} {n : Nat} :
    versionOfText? s = some n ↔ IsVersionText n s.toList := by
  constructor
  · intro h
    obtain ⟨front, back, hs, hfront, hback⟩ := Text.exists_trimChars s.toList
    rw [versionOfText?, word32OfDigits?_eq_some_iff] at h
    rw [hs, List.append_assoc]
    generalize Text.trimChars s.toList = part at h
    split at h
    · exact .spaced hfront (.inr rfl) h hback
    · exact .spaced hfront (.inl rfl) h hback
  · intro h
    generalize hs : s.toList = cs at h
    obtain ⟨hfront, hsign, h, hback⟩ := h
    rw [versionOfText?, hs, trimChars_version hfront hsign h hback, word32OfDigits?_eq_some_iff]
    rcases hsign with rfl | rfl
    · rw [List.nil_append]
      split
      · exact absurd List.mem_cons_self (h.not_mem (c := '+') rfl)
      · exact h
    · exact h

/-- How a version is written as an integer: its digits, without a sign and without zeros in front,
with white space around. -/
inductive IsVersionInteger (n : Nat) : List Char → Prop
  /-- There is white space on both sides, or none. -/
  | spaced {front digits back : List Char} (hfront : Json.IsGap front)
    (hwhole : Json.IsWholePart digits) (h : DenotesVersion digits n) (hback : Json.IsGap back) :
    IsVersionInteger n (front ++ (digits ++ back))

/-- How a version is written as a JSON value. -/
inductive SpellsVersion (value : String) (n : Nat) : Prop
  /-- The value is an integer. -/
  | integer (h : IsVersionInteger n value.toList)
  /-- The value is a text. -/
  | text {s : String} (hvalue : Json.Tree.ofText? value = some (.string (some s)))
    (h : IsVersionText n s.toList)

/-- An integer is a JSON value. -/
theorem IsVersionInteger.exists_tree {value : String} {n : Nat}
    (h : IsVersionInteger n value.toList) : ∃ whole, Text.word32OfDigits? whole = some n ∧
      Json.Tree.ofText? value = some (.number ⟨false, whole, none, none⟩) := by
  generalize hvalue : value.toList = cs at h
  obtain @⟨front, digits, back, hfront, hwhole, hdigits, hback⟩ := h
  have htext : Json.IsNumeralText ⟨false, digits, none, none⟩ [] := ⟨hwhole, nofun, .none⟩
  have hspaced := Json.IsSpacedText.spaced hfront (.number htext) hback
  rw [Json.Numeral.charsWith_whole, ← hvalue] at hspaced
  exact ⟨digits, word32OfDigits?_eq_some_iff.2 hdigits, Json.ofText?_eq_some_iff.2 hspaced⟩

/-- The decimal text of a number, padded with zeros and white space. -/
inductive IsPaddedDecimal (n : Nat) : List Char → Prop
  /-- There are zeros in front of the digits and white space on both sides, or none. -/
  | padded {front back : List Char} (hfront : ∀ c ∈ front, Text.isWhiteSpace c = true)
    (zeros : Nat) (hback : ∀ c ∈ back, Text.isWhiteSpace c = true) :
    IsPaddedDecimal n (front ++ (List.replicate zeros '0' ++ Nat.toDigits 10 n ++ back))

/-- A padded number that fits is a text of a version. -/
theorem IsPaddedDecimal.isVersionText {n : Nat} {cs : List Char} (h : IsPaddedDecimal n cs)
    (hn : n ≤ Text.maxWord32) : IsVersionText n cs := by
  obtain ⟨hfront, zeros, hback⟩ := h
  have hdigits := denotesVersion_toDigits hn
  have hdenotes : DenotesVersion (List.replicate zeros '0' ++ Nat.toDigits 10 n) n := by
    refine ⟨List.append_ne_nil_of_right_ne_nil _ hdigits.nonempty, fun c hc => ?_, ?_, hn⟩
    · rcases List.mem_append.1 hc with hc | hc
      · rw [List.eq_of_mem_replicate hc]
        rfl
      · exact hdigits.decimal c hc
    · rw [Json.decimalValue_append, Json.decimalValue_zeros, hdigits.value, Nat.zero_mul,
        Nat.zero_add]
  have htext := IsVersionText.spaced hfront (.inl rfl) hdenotes hback
  rwa [List.nil_append] at htext

/-- A version is found in a JSON value exactly when the value is written as one. -/
theorem versionOf?_eq_some_iff {value : String} {t : Json.Tree} {n : Nat}
    (h : Json.Tree.ofText? value = some t) : versionOf? t = some n ↔ SpellsVersion value n := by
  constructor
  · intro hversion
    unfold versionOf? at hversion
    split at hversion
    · next numeral =>
      obtain ⟨negative, whole, fraction?, exponent?⟩ := numeral
      split at hversion
      · cases hversion
      next hplain =>
      obtain ⟨rfl, rfl, rfl⟩ : negative = false ∧ fraction? = none ∧ exponent? = none := by
        simpa [not_or] using hplain
      obtain ⟨gap, inner, gap', hvalue, hgap, hinner, hgap'⟩ :=
        (Json.ofText?_eq_some_iff.1 h).exists_gaps
      cases hinner with
      | @number _ exponent htext =>
        obtain rfl : exponent = [] := by
          cases htext.exponent
          rfl
        rw [Json.Numeral.charsWith_whole] at hvalue
        refine .integer ?_
        rw [hvalue]
        exact .spaced hgap htext.whole (word32OfDigits?_eq_some_iff.1 hversion) hgap'
    · next s? =>
      obtain ⟨s, rfl, hs⟩ := Option.bind_eq_some_iff.1 hversion
      exact .text h (versionOfText?_eq_some_iff.1 hs)
    · cases hversion
  · rintro (hinteger | ⟨hvalue, hs⟩)
    · obtain ⟨whole, hwhole, hvalue⟩ := hinteger.exists_tree
      obtain rfl := Option.some.inj (h.symm.trans hvalue)
      exact hwhole
    · obtain rfl := Option.some.inj (h.symm.trans hvalue)
      exact versionOfText?_eq_some_iff.2 hs

/-! ### Versions in trees -/

/-- One of the two parts of a version. -/
inductive VersionPart where
  /-- The first one. -/
  | major
  /-- The second one. -/
  | minor

namespace VersionPart

/-- The key of a part. -/
def key : VersionPart → String
  | major => "majorVersion"
  | minor => "minorVersion"

/-- The place of a part among the fields of a dependency. -/
def place : VersionPart → Nat
  | major => 1
  | minor => 2

/-- A part of the version of a library. -/
def get : VersionPart → LibraryId → Nat
  | major, id => id.major
  | minor, id => id.minor

/-- A library with another number as a part of its version. -/
def set (n : Nat) : VersionPart → LibraryId → LibraryId
  | major, id => { id with major := n }
  | minor, id => { id with minor := n }

/-- A part is what it was set to. -/
theorem get_set (part : VersionPart) (n : Nat) (id : LibraryId) : part.get (part.set n id) = n := by
  cases part <;> rfl

end VersionPart

/-- A manifest with another number as a part of the version of a dependency. -/
def Manifest.withVersion (m : Manifest) (index : Nat) (part : VersionPart) (n : Nat) : Manifest :=
  { m with dependencies := m.dependencies.modify index (part.set n) }

/-- A part of the version of a dependency. -/
def Manifest.version? (m : Manifest) (index : Nat) (part : VersionPart) : Option Nat :=
  m.dependencies[index]?.map part.get

/-- A tree of a manifest around a part of the version of a dependency. -/
inductive IsVersionContext (index : Nat) (part : VersionPart) : (Json.Tree → Json.Tree) → Prop
  /-- The part is a field of an item of the dependencies. -/
  | field {outer inner : Json.Tree → Json.Tree} {before after : List Json.Tree}
    (houter : IsField ["title", "mainLibrary", "preloadedDependencies"] "preloadedDependencies"
      outer)
    (hindex : before.length = index)
    (hinner : IsField ["machineName", "majorVersion", "minorVersion"] part.key inner) :
    IsVersionContext index part fun t => outer (.array (before ++ inner t :: after))

variable {index : Nat} {part : VersionPart} {around : Json.Tree → Json.Tree}

/-- A dependency is read from the three fields of its record. -/
theorem dependencyOf?_eq {t : Json.Tree} {name? major? minor? : Option Json.Tree}
    (h : recordFields? ["machineName", "majorVersion", "minorVersion"] t =
      some [name?, major?, minor?]) :
    dependencyOf? t =
      (do some ⟨← name?.bind textOf?, ← major?.bind versionOf?, ← minor?.bind versionOf?⟩) := by
  rw [dependencyOf?, h]
  cases name? <;> cases major? <;> cases minor? <;> simp

/-- The library that is read from a tree around a part of its version has the part that stands
there. -/
theorem exists_dependency {inner : Json.Tree → Json.Tree}
    (h : IsField ["machineName", "majorVersion", "minorVersion"] part.key inner) :
    ∃ id? : Option LibraryId, ∀ t,
      dependencyOf? (inner t) = (versionOf? t).bind fun n => id?.map (part.set n) := by
  have hset := h.recordFields?_set (i := part.place) (by decide) (by cases part <;> rfl) .null
  cases hfields : recordFields? ["machineName", "majorVersion", "minorVersion"] (inner .null) with
  | none =>
    refine ⟨none, fun t => ?_⟩
    rw [dependencyOf?, hset, hfields]
    cases versionOf? t <;> rfl
  | some fields =>
    obtain ⟨name?, major?, minor?, rfl⟩ := List.length_eq_three.1 (length_of_recordFields? hfields)
    rw [hfields] at hset
    cases part with
    | major =>
      refine ⟨do some ⟨← name?.bind textOf?, 0, ← minor?.bind versionOf?⟩, fun t => ?_⟩
      rw [dependencyOf?_eq (hset t), Option.bind_some]
      cases name?.bind textOf? <;> cases versionOf? t <;> cases minor?.bind versionOf? <;> rfl
    | minor =>
      refine ⟨do some ⟨← name?.bind textOf?, ← major?.bind versionOf?, 0⟩, fun t => ?_⟩
      rw [dependencyOf?_eq (hset t), Option.bind_some]
      cases name?.bind textOf? <;> cases major?.bind versionOf? <;> cases versionOf? t <;> rfl

/-- Items that are all read are read each by itself. -/
theorem forall₂_of_mapM {α β : Type} {f : α → Option β} {as : List α} {bs : List β}
    (h : as.mapM f = some bs) : List.Forall₂ (fun a b => f a = some b) as bs := by
  induction as generalizing bs with
  | nil =>
    rw [← Option.some.inj h]
    exact .nil
  | cons a as ih =>
    rw [List.mapM_cons] at h
    simp only [Option.bind_eq_bind, Option.bind_eq_some_iff] at h
    obtain ⟨b, hb, bs, hbs, h⟩ := h
    rw [← Option.some.inj h]
    exact .cons hb (ih hbs)

/-- What stands between two parts of a list is modified. -/
theorem modify_append_cons {α : Type} (before after : List α) (a : α) (f : α → α) :
    (before ++ a :: after).modify before.length f = before ++ f a :: after := by
  rw [List.modify_eq_take_cons_drop (by simp)]
  simp

/-- The libraries that are read from items of which one is a tree around a part of a version have
the part that stands there. -/
theorem exists_dependencies {inner : Json.Tree → Json.Tree}
    (h : IsField ["machineName", "majorVersion", "minorVersion"] part.key inner)
    (before after : List Json.Tree) :
    ∃ ids? : Option (List LibraryId), (∀ ids ∈ ids?, before.length < ids.length) ∧
      ∀ t, (before ++ inner t :: after).mapM dependencyOf? =
        (versionOf? t).bind fun n => ids?.map (·.modify before.length (part.set n)) := by
  obtain ⟨id?, hid⟩ := exists_dependency h
  cases hbefore : before.mapM dependencyOf? with
  | none =>
    refine ⟨none, nofun, fun t => ?_⟩
    rw [List.mapM_append, hbefore]
    cases versionOf? t <;> rfl
  | some ids =>
    have hlength : ids.length = before.length := (forall₂_of_mapM hbefore).length_eq.symm
    refine ⟨do some (ids ++ (← id?) :: (← after.mapM dependencyOf?)), ?_, fun t => ?_⟩
    · intro all hall
      simp only [Option.mem_def, Option.bind_eq_bind, Option.bind_eq_some_iff] at hall
      obtain ⟨id, -, ids', -, hall⟩ := hall
      rw [← Option.some.inj hall, List.length_append, List.length_cons]
      omega
    · rw [List.mapM_append, List.mapM_cons, hbefore, hid, ← hlength]
      cases versionOf? t with
      | none => rfl
      | some n =>
        cases id? with
        | none => rfl
        | some id =>
          cases after.mapM dependencyOf? with
          | none => rfl
          | some ids' => exact congrArg some (modify_append_cons ids ids' id _).symm

/-- A manifest is read from the three fields of its record. -/
theorem Manifest.ofTree?_eq {t : Json.Tree} {title? main? dependencies? : Option Json.Tree}
    (h : recordFields? ["title", "mainLibrary", "preloadedDependencies"] t =
      some [title?, main?, dependencies?]) :
    Manifest.ofTree? t =
      (do some ⟨← titleOf? title?, ← main?.bind textOf?, ← dependenciesOf? dependencies?⟩) := by
  rw [ofTree?, h]
  cases main? <;> simp

/-- The manifest that is read from a tree around a part of a version has the part that stands
there. -/
theorem IsVersionContext.exists_manifest (h : IsVersionContext index part around) :
    ∃ m? : Option Manifest, (∀ m ∈ m?, index < m.dependencies.length) ∧
      ∀ t, Manifest.ofTree? (around t) =
        (versionOf? t).bind fun n => m?.map (·.withVersion index part n) := by
  obtain @⟨outer, inner, before, after, houter, rfl, hinner⟩ := h
  have hset := houter.recordFields?_set (i := 2) (by decide) rfl .null
  obtain ⟨ids?, hlength, hids⟩ := exists_dependencies hinner before after
  cases hfields : recordFields? ["title", "mainLibrary", "preloadedDependencies"]
    (outer .null) with
  | none =>
    refine ⟨none, nofun, fun t => ?_⟩
    rw [Manifest.ofTree?, hset, hfields]
    cases versionOf? t <;> rfl
  | some fields =>
    obtain ⟨title?, main?, dependencies?, rfl⟩ :=
      List.length_eq_three.1 (length_of_recordFields? hfields)
    rw [hfields] at hset
    refine ⟨do some ⟨← titleOf? title?, ← main?.bind textOf?, ← ids?⟩, ?_, fun t => ?_⟩
    · intro m hm
      simp only [Option.mem_def, Option.bind_eq_bind, Option.bind_eq_some_iff] at hm
      obtain ⟨title, -, main, -, ids, hids, hm⟩ := hm
      rw [← Option.some.inj hm]
      exact hlength ids hids
    · rw [Manifest.ofTree?_eq (hset _), dependenciesOf?, hids]
      cases titleOf? title? <;> cases main?.bind textOf? <;> cases versionOf? t <;> cases ids? <;>
        rfl

/-- A dependency has each part of its version from a part of its tree. -/
theorem exists_version_field {t : Json.Tree} {id : LibraryId} (h : dependencyOf? t = some id)
    (part : VersionPart) : ∃ inner value, t = inner value ∧
      IsField ["machineName", "majorVersion", "minorVersion"] part.key inner := by
  unfold dependencyOf? at h
  split at h
  · next name major minor hfields =>
    cases part with
    | major =>
      obtain ⟨inner, ht, hfield⟩ := exists_isField (i := 1) rfl hfields rfl
      exact ⟨inner, major, ht, hfield⟩
    | minor =>
      obtain ⟨inner, ht, hfield⟩ := exists_isField (i := 2) rfl hfields rfl
      exact ⟨inner, minor, ht, hfield⟩
  · cases h

/-- A manifest has each part of the version of each dependency from a part of its tree. -/
theorem exists_isVersionContext {t : Json.Tree} {m : Manifest} (h : Manifest.ofTree? t = some m)
    (hindex : index < m.dependencies.length) (part : VersionPart) :
    ∃ around value, t = around value ∧ IsVersionContext index part around := by
  unfold Manifest.ofTree? at h
  split at h
  case h_2 => cases h
  next title? main dependencies? hfields =>
  simp only [Option.bind_eq_bind, Option.bind_eq_some_iff] at h
  obtain ⟨title, -, main, -, ids, hids, h⟩ := h
  obtain rfl := Option.some.inj h
  unfold dependenciesOf? at hids
  split at hids
  · rw [← Option.some.inj hids] at hindex
    cases hindex
  · next items =>
    obtain ⟨outer, rfl, houter⟩ := exists_isField (i := 2) rfl hfields rfl
    have hall := forall₂_of_mapM hids
    have hlength : index < items.length := hall.length_eq ▸ hindex
    obtain ⟨before, after, hitems, hbefore⟩ :=
      exists_append_of_getElem? (List.getElem?_eq_getElem hlength)
    obtain ⟨inner, value, hinner, hfield⟩ := exists_version_field (hall.get hlength hindex) part
    rw [List.get_eq_getElem] at hinner
    rw [hitems, hinner]
    exact ⟨_, value, rfl, .field houter hbefore hfield⟩
  · cases hids

/-! ### Versions in texts -/

/-- A part of a version has a place in every text of its manifest. -/
theorem IsVersionContext.standsIn (h : IsVersionContext index part around) {t : Json.Tree}
    {cs : List Char} (ht : Json.IsSpacedText (around t) cs) : Json.StandsIn t around cs := by
  obtain @⟨outer, inner, before, after, houter, -, hinner⟩ := h
  refine (houter.standsIn ht).trans (fun t => .array (before ++ inner t :: after))
    fun cs hitems => ?_
  exact hitems.standsIn_array.trans inner fun cs hfields => hinner.standsIn hfields

/-- A text behind any byte order marks. -/
def unmarked (s : String) : String := String.ofList (s.toList.dropWhile (· == byteOrderMark))

/-- Two ends of a text of a manifest between which a part of the version of a dependency stands:
whatever value is written there is what the tree of the text has as this part. -/
def IsVersionPlace (index : Nat) (part : VersionPart) (front back : String) : Prop :=
  ∃ around, IsVersionContext index part around ∧
    ∀ value t, Json.Tree.ofText? value = some t →
      Json.Tree.ofText? (unmarked (front ++ value ++ back)) = some (around t)

/-- No value begins with a byte order mark. -/
theorem dropWhile_marks {marks cs : List Char} {t : Json.Tree}
    (hmarks : ∀ c ∈ marks, c = byteOrderMark) (h : Json.IsSpacedText t cs) :
    (marks ++ cs).dropWhile (· == byteOrderMark) = cs := by
  obtain ⟨c, rest, rfl, hc⟩ := h.eq_cons
  have hplain : c ≠ byteOrderMark := by
    rintro rfl
    revert hc
    decide
  rw [List.dropWhile_append_of_pos (by simpa using hmarks),
    List.dropWhile_cons_of_neg (by simpa using hplain)]

/-- Each part of the version of each dependency has a place in the text of a manifest. -/
theorem exists_isVersionPlace {s : String} {m : Manifest} (h : Manifest.ofText? s = some m)
    (hindex : index < m.dependencies.length) (part : VersionPart) :
    ∃ front value back, s = front ++ value ++ back ∧ (Json.Tree.ofText? value).isSome ∧
      IsVersionPlace index part front back := by
  obtain ⟨tree, htree, hm⟩ := Option.bind_eq_some_iff.1 h
  obtain ⟨around, t, rfl, hcontext⟩ := exists_isVersionContext hm hindex part
  rw [Json.ofText?_eq_some_iff, String.toList_ofList] at htree
  obtain ⟨front, value, back, hrest, hvalue, hplace⟩ := hcontext.standsIn htree
  -- The byte order marks in front belong to no value and go with what stands in front of the place.
  obtain ⟨marks, hmarks, hs⟩ : ∃ marks : List Char, (∀ c ∈ marks, c = byteOrderMark) ∧
      s.toList = marks ++ (front ++ (value ++ back)) := by
    refine ⟨s.toList.takeWhile (· == byteOrderMark), fun c hc => ?_, ?_⟩
    · simpa using List.mem_takeWhile_imp hc
    · rw [← hrest, List.takeWhile_append_dropWhile]
  refine ⟨String.ofList (marks ++ front), String.ofList value, String.ofList back, ?_, ?_, around,
    hcontext, fun value' t' hvalue' => ?_⟩
  · rw [← String.toList_inj, hs]
    simp
  · rw [← String.toList_ofList (l := value), ← Json.ofText?_eq_some_iff] at hvalue
    rw [hvalue]
    rfl
  · have hwhole := hplace t' _ (Json.ofText?_eq_some_iff.1 hvalue')
    have htoList : (String.ofList (marks ++ front) ++ value' ++ String.ofList back).toList =
        marks ++ (front ++ (value'.toList ++ back)) := by
      simp
    rw [Json.ofText?_eq_some_iff, unmarked, String.toList_ofList, htoList,
      dropWhile_marks hmarks hwhole]
    exact hwhole

/-- The manifest that is read from a text with a place for a part of a version has the part that
stands there. -/
theorem IsVersionPlace.exists_manifest {front back : String}
    (h : IsVersionPlace index part front back) :
    ∃ m? : Option Manifest, (∀ m ∈ m?, index < m.dependencies.length) ∧
      ∀ value t, Json.Tree.ofText? value = some t → Manifest.ofText? (front ++ value ++ back) =
        (versionOf? t).bind fun n => m?.map (·.withVersion index part n) := by
  obtain ⟨around, hcontext, hplace⟩ := h
  obtain ⟨m?, hlength, hm⟩ := hcontext.exists_manifest
  refine ⟨m?, hlength, fun value t hvalue => ?_⟩
  rw [← hm, Manifest.ofText?, ← unmarked, hplace value t hvalue, Option.bind_some]

/-- A text is read as the manifest that it is. -/
theorem readManifest_bytesOf (s : String) : readManifest (Text.bytesOf s) =
    match Manifest.ofText? s with
    | some m => .ok m
    | none => .error (.malformedManifest "not a manifest") := by
  rw [readManifest]
  cases hm : Manifest.ofText? s <;> simp only [decodeUtf8_bytesOf, hm]

/-- A part of a version that is set again is what it was set to last. -/
theorem Manifest.withVersion_withVersion (m : Manifest) (index : Nat) (part : VersionPart)
    (n n' : Nat) : (m.withVersion index part n').withVersion index part n =
      m.withVersion index part n := by
  have hset : part.set n ∘ part.set n' = part.set n := by
    funext id
    cases part <;> rfl
  rw [withVersion, withVersion, withVersion, List.modify_modify_eq, hset]

/-- A part of the version of a dependency is what it was set to. -/
theorem Manifest.version?_withVersion {m : Manifest} (h : index < m.dependencies.length)
    (part : VersionPart) (n : Nat) : (m.withVersion index part n).version? index part = some n := by
  rw [version?, withVersion, List.getElem?_modify_eq, List.getElem?_eq_getElem h]
  exact congrArg some (part.get_set n _)

/-- A manifest that can be read with one value as a part of a version can be read with another one
exactly when the other one is written as a version, and then has this version. -/
theorem IsVersionPlace.readManifest_iff {front back value value' : String} {m m' : Manifest}
    (h : IsVersionPlace index part front back) (hvalue : (Json.Tree.ofText? value).isSome)
    (hm : readManifest (Text.bytesOf (front ++ value ++ back)) = .ok m)
    (hvalue' : (Json.Tree.ofText? value').isSome) :
    readManifest (Text.bytesOf (front ++ value' ++ back)) = .ok m' ↔
      ∃ n, SpellsVersion value' n ∧ m' = m.withVersion index part n ∧
        m'.version? index part = some n := by
  obtain ⟨m?, hlength, hread⟩ := h.exists_manifest
  obtain ⟨t, ht⟩ := Option.isSome_iff_exists.1 hvalue
  obtain ⟨t', ht'⟩ := Option.isSome_iff_exists.1 hvalue'
  rw [readManifest_bytesOf, hread value t ht] at hm
  split at hm
  case h_2 => cases hm
  next found hfound =>
  obtain ⟨n, -, hmap⟩ := Option.bind_eq_some_iff.1 hfound
  obtain ⟨base, rfl, hversion⟩ := Option.map_eq_some_iff.1 hmap
  obtain rfl : base.withVersion index part n = m := hversion.trans (Except.ok.inj hm)
  have hbase : index < base.dependencies.length := hlength base rfl
  rw [readManifest_bytesOf, hread value' t' ht']
  simp only [← versionOf?_eq_some_iff ht', Manifest.withVersion_withVersion]
  cases versionOf? t' with
  | none => simp
  | some n' =>
    have hset := Manifest.version?_withVersion hbase part n'
    simp only [Option.bind_some, Option.map_some, Except.ok.injEq, Option.some.injEq,
      exists_eq_left']
    constructor
    · rintro rfl
      exact ⟨rfl, hset⟩
    · rintro ⟨rfl, -⟩
      rfl

/-- Two values that are written as the same version give the same manifest. -/
theorem IsVersionPlace.readManifest_congr {front back value value' : String} {n : Nat}
    (h : IsVersionPlace index part front back) (hvalue : (Json.Tree.ofText? value).isSome)
    (hvalue' : (Json.Tree.ofText? value').isSome) (hn : SpellsVersion value n)
    (hn' : SpellsVersion value' n) :
    readManifest (Text.bytesOf (front ++ value' ++ back)) =
      readManifest (Text.bytesOf (front ++ value ++ back)) := by
  obtain ⟨m?, -, hread⟩ := h.exists_manifest
  obtain ⟨t, ht⟩ := Option.isSome_iff_exists.1 hvalue
  obtain ⟨t', ht'⟩ := Option.isSome_iff_exists.1 hvalue'
  rw [readManifest_bytesOf, readManifest_bytesOf, hread value t ht, hread value' t' ht',
    (versionOf?_eq_some_iff ht).2 hn, (versionOf?_eq_some_iff ht').2 hn']

/-- What a template has of an archive beside its bytes: the manifest and the table of the
libraries. -/
theorem Template.map_ofBytes {bytes raw : ByteArray} {found : List Zip.Entry}
    (h : checkedEntries bytes = .ok found) (hraw : manifestBytes bytes found = .ok raw) :
    (Template.ofBytes bytes).map (fun t => (t.manifest, t.libraries)) =
      (readManifest raw).bind fun m => if m.isBook then
        .ok (m, resolveLibraries m.dependencies (found.map (·.name))) else
        .error (otherPackage m) := by
  simp only [Template.ofBytes, h, bind, Except.bind, hraw]
  cases readManifest raw with
  | error fault => rfl
  | ok m => cases hbook : m.isBook <;> simp only [hbook] <;> rfl

/-- A manifest cannot be read where a value is not written as a version. -/
theorem IsVersionPlace.readManifest_malformed {front back value : String}
    (h : IsVersionPlace index part front back) (hvalue : (Json.Tree.ofText? value).isSome)
    (hnone : ¬∃ n, SpellsVersion value n) :
    ∃ message, readManifest (Text.bytesOf (front ++ value ++ back)) =
      .error (.malformedManifest message) := by
  obtain ⟨m?, -, hread⟩ := h.exists_manifest
  obtain ⟨t, ht⟩ := Option.isSome_iff_exists.1 hvalue
  have hversion : versionOf? t = none :=
    Option.eq_none_iff_forall_not_mem.2 fun n hn => hnone ⟨n, (versionOf?_eq_some_iff ht).1 hn⟩
  refine ⟨"not a manifest", ?_⟩
  rw [readManifest_bytesOf, hread value t ht, hversion]
  rfl

/-- Versions mean the same as numbers and as texts. In a manifest each part of the version of each
dependency has a place. Where a manifest can be read with some value there, another value is read
exactly when it is written as a version, as an integer or as a text, and then the manifest has this
version and is otherwise the same; with any other value it is malformed. The padded decimal text of
an integer in the place of the integer changes neither the manifest nor, in an archive with the same
entries, the table of the libraries. -/
theorem readManifest_version_exact :
    (∀ s m index part, readManifest (Text.bytesOf s) = .ok m → index < m.dependencies.length →
      ∃ front value back, s = front ++ value ++ back ∧ (Json.Tree.ofText? value).isSome ∧
        IsVersionPlace index part front back) ∧
    (∀ index part front back value m, IsVersionPlace index part front back →
      (Json.Tree.ofText? value).isSome →
      readManifest (Text.bytesOf (front ++ value ++ back)) = .ok m →
      ∀ value', (Json.Tree.ofText? value').isSome →
        (∀ m', readManifest (Text.bytesOf (front ++ value' ++ back)) = .ok m' ↔
          ∃ n, SpellsVersion value' n ∧ m' = m.withVersion index part n ∧
            m'.version? index part = some n) ∧
        ((¬∃ n, SpellsVersion value' n) → ∃ message,
          readManifest (Text.bytesOf (front ++ value' ++ back)) =
            .error (.malformedManifest message))) ∧
    ∀ index part front back value text s n, IsVersionPlace index part front back →
      IsVersionInteger n value.toList → Json.Tree.ofText? text = some (.string (some s)) →
      IsPaddedDecimal n s.toList →
        readManifest (Text.bytesOf (front ++ text ++ back)) =
          readManifest (Text.bytesOf (front ++ value ++ back)) ∧
        ∀ bytes bytes' found found', checkedEntries bytes = .ok found →
          manifestBytes bytes found = .ok (Text.bytesOf (front ++ value ++ back)) →
          checkedEntries bytes' = .ok found' →
          manifestBytes bytes' found' = .ok (Text.bytesOf (front ++ text ++ back)) →
          found'.map (·.name) = found.map (·.name) →
            (Template.ofBytes bytes').map (fun t => (t.manifest, t.libraries)) =
              (Template.ofBytes bytes).map fun t => (t.manifest, t.libraries) := by
  refine ⟨fun s m index part hm hindex => ?_, ?_, ?_⟩
  · rw [readManifest_bytesOf] at hm
    split at hm
    case h_2 => cases hm
    next found hfound =>
    obtain rfl := Except.ok.inj hm
    exact exists_isVersionPlace hfound hindex part
  · intro index part front back value m hplace hvalue hm value' hvalue'
    exact ⟨fun m' => hplace.readManifest_iff hvalue hm hvalue',
      hplace.readManifest_malformed hvalue'⟩
  · intro index part front back value text s n hplace hinteger htext hpadded
    obtain ⟨whole, hwhole, hvalue⟩ := hinteger.exists_tree
    have hn : n ≤ Text.maxWord32 := (word32OfDigits?_eq_some_iff.1 hwhole).fits
    have hsame := hplace.readManifest_congr (by rw [hvalue]; rfl) (by rw [htext]; rfl)
      (.integer hinteger) (.text htext (hpadded.isVersionText hn))
    refine ⟨hsame, fun bytes bytes' found found' hfound hraw hfound' hraw' hnames => ?_⟩
    rw [Template.map_ofBytes hfound hraw, Template.map_ofBytes hfound' hraw', hsame, hnames]

/-- A manifest with one dependency, the array of whose fields has its versions as numbers. -/
def columnManifest : String :=
  "\x7b\"mainLibrary\":\"H5P.InteractiveBook\","
    ++ "\"preloadedDependencies\":[[\"H5P.Column\",1,16]]\x7d"

/-- The minor version of the only dependency may be a text, but not a negative number. -/
theorem columnManifest_versions : ∃ front value back, columnManifest = front ++ value ++ back ∧
    readManifest (Text.bytesOf (front ++ "\" +017 \"" ++ back)) =
      .ok ⟨none, "H5P.InteractiveBook", [⟨"H5P.Column", 1, 17⟩]⟩ ∧
    ∃ message, readManifest (Text.bytesOf (front ++ "-1" ++ back)) =
      .error (.malformedManifest message) := by
  have hread : readManifest (Text.bytesOf columnManifest) =
      .ok ⟨none, "H5P.InteractiveBook", [⟨"H5P.Column", 1, 16⟩]⟩ := by
    have hm : Manifest.ofText? columnManifest =
        some ⟨none, "H5P.InteractiveBook", [⟨"H5P.Column", 1, 16⟩]⟩ := by decide +kernel
    rw [readManifest_bytesOf, hm]
  obtain ⟨hplaces, hvalues, -⟩ := readManifest_version_exact
  obtain ⟨front, value, back, hs, hvalue, hplace⟩ :=
    hplaces columnManifest _ 0 .minor hread Nat.zero_lt_one
  rw [hs] at hread
  have htext : Json.Tree.ofText? "\" +017 \"" = some (.string (some " +017 ")) := by rfl
  have hnegative : Json.Tree.ofText? "-1" = some (.number ⟨true, ['1'], none, none⟩) := by rfl
  have hspells : SpellsVersion "\" +017 \"" 17 := (versionOf?_eq_some_iff htext).1 (by decide)
  have hnone : ¬∃ n, SpellsVersion "-1" n := by
    rintro ⟨n, hn⟩
    cases (versionOf?_eq_some_iff hnegative).2 hn
  obtain ⟨haccepted, -⟩ := hvalues 0 .minor front back value _ hplace hvalue hread "\" +017 \""
    (by rw [htext]; rfl)
  obtain ⟨-, hrefused⟩ := hvalues 0 .minor front back value _ hplace hvalue hread "-1"
    (by rw [hnegative]; rfl)
  exact ⟨front, value, back, hs, (haccepted _).2 ⟨17, hspells, rfl, rfl⟩, hrefused hnone⟩

end InteractiveBook.Package
