import InteractiveBook.Proofs.Library.Table
import Mathlib.Data.List.Nodup

/-!
# Library tables after a run of insertions

Whatever is inserted into the table without libraries, the table has one entry for each content
type, the one that was inserted last for it. What the table says of a content type, which content
types it has no library for and whether the rich text library provides text are read off in
different ways, and all of them agree with the entries.
-/

namespace InteractiveBook.Library.LibraryTable

variable {table : LibraryTable} {steps : List (ContentType × Option LibraryId)} {t : ContentType}
  {id? : Option LibraryId}

/-! ### Views of a complete table -/

/-- An entry of a complete table is what the table says of its content type. -/
theorem IsComplete.get_of_mem (h : table.IsComplete) {e : ContentType × Option LibraryId}
    (he : e ∈ table.entries) : table.get e.1 = e.2 := by
  rw [get]
  cases hfind : table.entries.find? fun f => f.1 = e.1 with
  | none =>
    have hnone : ∀ f ∈ table.entries, f.1 ≠ e.1 := by simpa using hfind
    exact absurd rfl (hnone e he)
  | some f =>
    have hkey : f.1 = e.1 := by simpa using List.find?_some hfind
    have hmem : f ∈ table.entries := List.mem_of_find?_eq_some hfind
    have hnodup : (table.entries.map Prod.fst).Nodup := h.types ▸ ContentType.nodup_all
    have hsame : f = e := List.inj_on_of_nodup_map hnodup hmem he hkey
    exact congrArg Prod.snd hsame

/-- The entries of a complete table are what it says of the content types, in the fixed order. -/
theorem IsComplete.entries_eq (h : table.IsComplete) :
    table.entries = ContentType.all.map fun t => (t, table.get t) := by
  have hentry : ∀ e ∈ table.entries, (e.1, table.get e.1) = e := fun e he =>
    Prod.ext rfl (h.get_of_mem he)
  calc table.entries
      = table.entries.map fun e => (e.1, table.get e.1) := by
        rw [List.map_congr_left hentry, List.map_id']
    _ = (table.entries.map Prod.fst).map fun t => (t, table.get t) := by rw [List.map_map]; rfl
    _ = ContentType.all.map fun t => (t, table.get t) := by rw [h.types]

/-- The content types that no library provides are those whose entries have none, in the order of
the entries. -/
theorem IsComplete.unavailable_eq (h : table.IsComplete) :
    table.unavailable = (table.entries.filter fun e => e.2 = none).map Prod.fst := by
  have hfst : (Prod.fst ∘ fun t => (t, table.get t)) = id := rfl
  rw [h.entries_eq, List.filter_map, List.map_map, hfst, List.map_id, unavailable]
  refine List.filter_congr fun t _ => ?_
  cases hget : table.get t <;> simp [hget]

/-- A library is the rich text library when it has its name. -/
theorem isAdvanced_iff :
    isAdvanced id? = true ↔ ∃ id, id? = some id ∧ id.name = "H5P.AdvancedText" := by
  cases id? with
  | none => simp [isAdvanced]
  | some id => simp [isAdvanced, ContentType.advancedText]

/-! ### Runs of insertions -/

/-- What a run of insertions leaves as the entry of a content type. -/
inductive LastEntry (steps : List (ContentType × Option LibraryId)) (t : ContentType) :
    Option LibraryId → Prop
  /-- What was inserted for the content type, and nothing after it. -/
  | inserted {front back : List (ContentType × Option LibraryId)} {id? : Option LibraryId}
    (hsplit : steps = front ++ (t, id?) :: back) (hlast : ∀ e ∈ back, e.1 ≠ t) :
    LastEntry steps t id?
  /-- No library, where nothing was inserted for the content type. -/
  | untouched (hnone : ∀ e ∈ steps, e.1 ≠ t) : LastEntry steps t none

/-- The table after a run is complete, and says of a content type what the first entry for it says
when the run is read backwards. -/
theorem ofEntries_spec (steps : List (ContentType × Option LibraryId)) :
    (ofEntries steps).IsComplete ∧ ∀ t, (ofEntries steps).get t =
      ((steps.reverse.find? fun e => e.1 = t).map Prod.snd).getD none := by
  obtain ⟨hcomplete, hget⟩ := IsComplete.empty.foldl_insert steps
  have hempty : ∀ t, empty.get t = none := by
    intro t
    cases t <;> rfl
  refine ⟨hcomplete, fun t => ?_⟩
  rw [← hempty t]
  exact hget t

/-- The table after a run says of a content type what the run leaves for it. -/
theorem get_ofEntries_eq_iff : (ofEntries steps).get t = id? ↔ LastEntry steps t id? := by
  rw [(ofEntries_spec steps).2]
  constructor
  · rintro rfl
    cases hfind : steps.reverse.find? fun e => e.1 = t with
    | none => exact .untouched (by simpa using hfind)
    | some e =>
      obtain ⟨hkey, back, front, hsplit, hback⟩ := List.find?_eq_some_iff_append.1 hfind
      obtain rfl : e.1 = t := by simpa using hkey
      have hsteps : steps = front.reverse ++ e :: back.reverse := by
        rw [← List.reverse_reverse steps, hsplit]
        simp
      exact .inserted hsteps (by simpa using hback)
  · intro h
    cases h with
    | @inserted front back id? hsplit hlast =>
      have hreverse : steps.reverse = back.reverse ++ (t, id?) :: front.reverse := by simp [hsplit]
      have hback : ∀ e ∈ back.reverse, (!decide (e.1 = t)) = true := by simpa using hlast
      have hfind : (steps.reverse.find? fun e => e.1 = t) = some (t, id?) :=
        List.find?_eq_some_iff_append.2
          ⟨decide_eq_true rfl, back.reverse, front.reverse, hreverse, hback⟩
      rw [hfind, Option.map_some, Option.getD_some]
    | untouched hnone =>
      have hfind : (steps.reverse.find? fun e => e.1 = t) = none := by simpa using hnone
      rw [hfind, Option.map_none, Option.getD_none]

/-- How a table shows what a run of insertions leaves. -/
structure Shows (steps : List (ContentType × Option LibraryId)) (table : LibraryTable) :
    Prop where
  /-- Each content type has one entry. -/
  once : ∀ t, (table.entries.map Prod.fst).count t = 1
  /-- The entries stand in the fixed order and are what the table says of the content types. -/
  entries : table.entries = ContentType.all.map fun t => (t, table.get t)
  /-- The table says of a content type what the run leaves for it. -/
  get : ∀ t id?, table.get t = id? ↔ LastEntry steps t id?
  /-- The content types that no library provides are those whose entries have none, in the order of
  the entries. -/
  unavailable : table.unavailable = (table.entries.filter fun e => e.2 = none).map Prod.fst
  /-- No library provides a content type when the run leaves none for it. -/
  missing : ∀ t, t ∈ table.unavailable ↔ LastEntry steps t none
  /-- The rich text library provides text when the run leaves a library of its name for text. -/
  advancedText : table.advancedText = true ↔
    ∃ id, LastEntry steps .text (some id) ∧ id.name = "H5P.AdvancedText"

/-- After any run of insertions the table has one entry for each content type, in the fixed order:
what was inserted last for it, or else that no library provides it. Everything that can be read off
the table agrees with this. -/
theorem ofEntries_shows (steps : List (ContentType × Option LibraryId)) :
    Shows steps (ofEntries steps) := by
  have hcomplete : (ofEntries steps).IsComplete := (ofEntries_spec steps).1
  constructor
  case once =>
    intro t
    rw [hcomplete.types]
    exact List.count_eq_one_of_mem ContentType.nodup_all (ContentType.mem_all t)
  case entries => exact hcomplete.entries_eq
  case get => exact fun t id? => get_ofEntries_eq_iff
  case unavailable => exact hcomplete.unavailable_eq
  case missing =>
    intro t
    rw [unavailable, List.mem_filter, Option.isNone_iff_eq_none, get_ofEntries_eq_iff]
    exact and_iff_right (ContentType.mem_all t)
  case advancedText =>
    simp only [hcomplete.advancedText, isAdvanced_iff, get_ofEntries_eq_iff]

/-- The rich text library no longer provides text when another library was inserted for it. -/
example : (ofEntries [(.text, some ⟨"H5P.AdvancedText", 1, 1⟩), (.video, none),
    (.text, some ⟨"H5P.Text", 1, 1⟩)]).advancedText = false := by decide

end InteractiveBook.Library.LibraryTable
