import InteractiveBook.Library.Table

/-!
# Entries of library tables

A table that starts with an entry for every content type has one for every content type after any
run of insertions. An insertion changes what the table says of one content type, and whether text is
provided by the rich text library is always what the entry for text says.
-/

namespace InteractiveBook.Library.LibraryTable

/-- What holds of every table: it has one entry for each content type, in the fixed order, and says
of the rich text library what its entry for text says. -/
structure IsComplete (table : LibraryTable) : Prop where
  /-- There is one entry for each content type, in the fixed order. -/
  types : table.entries.map Prod.fst = ContentType.all
  /-- The rich text library provides text when the entry for text says so. -/
  advancedText : table.advancedText = isAdvanced (table.get .text)

/-- The table without libraries is complete. -/
theorem IsComplete.empty : empty.IsComplete := by
  constructor <;> decide

/-- Inserting keeps the content types that have an entry. -/
theorem map_fst_insert (table : LibraryTable) (t : ContentType) (id? : Option LibraryId) :
    (table.insert t id?).entries.map Prod.fst = table.entries.map Prod.fst := by
  rw [insert, List.map_map]
  refine List.map_congr_left fun e _ => ?_
  rw [Function.comp_apply]
  split
  · next heq => exact heq.symm
  · rfl

/-- Inserting changes what a complete table says of one content type. -/
theorem IsComplete.get_insert {table : LibraryTable} (h : table.IsComplete) (t u : ContentType)
    (id? : Option LibraryId) :
    (table.insert t id?).get u = if u = t then id? else table.get u := by
  have hmem : u ∈ table.entries.map Prod.fst := h.types ▸ ContentType.mem_all u
  have hfind : ∀ es : List (ContentType × Option LibraryId), u ∈ es.map Prod.fst →
      (es.map fun e => if e.1 = t then (t, id?) else e).find? (fun e => e.1 = u) =
        if u = t then some (t, id?) else es.find? fun e => e.1 = u := by
    intro es
    induction es with
    | nil => exact fun hnil => by cases hnil
    | cons e es ih =>
      intro hu
      rw [List.map_cons]
      by_cases he : e.1 = u
      · subst he
        by_cases ht : e.1 = t
        · rw [if_pos ht, if_pos ht, List.find?_cons_of_pos (by simp [ht])]
        · rw [if_neg ht, if_neg ht, List.find?_cons_of_pos (by simp),
            List.find?_cons_of_pos (by simp)]
      · have hrest : u ∈ es.map Prod.fst := (List.mem_cons.1 hu).resolve_left fun h => he h.symm
        have hskip : ¬(if e.1 = t then (t, id?) else e).1 = u := by
          split
          · next ht => exact fun h => he (ht.trans h)
          · exact he
        rw [List.find?_cons_of_neg (by simpa using hskip),
          List.find?_cons_of_neg (by simpa using he), ih hrest]
  rw [get, insert, hfind _ hmem, get]
  by_cases ht : u = t
  · rw [if_pos ht, if_pos ht]
  · rw [if_neg ht, if_neg ht]

/-- A table stays complete when an entry is inserted. -/
theorem IsComplete.insert {table : LibraryTable} (h : table.IsComplete) (t : ContentType)
    (id? : Option LibraryId) : (table.insert t id?).IsComplete := by
  refine ⟨(map_fst_insert table t id?).trans h.types, ?_⟩
  rw [h.get_insert]
  by_cases ht : t = .text
  · rw [if_pos ht.symm, LibraryTable.insert, if_pos ht]
  · rw [if_neg fun heq => ht heq.symm, LibraryTable.insert, if_neg ht, h.advancedText]

/-- A table to which entries are added one by one stays complete, and says of a content type what
the last entry for it says, or else what it said before. -/
theorem IsComplete.foldl_insert {table : LibraryTable} (h : table.IsComplete)
    (entries : List (ContentType × Option LibraryId)) :
    (entries.foldl (fun table e => table.insert e.1 e.2) table).IsComplete ∧
      ∀ u, (entries.foldl (fun table e => table.insert e.1 e.2) table).get u =
        ((entries.reverse.find? fun e => e.1 = u).map Prod.snd).getD (table.get u) := by
  induction entries generalizing table with
  | nil => exact ⟨h, fun u => rfl⟩
  | cons e entries ih =>
    obtain ⟨hcomplete, hget⟩ := ih (h.insert e.1 e.2)
    refine ⟨hcomplete, fun u => ?_⟩
    rw [List.foldl_cons, hget, h.get_insert, List.reverse_cons, List.find?_append]
    cases entries.reverse.find? fun e => e.1 = u with
    | some found => rfl
    | none =>
      by_cases hu : u = e.1
      · simp [hu]
      · simp [hu, Ne.symm hu]

end InteractiveBook.Library.LibraryTable
