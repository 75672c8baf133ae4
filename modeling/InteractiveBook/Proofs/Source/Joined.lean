import InteractiveBook.Proofs.Source.Chapters
import InteractiveBook.Proofs.Text.LineEnds

/-!
# Sources that are put together

The chapters of a source depend on its lines alone, so it does not matter how these are terminated.
A heading starts afresh: when a source is put together from two texts, and the second one starts
with a heading, the chapters of the first text are followed by those of the second one.
-/

namespace InteractiveBook.Source

open Text

/-! ### The terminators of a source -/

/-- Sources with the same lines are decoded to the same chapters. -/
theorem decodeSource_congr {source source' : String}
    (h : sourceLines source = sourceLines source') : decodeSource source = decodeSource source' := by
  have hchapters : chaptersOf source = chaptersOf source' :=
    congrArg (fun ls => (ls.foldl Splitting.step .start).finish) h
  rw [decodeSource, decodeSource, splitChapters, splitChapters, hchapters]

/-- The lines of a source are decoded to the same chapters whatever terminators they have, as long
as these can be told apart. -/
theorem decodeSource_writeLines {ls : List (String × LineEnd)} {last : String}
    (hbare : ∀ l ∈ ls, IsBare l.1) (hlast : IsBare last) (hapart : AreApart ls) :
    decodeSource (writeLines ls last) =
      decodeSource (feedLines (ls.map Prod.fst ++ openLine last)) := by
  have hlines : ∀ line ∈ ls.map Prod.fst ++ openLine last, IsBare line := by
    intro line hline
    rcases List.mem_append.1 hline with hline | hline
    · obtain ⟨l, hl, rfl⟩ := List.mem_map.1 hline
      exact hbare l hl
    · rw [openLine] at hline
      split at hline
      · cases hline
      · exact List.mem_singleton.1 hline ▸ hlast
  apply decodeSource_congr
  rw [sourceLines_writeLines hbare hlast hapart, sourceLines_feedLines hlines]

/-- Lines with each kind of terminator, where an empty line stands between two returns and a line
feed, and a last line that is left open. -/
def mixedLines : List (String × LineEnd) :=
  [("# A", .both), ("x", .carriageReturn), ("", .both), ("", .lineFeed), ("[QUIZ]", .carriageReturn)]

/-- The chapter has its blocks whichever terminators were written. -/
theorem mixedLines_decoded : (∀ l ∈ mixedLines, IsBare l.1) ∧ IsBare "? q" ∧ AreApart mixedLines ∧
    writeLines mixedLines "? q" = "# A\r\nx\r\r\n\n[QUIZ]\r? q" ∧
    decodeSource "# A\r\nx\r\r\n\n[QUIZ]\r? q" = decodeSource "# A\nx\n\n\n[QUIZ]\n? q\n" := by
  have hbare : ∀ l ∈ mixedLines, IsBare l.1 := by decide
  have hlast : IsBare "? q" := by decide
  have hapart : AreApart mixedLines := by decide
  have hwritten : writeLines mixedLines "? q" = "# A\r\nx\r\r\n\n[QUIZ]\r? q" := by decide
  have hfed : feedLines (mixedLines.map Prod.fst ++ openLine "? q") =
      "# A\nx\n\n\n[QUIZ]\n? q\n" := by decide
  refine ⟨hbare, hlast, hapart, hwritten, ?_⟩
  rw [← hwritten, ← hfed]
  exact decodeSource_writeLines hbare hlast hapart

/-! ### A heading starts afresh -/

/-- A text that starts with a heading. -/
def StartsWithHeading (source : String) : Prop := "# ".toList <+: source.toList

instance : DecidablePred StartsWithHeading := fun source =>
  inferInstanceAs (Decidable ("# ".toList <+: source.toList))

/-- The first line of a text that starts with a heading is that heading. -/
theorem sourceLines_of_startsWithHeading {source : String} (h : StartsWithHeading source) :
    ∃ heading rest, sourceLines source = heading :: rest ∧ IsHeading heading := by
  obtain ⟨behind, hsource⟩ := h
  have hnormal : (normalizeLineEndings source).toList = '#' :: ' ' :: normalizeChars behind := by
    rw [normalizeLineEndings, String.toList_ofList, ← hsource]
    exact normalizeChars_append_of_not_mem (by decide) behind
  have hlines : IsLines (normalizeLineEndings source) (sourceLines source) := isLines_iff.2 rfl
  have hterminated : ∃ tail, terminated (normalizeLineEndings source).toList = '#' :: ' ' :: tail := by
    rw [hnormal, terminated]
    split
    · exact ⟨_, rfl⟩
    · exact ⟨_, rfl⟩
  obtain ⟨tail, htail⟩ := hterminated
  have hwhole := hlines.whole.trans htail
  cases hcut : sourceLines source with
  | nil =>
    rw [hcut] at hwhole
    cases hwhole
  | cons heading rest =>
    refine ⟨heading, rest, rfl, ?_⟩
    rw [hcut] at hwhole
    have hfirst : heading.toList ++ '\n' :: closePieces '\n' (rest.map String.toList) =
        '#' :: ' ' :: tail := by
      simpa [closePieces] using hwhole
    -- The line is not over before the space, since that would take a line feed.
    rw [IsHeading]
    rcases hchars : heading.toList with _ | ⟨c, _ | ⟨d, more⟩⟩
    · simp [hchars] at hfirst
    · simp [hchars] at hfirst
    · obtain ⟨rfl, rfl, -⟩ : c = '#' ∧ d = ' ' ∧ _ := by simpa [hchars] using hfirst
      exact ⟨more, rfl⟩

/-- Lines behind a heading are cut into the same sections whatever comes before it. -/
theorem cutLines_append {heading : String} (h : IsHeading heading) (front rest : List String) :
    cutLines (front ++ heading :: rest) =
      ((cutLines front).1, (cutLines front).2 ++ (cutLines (heading :: rest)).2) := by
  induction front with
  | nil =>
    rw [List.nil_append, cutLines_heading h]
    rfl
  | cons line front ih =>
    rw [List.cons_append]
    by_cases hline : IsHeading line
    · rw [cutLines_heading hline, cutLines_heading hline, ih, List.cons_append]
    · rw [cutLines_plain hline, cutLines_plain hline, ih]

/-- Behind a terminator a heading starts afresh: the chapters before it and those from it on are
what either text has by itself. -/
theorem chaptersOf_append {front rest : String} (hfront : IsClosed front)
    (hrest : StartsWithHeading rest) :
    chaptersOf (front ++ rest) = chaptersOf front ++ chaptersOf rest := by
  have hhead : rest.toList.head? ≠ some '\n' := by
    obtain ⟨behind, hbehind⟩ := hrest
    have hsign : ("# ".toList ++ behind).head? = some '#' := rfl
    rw [← hbehind, hsign]
    decide
  obtain ⟨heading, ls, hlines, hheading⟩ := sourceLines_of_startsWithHeading hrest
  have hchapters (source : String) : chaptersOf source =
      keptChapters (cutLines (sourceLines source)).1 (cutLines (sourceLines source)).2 :=
    chaptersOf_eq source
  have hlead : introduction? [] = none := if_pos (by simp [IsBlankBody])
  rw [hchapters, hchapters front, hchapters rest, sourceLines_append hfront hhead, hlines,
    cutLines_append hheading, cutLines_heading hheading, keptChapters, keptChapters, keptChapters,
    List.filterMap_append, hlead]
  simp

end InteractiveBook.Source
