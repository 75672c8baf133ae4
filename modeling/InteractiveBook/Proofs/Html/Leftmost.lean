import InteractiveBook.Html.Postprocess
import InteractiveBook.Proofs.Html.Tag

/-!
# What is replaced and what stays

A text has one cut at its leftmost tags: gaps in which no tag begins, and a tag behind each of them.
Replacing puts something made of the tag alone in the place of each tag and leaves the gaps. So what
is prepared for a book is changed at its image and table tags only, and is never blank.
-/

namespace InteractiveBook.Html

variable {kind : TagKind}

/-! ### The cut of a text at its tags -/

/-- A text begins with a tag of a kind. -/
def BeginsTag (kind : TagKind) (cs : List Char) : Prop :=
  ∃ m : TagMatch, m.IsOf kind ∧ m.written <+: cs

/-- A text has a tag of a kind somewhere. -/
def HasTag (kind : TagKind) (cs : List Char) : Prop := ∃ s, s <:+ cs ∧ BeginsTag kind s

/-- No tag of a kind begins in a gap that is followed by a text. -/
def IsFree (kind : TagKind) (gap rest : List Char) : Prop :=
  ∀ s, s <:+ gap → s ≠ [] → ¬BeginsTag kind (s ++ rest)

/-- A text cut at its leftmost tags: the gaps with the tags behind them, and what comes last. -/
inductive LeftmostCut (kind : TagKind) :
    List Char → List (List Char × TagMatch) → List Char → Prop
  /-- No tag begins in what comes last. -/
  | last {rest : List Char} (hrest : IsFree kind rest []) : LeftmostCut kind rest [] rest
  /-- The first tag is taken whole, and the rest is cut from behind it. -/
  | tag {gap rest last : List Char} {m : TagMatch} {parts : List (List Char × TagMatch)}
      (hgap : IsFree kind gap (m.written ++ rest)) (hm : m.IsOf kind)
      (hrest : LeftmostCut kind rest parts last) :
      LeftmostCut kind (gap ++ (m.written ++ rest)) ((gap, m) :: parts) last

/-- A tag is looked for and not found where none begins. -/
theorem tagAt?_eq_none_iff {cs : List Char} : tagAt? kind cs = none ↔ ¬BeginsTag kind cs := by
  rw [Option.eq_none_iff_forall_ne_some]
  constructor
  · rintro h ⟨m, hm, rest, rfl⟩
    exact h m (hm.tagAt? rest)
  · rintro h m hfound
    obtain ⟨hm, rest, rfl⟩ := tagAt?_eq_some_iff.1 hfound
    exact h ⟨m, hm, rest, rfl⟩

/-- Nothing begins in an empty gap. -/
theorem isFree_nil (rest : List Char) : IsFree kind [] rest :=
  fun _ hs hne => absurd (List.suffix_nil.1 hs) hne

/-- No tag begins in a gap when none begins at its first character and none behind it. -/
theorem isFree_cons {c : Char} {gap rest : List Char} :
    IsFree kind (c :: gap) rest ↔
      tagAt? kind (c :: (gap ++ rest)) = none ∧ IsFree kind gap rest := by
  rw [tagAt?_eq_none_iff]
  constructor
  · intro h
    exact ⟨h (c :: gap) (List.suffix_refl _) (List.cons_ne_nil _ _),
      fun s hs => h s (hs.trans (List.suffix_cons c gap))⟩
  · rintro ⟨hfirst, hgap⟩ s hs hne
    rcases List.suffix_cons_iff.1 hs with rfl | hs
    · exact hfirst
    · exact hgap s hs hne

/-- A tag of a text begins at its first character or behind it. -/
theorem hasTag_cons {c : Char} {cs : List Char} :
    HasTag kind (c :: cs) ↔ BeginsTag kind (c :: cs) ∨ HasTag kind cs := by
  constructor
  · rintro ⟨s, hs, hbegins⟩
    rcases List.suffix_cons_iff.1 hs with rfl | hs
    · exact .inl hbegins
    · exact .inr ⟨s, hs, hbegins⟩
  · rintro (hbegins | ⟨s, hs, hbegins⟩)
    · exact ⟨c :: cs, List.suffix_refl _, hbegins⟩
    · exact ⟨s, hs.trans (List.suffix_cons c cs), hbegins⟩

/-- A text has tags exactly when some are found. -/
theorem tagsIn_eq_nil_iff {cs : List Char} : tagsIn kind cs = [] ↔ ¬HasTag kind cs := by
  induction cs using pieces_induction kind with
  | nil =>
    refine iff_of_true rfl ?_
    rintro ⟨s, hs, m, hm, hwritten⟩
    rw [List.suffix_nil.1 hs, List.prefix_nil] at hwritten
    simp [TagMatch.written] at hwritten
  | tag m rest hm _ =>
    rw [tagsIn_tag hm]
    refine iff_of_false (List.cons_ne_nil _ _) (not_not_intro ?_)
    exact ⟨_, List.suffix_refl _, m, hm, rest, rfl⟩
  | plain c rest hnone ih =>
    rw [tagsIn_plain hnone, ih, hasTag_cons, or_iff_right (tagAt?_eq_none_iff.1 hnone)]

/-- A text without tags is free of them. -/
theorem isFree_of_not_hasTag {cs : List Char} (h : ¬HasTag kind cs) : IsFree kind cs [] := by
  intro s hs _ hbegins
  rw [List.append_nil] at hbegins
  exact h ⟨s, hs, hbegins⟩

/-! ### The pieces of a text as a cut -/

/-- A gap put in front of a cut. -/
def pushGap (gap : List Char) :
    List (List Char × TagMatch) × List Char → List (List Char × TagMatch) × List Char
  | ([], last) => ([], gap ++ last)
  | ((first, m) :: parts, last) => ((gap ++ first, m) :: parts, last)

/-- The cut that pieces make: characters between tags are put together to gaps. -/
def gaps : List Piece → List (List Char × TagMatch) × List Char
  | [] => ([], [])
  | .plain c :: ps => pushGap [c] (gaps ps)
  | .tag m :: ps => (([], m) :: (gaps ps).1, (gaps ps).2)

/-- Two gaps are put in front one after the other. -/
theorem pushGap_append (front gap : List Char) (cut : List (List Char × TagMatch) × List Char) :
    pushGap (front ++ gap) cut = pushGap front (pushGap gap cut) := by
  obtain ⟨parts, last⟩ := cut
  cases parts <;> simp [pushGap]

/-- Characters in front of pieces make a gap. -/
theorem gaps_plain (gap : List Char) (ps : List Piece) :
    gaps (gap.map .plain ++ ps) = pushGap gap (gaps ps) := by
  induction gap with
  | nil =>
    rw [List.map_nil, List.nil_append]
    obtain ⟨parts, last⟩ := gaps ps
    cases parts <;> rfl
  | cons c gap ih =>
    rw [List.map_cons, List.cons_append, gaps, ih, ← pushGap_append, List.singleton_append]

/-- The characters of a gap are pieces of their own. -/
theorem pieces_append {gap rest : List Char} (h : IsFree kind gap rest) :
    pieces kind 0 (gap ++ rest) = gap.map .plain ++ pieces kind 0 rest := by
  induction gap with
  | nil => rfl
  | cons c gap ih =>
    obtain ⟨hfirst, hgap⟩ := isFree_cons.1 h
    rw [List.cons_append, pieces_plain hfirst, ih hgap, List.map_cons, List.cons_append]

/-- A character at which no tag begins can be put in front of a cut. -/
theorem LeftmostCut.cons {c : Char} {cs last : List Char} {parts : List (List Char × TagMatch)}
    (h : LeftmostCut kind cs parts last) (hc : tagAt? kind (c :: cs) = none) :
    LeftmostCut kind (c :: cs) (pushGap [c] (parts, last)).1 (pushGap [c] (parts, last)).2 := by
  cases h with
  | last hrest => exact .last (isFree_cons.2 ⟨by rwa [List.append_nil], hrest⟩)
  | tag hgap hm hrest => exact .tag (isFree_cons.2 ⟨hc, hgap⟩) hm hrest

/-- The pieces of a text make a cut of it. -/
theorem leftmostCut_gaps (kind : TagKind) (cs : List Char) :
    LeftmostCut kind cs (gaps (pieces kind 0 cs)).1 (gaps (pieces kind 0 cs)).2 := by
  induction cs using pieces_induction kind with
  | nil => exact .last (isFree_nil [])
  | tag m rest hm ih =>
    rw [pieces_tag hm]
    exact .tag (isFree_nil _) hm ih
  | plain c rest hnone ih =>
    rw [pieces_plain hnone]
    exact ih.cons hnone

/-- A text has one cut at its leftmost tags, and its pieces make it. -/
theorem leftmostCut_iff {cs last : List Char} {parts : List (List Char × TagMatch)} :
    LeftmostCut kind cs parts last ↔ (parts, last) = gaps (pieces kind 0 cs) := by
  constructor
  · intro h
    induction h with
    | @last rest hrest =>
      have hpieces := pieces_append hrest
      rw [List.append_nil] at hpieces
      rw [hpieces, gaps_plain]
      simp [pieces, gaps, pushGap]
    | tag hgap hm _ ih =>
      rw [pieces_append hgap, gaps_plain, pieces_tag hm, gaps, ← ih]
      simp [pushGap]
  · intro h
    obtain ⟨rfl, rfl⟩ := Prod.mk.inj h
    exact leftmostCut_gaps kind cs

/-! ### Replacing in a cut -/

variable {replacement : TagMatch → List Char}

/-- What pieces are replaced with is what the tags of their cut are replaced with. -/
theorem flatMap_replaced (replacement : TagMatch → List Char) (ps : List Piece) :
    ps.flatMap (Piece.replaced replacement) =
      (gaps ps).1.flatMap (fun p => p.1 ++ replacement p.2) ++ (gaps ps).2 := by
  induction ps with
  | nil => rfl
  | cons p ps ih =>
    rw [List.flatMap_cons, ih]
    cases p with
    | plain c =>
      rw [gaps]
      obtain ⟨parts, last⟩ := gaps ps
      cases parts <;> simp [pushGap, Piece.replaced]
    | tag m => simp [gaps, Piece.replaced]

/-- Replacing the tags of a text replaces those of its one cut and leaves the gaps. -/
theorem exists_cut_replaceTags (kind : TagKind) (replacement : TagMatch → List Char)
    (cs : List Char) : ∃ parts last,
      (∀ parts' last', LeftmostCut kind cs parts' last' ↔ parts' = parts ∧ last' = last) ∧
      replaceTags kind replacement 0 cs =
        parts.flatMap (fun p => p.1 ++ replacement p.2) ++ last := by
  refine ⟨(gaps (pieces kind 0 cs)).1, (gaps (pieces kind 0 cs)).2, fun parts' last' => ?_, ?_⟩
  · rw [leftmostCut_iff, ← Prod.mk.injEq]
  · rw [replaceTags_eq, flatMap_replaced]

/-- A text without tags of a kind is left as it is. -/
theorem replaceTags_of_not_hasTag {cs : List Char} (h : ¬HasTag kind cs) :
    replaceTags kind replacement 0 cs = cs := by
  have hpieces := pieces_append (isFree_of_not_hasTag h)
  rw [List.append_nil] at hpieces
  rw [replaceTags_eq, hpieces, pieces, List.append_nil, List.flatMap_map]
  exact List.flatMap_pure_eq_map _ _ |>.trans (List.map_id _)

/-- Images are replaced at the leftmost image tags, each by one placeholder that is made of the tag
alone, and tables are classified at the leftmost table tags; between the tags nothing changes. What
is prepared for a book is left as it is when it has neither kind of tag and something to show, and
is never blank. -/
theorem postprocess_at_tags (html : String) :
    (∃ parts last,
      (∀ parts' last', LeftmostCut .image html.toList parts' last' ↔
        parts' = parts ∧ last' = last) ∧
      (replaceImages html).toList = parts.flatMap (fun p =>
        p.1 ++ (imagePlaceholder (String.ofList (imageName p.2))).toList) ++ last) ∧
    (∃ parts last,
      (∀ parts' last', LeftmostCut .table html.toList parts' last' ↔
        parts' = parts ∧ last' = last) ∧
      (addTableClasses html).toList =
        parts.flatMap (fun p => p.1 ++ classifyTable p.2) ++ last) ∧
    (Text.isBlank html = false → ¬HasTag .image html.toList → ¬HasTag .table html.toList →
      postprocess html = html) ∧
    Text.isBlank (postprocess html) = false := by
  refine ⟨?_, ?_, ?_, ?_⟩
  · rw [replaceImages, String.toList_ofList]
    exact exists_cut_replaceTags .image replaceImage html.toList
  · rw [addTableClasses, String.toList_ofList]
    exact exists_cut_replaceTags .table classifyTable html.toList
  · intro hshown himage htable
    have himages : replaceImages html = html := by
      rw [replaceImages, replaceTags_of_not_hasTag himage, String.ofList_toList]
    have htables : addTableClasses html = html := by
      rw [addTableClasses, replaceTags_of_not_hasTag htable, String.ofList_toList]
    rw [postprocess, himages, htables, nonEmpty, hshown]
    rfl
  · rw [postprocess, nonEmpty]
    split
    · decide
    · next hshown => simpa using hshown

/-- A text with almost tags: longer names, spaces before the name, and an image that is not closed.
-/
def nearlyTagged : String := "<p><imgs> <TABLES> < img> <img src=\"a.png\""

/-- It is left as it is. -/
theorem nearlyTagged_untouched : Text.isBlank nearlyTagged = false ∧
    ¬HasTag .image nearlyTagged.toList ∧ ¬HasTag .table nearlyTagged.toList ∧
    postprocess nearlyTagged = nearlyTagged := by
  have hshown : Text.isBlank nearlyTagged = false := by decide
  have hfound : (tagsIn .image nearlyTagged.toList).length = 0 ∧
      (tagsIn .table nearlyTagged.toList).length = 0 := by decide +kernel
  have himage := tagsIn_eq_nil_iff.1 (List.length_eq_zero_iff.1 hfound.1)
  have htable := tagsIn_eq_nil_iff.1 (List.length_eq_zero_iff.1 hfound.2)
  exact ⟨hshown, himage, htable, (postprocess_at_tags nearlyTagged).2.2.1 hshown himage htable⟩

end InteractiveBook.Html
