import InteractiveBook.Proofs.Source.Spans

/-!
# The blocks of a body are its spans

Cutting a body into blocks leaves one block for each of its spans that has one, so that besides
tag lines and blank runs of prose no line is lost, moved or doubled. The lists of blocks that are
left are those in which every block is well formed, and each of them is left again by what it is
written as.
-/

namespace InteractiveBook.Source

variable {kind : BlockKind} {seen body rest ls : List String} {line : String} {span : Span}
  {spans : List Span}

/-! ### Running over a body -/

/-- A line that ends a block of a kind: any tag line, and in prose also an image. -/
def Ends (kind : BlockKind) (line : String) : Prop := IsTag line ∨ kind = .text ∧ HoldsImage line

/-- A finished block that is not prose is kept. -/
theorem close_of_ne (h : kind ≠ .text) : Block.close ⟨kind, body⟩ = [⟨kind, body⟩] := by
  simp [Block.close, h]

/-- Finished prose is kept unless it is blank. -/
theorem close_text (body : List String) :
    Block.close ⟨.text, body⟩ = if IsBlankBody body then [] else [⟨.text, body⟩] := by
  simp [Block.close, isBlank_iff]

/-- A tag line finishes the block in progress. -/
theorem segmentFrom_tag {next : BlockKind} (h : Announces line next) :
    segmentFrom kind seen (line :: rest) =
      Block.close ⟨kind, seen.reverse⟩ ++ segmentFrom next [] rest := by
  rw [segmentFrom, announces_iff.1 h]

/-- An image in prose finishes it and is a block. -/
theorem segmentFrom_image (h : HoldsImage line) :
    segmentFrom .text seen (line :: rest) =
      Block.close ⟨.text, seen.reverse⟩ ++ ⟨.image, [line]⟩ :: segment rest := by
  have hline : BlockKind.ofTag? line = none :=
    ofTag?_eq_none_iff.2 fun htag => not_holdsImage_of_isTag htag h
  rw [segmentFrom, hline]
  exact if_pos ⟨rfl, h⟩

/-- Any other line goes on with the block in progress. -/
theorem segmentFrom_other (h : ¬Ends kind line) :
    segmentFrom kind seen (line :: rest) = segmentFrom kind (line :: seen) rest := by
  obtain ⟨htag, himage⟩ := not_or.1 h
  rw [segmentFrom, ofTag?_eq_none_iff.2 htag]
  exact if_neg himage

/-- The lines that go on with a block are gathered in it. -/
theorem segmentFrom_append (hbody : ∀ l ∈ body, ¬Ends kind l) :
    segmentFrom kind seen (body ++ rest) = segmentFrom kind (body.reverse ++ seen) rest := by
  induction body generalizing seen with
  | nil => rfl
  | cons line body ih =>
    obtain ⟨hline, hmore⟩ := List.forall_mem_cons.1 hbody
    rw [List.cons_append, segmentFrom_other hline, ih hmore]
    simp

/-- A block ends before a line that ends it, or with the body. What follows is cut on its own. -/
theorem segmentFrom_of_ends (hend : ∀ l ∈ rest.head?, Ends kind l) :
    segmentFrom kind seen rest = Block.close ⟨kind, seen.reverse⟩ ++ segment rest := by
  have hempty : Block.close ⟨.text, ([] : List String).reverse⟩ = [] := rfl
  cases rest with
  | nil => rw [segment_nil, List.append_nil, segmentFrom]
  | cons line rest =>
    rcases hend line (by simp) with ⟨next, hnext⟩ | ⟨rfl, himage⟩
    · rw [segment, segmentFrom_tag hnext, segmentFrom_tag hnext, hempty, List.nil_append]
    · rw [segment, segmentFrom_image himage, segmentFrom_image himage, hempty, List.nil_append]

/-- A block in progress takes the lines up to the one that ends it. -/
theorem segmentFrom_body (hbody : ∀ l ∈ body, ¬Ends kind l)
    (hend : ∀ l ∈ rest.head?, Ends kind l) :
    segmentFrom kind [] (body ++ rest) = Block.close ⟨kind, body⟩ ++ segment rest := by
  rw [segmentFrom_append hbody, segmentFrom_of_ends hend, List.append_nil, List.reverse_reverse]

/-! ### Blocks and spans -/

namespace Span

/-- The block that a span leaves: a run leaves one unless it is blank. -/
def block? : Span → Option Block
  | prose _ => none
  | tagged _ kind body => some ⟨kind, body⟩
  | image line => some ⟨.image, [line]⟩
  | run lines => if IsBlankBody lines then none else some ⟨.text, lines⟩

/-- The tag line of a span. -/
def tag? : Span → Option String
  | prose tag => some tag
  | tagged tag _ _ => some tag
  | _ => none

/-- The lines of a blank run of prose. -/
def blanks : Span → List String
  | run lines => if IsBlankBody lines then lines else []
  | _ => []

end Span

/-- The block of a span comes first, and what stands behind the span is cut on its own. -/
theorem Span.Stands.segment_append (h : span.Stands rest) :
    segment (span.lines ++ rest) = span.block?.toList ++ segment rest := by
  cases span with
  | prose tag =>
    have htag : Announces tag .text := h
    rw [segment, Span.lines, List.singleton_append, segmentFrom_tag htag]
    rfl
  | tagged tag kind body =>
    obtain ⟨htag, hkind, hbody, hend⟩ := h
    have hstay : ∀ l ∈ body, ¬Ends kind l := fun l hl => by simpa [Ends, hkind] using hbody l hl
    have hstop : ∀ l ∈ rest.head?, Ends kind l := fun l hl => .inl (hend l hl)
    rw [segment, Span.lines, List.cons_append, segmentFrom_tag htag,
      segmentFrom_body hstay hstop, close_of_ne hkind]
    rfl
  | image line =>
    have himage : HoldsImage line := h
    rw [segment, Span.lines, List.singleton_append, segmentFrom_image himage]
    rfl
  | run lines =>
    obtain ⟨-, hlines, hend⟩ := h
    have hstay : ∀ l ∈ lines, ¬Ends .text l := fun l hl => by
      simpa [Ends, IsPlain] using hlines l hl
    have hstop : ∀ l ∈ rest.head?, Ends .text l := fun l hl => by
      simpa [Ends, IsPlain, or_iff_not_imp_left] using hend l hl
    rw [segment, Span.lines, segmentFrom_body hstay hstop, close_text, Span.block?]
    split <;> rfl

/-- The blocks of a body are those of the spans in which it is read. -/
theorem IsReading.segment_eq (h : IsReading ls spans) :
    segment ls = spans.filterMap Span.block? := by
  induction spans generalizing ls with
  | nil =>
    have hnil : ls = [] := h
    rw [hnil, segment_nil, List.filterMap_nil]
  | cons span spans ih =>
    obtain ⟨rest, rfl, hspan, hspans⟩ := h
    rw [hspan.segment_append, ih hspans]
    cases hblock : span.block? with
    | none => rw [List.filterMap_cons_none hblock]; rfl
    | some b => rw [List.filterMap_cons_some hblock]; rfl

/-! ### Every line is accounted for -/

/-- How a body and the blocks that it is cut into account for one another, by the spans in which
the body is read. -/
structure Accounts (ls : List String) (spans : List Span) (blocks : List Block) : Prop where
  /-- The body is read in these spans and in no other way. -/
  reading : ∀ spans', IsReading ls spans' ↔ spans' = spans
  /-- Each span leaves its block, in order. -/
  leaves : blocks = spans.filterMap Span.block?
  /-- Each tag line of the body begins a span of its own, in order. -/
  tags : spans.filterMap Span.tag? = ls.filter fun line => IsTag line
  /-- A line that holds an image is a span of its own unless it stands below a tag line. -/
  images : ∀ span ∈ spans, ∀ line ∈ span.lines, HoldsImage line →
    span = .image line ∨ ∃ tag kind body, span = .tagged tag kind body
  /-- The body is made of its tag lines, its blank runs of prose and the lines of the blocks. -/
  whole : spans.flatMap (fun span => span.tag?.toList ++ span.blanks ++
    span.block?.toList.flatMap Block.lines) = ls
  /-- What can be read in the blocks is what can be read in the body outside its tag lines. -/
  readable : readable (blocks.flatMap Block.lines) = readable (ls.filter fun line => ¬IsTag line)

/-- The lines of a span are its tag line, those of a blank run and those of its block. -/
theorem Span.parts_eq_lines (span : Span) :
    span.tag?.toList ++ span.blanks ++ span.block?.toList.flatMap Block.lines = span.lines := by
  cases span with
  | run lines =>
    by_cases hblank : IsBlankBody lines <;>
      simp [Span.tag?, Span.blanks, Span.block?, Span.lines, hblank]
  | _ => simp [Span.tag?, Span.blanks, Span.block?, Span.lines]

/-- Of the lines of a span only its tag line is one. -/
theorem Span.Stands.filter_isTag (h : span.Stands rest) :
    span.lines.filter (fun line => IsTag line) = span.tag?.toList := by
  cases span with
  | prose tag =>
    have htag : IsTag tag := ⟨.text, h⟩
    simp [Span.lines, Span.tag?, htag]
  | tagged tag kind body =>
    have htag : IsTag tag := ⟨kind, h.1⟩
    have hbody : body.filter (fun line => IsTag line) = [] := by simpa using h.2.2.1
    simp [Span.lines, Span.tag?, htag, hbody]
  | image line =>
    have hline : ¬IsTag line := fun htag => not_holdsImage_of_isTag htag h
    simp [Span.lines, Span.tag?, hline]
  | run lines =>
    simpa [Span.lines, Span.tag?] using fun line hline => (h.2.1 line hline).1

/-- The other lines of a span that can be read are those of its block. -/
theorem Span.Stands.readable_block? (h : span.Stands rest) :
    readable (span.block?.toList.flatMap Block.lines) =
      readable (span.lines.filter fun line => ¬IsTag line) := by
  cases span with
  | prose tag =>
    have htag : IsTag tag := ⟨.text, h⟩
    simp [Span.lines, Span.block?, htag]
  | tagged tag kind body =>
    have htag : IsTag tag := ⟨kind, h.1⟩
    have hbody : body.filter (fun line => ¬IsTag line) = body := by
      rw [List.filter_eq_self]
      simpa using h.2.2.1
    rw [Span.lines, List.filter_cons_of_neg (by simpa using htag), hbody]
    simp [Span.block?]
  | image line =>
    have hline : ¬IsTag line := fun htag => not_holdsImage_of_isTag htag h
    simp [Span.lines, Span.block?, hline]
  | run lines =>
    have hlines : lines.filter (fun line => ¬IsTag line) = lines := by
      rw [List.filter_eq_self]
      simpa using fun line hline => (h.2.1 line hline).1
    rw [Span.lines, hlines, Span.block?]
    split
    · next hblank => rw [readable_of_isBlankBody hblank]; rfl
    · simp

/-- A span that holds an image is one or stands below a tag line. -/
theorem Span.Stands.image_or_tagged (h : span.Stands rest) (hline : line ∈ span.lines)
    (himage : HoldsImage line) :
    span = .image line ∨ ∃ tag kind body, span = .tagged tag kind body := by
  cases span with
  | prose tag =>
    rw [List.mem_singleton.1 hline] at himage
    exact absurd himage (not_holdsImage_of_isTag ⟨.text, h⟩)
  | tagged tag kind body => exact .inr ⟨tag, kind, body, rfl⟩
  | image image => exact .inl (by rw [List.mem_singleton.1 hline])
  | run lines => exact absurd himage (h.2.1 line hline).2

/-- Cutting a body into blocks loses, moves and doubles nothing: the body is read in one way as a
row of spans, and the blocks are what the spans leave. -/
theorem segment_accounts (ls : List String) : ∃ spans, Accounts ls spans (segment ls) := by
  obtain ⟨spans, hreading⟩ := exists_isReading ls
  have hstands := hreading.exists_stands
  have hlines := hreading.flatMap_lines
  have hblocks := hreading.segment_eq
  refine ⟨spans, ?reading, hblocks, ?tags, ?images, ?whole, ?readable⟩
  case reading =>
    exact fun spans' => ⟨fun h => hreading.unique h, fun h => h ▸ hreading⟩
  case tags =>
    have htags : ∀ span ∈ spans, span.lines.filter (fun line => IsTag line) = span.tag?.toList :=
      fun span hspan => (hstands span hspan).elim fun _ h => h.filter_isTag
    rw [← hlines, List.filter_flatMap, List.flatMap_congr htags, List.filterMap_eq_flatMap_toList]
  case images =>
    exact fun span hspan line hline himage =>
      (hstands span hspan).elim fun _ h => h.image_or_tagged hline himage
  case whole =>
    rw [List.flatMap_congr fun span _ => span.parts_eq_lines, hlines]
  case readable =>
    have hspan : ∀ span ∈ spans, readable (span.block?.toList.flatMap Block.lines) =
        readable (span.lines.filter fun line => ¬IsTag line) :=
      fun span hspan => (hstands span hspan).elim fun _ h => h.readable_block?
    rw [hblocks, ← hlines, List.filter_flatMap, List.filterMap_eq_flatMap_toList,
      List.flatMap_assoc, readable, readable, List.filter_flatMap, List.filter_flatMap]
    exact List.flatMap_congr hspan

/-- A quiz keeps its blank line and its image, an image in prose stands alone, and blank prose
leaves nothing. -/
example : segment ["", "[QUIZ]", "? q", "", "![a](b)", "[TEXT]", " ", "![a](b)", "x"] =
    [⟨.quiz, ["? q", "", "![a](b)"]⟩, ⟨.image, ["![a](b)"]⟩, ⟨.text, ["x"]⟩] := by
  decide +kernel

/-! ### Writing blocks -/

/-- What a block is like that a body can leave. Prose has something to read and neither tag lines
nor images, an image is one line, and any other block has no tag lines. -/
def Block.IsWellFormed (b : Block) : Prop :=
  match b.kind with
  | .text => ¬IsBlankBody b.lines ∧ ∀ line ∈ b.lines, ¬IsTag line ∧ ¬HoldsImage line
  | .image => ∃ line, b.lines = [line] ∧ HoldsImage line
  | _ => ∀ line ∈ b.lines, ¬IsTag line

/-- A block as it is written: its lines below the tag of its kind. -/
def Block.written (b : Block) : List String := b.kind.tag :: b.lines

/-- Blocks as they are written. -/
def writtenBlocks (blocks : List Block) : List String := blocks.flatMap Block.written

/-- The tag of a kind announces it. -/
theorem announces_tag (h : kind ≠ .image) : Announces kind.tag kind := by
  refine ⟨h, ?_⟩
  cases kind <;> decide +kernel

/-- What stands behind a written block begins with a tag line. -/
theorem isTag_of_mem_head?_writtenBlocks (blocks : List Block) :
    ∀ line ∈ (writtenBlocks blocks).head?, IsTag line := by
  cases blocks with
  | nil => simp [writtenBlocks]
  | cons b blocks =>
    intro line hline
    have htag : b.kind.tag = line := by simpa [writtenBlocks, Block.written] using hline
    rw [← htag]
    by_cases hkind : b.kind = .image
    · rw [hkind]
      exact ⟨.text, announces_tag (by decide)⟩
    · exact ⟨b.kind, announces_tag hkind⟩

/-- A block that is neither prose nor an image is well formed without tag lines. -/
theorem isWellFormed_iff_of_ne (htext : kind ≠ .text) (himage : kind ≠ .image) :
    Block.IsWellFormed ⟨kind, body⟩ ↔ ∀ line ∈ body, ¬IsTag line := by
  cases kind <;> simp_all [Block.IsWellFormed]

/-- A block of a body is well formed. -/
theorem Span.Stands.isWellFormed {b : Block} (h : span.Stands rest) (hb : span.block? = some b) :
    b.IsWellFormed := by
  cases span with
  | prose tag => cases hb
  | tagged tag kind body =>
    obtain ⟨htag, hkind, hbody, -⟩ := h
    obtain rfl := Option.some.inj hb
    exact (isWellFormed_iff_of_ne hkind htag.1).2 hbody
  | image line =>
    obtain rfl := Option.some.inj hb
    exact ⟨line, rfl, h⟩
  | run lines =>
    by_cases hblank : IsBlankBody lines
    · rw [Span.block?, if_pos hblank] at hb
      cases hb
    · rw [Span.block?, if_neg hblank] at hb
      obtain rfl := Option.some.inj hb
      exact ⟨hblank, h.2.1⟩

/-- The blocks of a body are well formed. -/
theorem isWellFormed_of_mem_segment (ls : List String) : ∀ b ∈ segment ls, b.IsWellFormed := by
  obtain ⟨spans, hreading⟩ := exists_isReading ls
  rw [hreading.segment_eq]
  intro b hb
  obtain ⟨span, hspan, hblock⟩ := List.mem_filterMap.1 hb
  obtain ⟨rest, hstands⟩ := hreading.exists_stands span hspan
  exact hstands.isWellFormed hblock

/-- A written block is cut off again from what is written behind it. -/
theorem Block.IsWellFormed.segment_written {b : Block} (h : b.IsWellFormed)
    (hrest : ∀ line ∈ rest.head?, IsTag line) : segment (b.written ++ rest) = b :: segment rest := by
  obtain ⟨kind, body⟩ := b
  -- Prose and images stand below the tag of prose, which is a span without a block.
  have hprose : (Span.prose BlockKind.text.tag).Stands (body ++ rest) :=
    announces_tag (by decide)
  by_cases htext : kind = .text
  · subst htext
    obtain ⟨hread, hplain⟩ := h
    have hne : body ≠ [] := fun hnil => hread (by simp [hnil, IsBlankBody])
    have hrun : (Span.run body).Stands rest :=
      ⟨hne, hplain, fun line hline hline' => hline'.1 (hrest line hline)⟩
    have hblock : (Span.run body).block? = some ⟨.text, body⟩ := if_neg hread
    calc segment (Block.written ⟨.text, body⟩ ++ rest)
        = segment (body ++ rest) := hprose.segment_append
      _ = (Span.run body).block?.toList ++ segment rest := hrun.segment_append
      _ = ⟨.text, body⟩ :: segment rest := by rw [hblock]; rfl
  · by_cases himage : kind = .image
    · subst himage
      obtain ⟨line, hbody, hline⟩ := h
      obtain rfl : body = [line] := hbody
      have hspan : (Span.image line).Stands rest := hline
      calc segment (Block.written ⟨.image, [line]⟩ ++ rest)
          = segment ([line] ++ rest) := hprose.segment_append
        _ = ⟨.image, [line]⟩ :: segment rest := hspan.segment_append
    · have hbody := (isWellFormed_iff_of_ne htext himage).1 h
      have hspan : (Span.tagged kind.tag kind body).Stands rest :=
        ⟨announces_tag himage, htext, hbody, hrest⟩
      exact hspan.segment_append

/-- Well-formed blocks are left again by what they are written as. -/
theorem segment_writtenBlocks {blocks : List Block} (h : ∀ b ∈ blocks, b.IsWellFormed) :
    segment (writtenBlocks blocks) = blocks := by
  induction blocks with
  | nil => rfl
  | cons b blocks ih =>
    obtain ⟨hb, hblocks⟩ := List.forall_mem_cons.1 h
    have hhead := isTag_of_mem_head?_writtenBlocks blocks
    calc segment (writtenBlocks (b :: blocks))
        = segment (b.written ++ writtenBlocks blocks) := by rw [writtenBlocks, List.flatMap_cons]; rfl
      _ = b :: segment (writtenBlocks blocks) := hb.segment_written hhead
      _ = b :: blocks := by rw [ih hblocks]

/-- The lists of blocks that bodies are cut into are those of well-formed blocks, and each of them
is left again by what it is written as. -/
theorem isWellFormed_iff_segmented (blocks : List Block) :
    ((∀ b ∈ blocks, b.IsWellFormed) ↔ ∃ ls, segment ls = blocks) ∧
      ((∀ b ∈ blocks, b.IsWellFormed) ↔ segment (writtenBlocks blocks) = blocks) ∧
      ∀ ls, segment (writtenBlocks (segment ls)) = segment ls := by
  refine ⟨⟨fun h => ⟨_, segment_writtenBlocks h⟩, ?_⟩, ⟨segment_writtenBlocks, ?_⟩, fun ls => ?_⟩
  · rintro ⟨ls, rfl⟩
    exact isWellFormed_of_mem_segment ls
  · intro h
    rw [← h]
    exact isWellFormed_of_mem_segment _
  · exact segment_writtenBlocks (isWellFormed_of_mem_segment ls)

end InteractiveBook.Source
