import InteractiveBook.Error
import InteractiveBook.Source.Block
import InteractiveBook.Source.ImageLine

/-!
# Chapters of a source

A source is cut at its level-one headings, the lines that start with a number sign and a space.
What stands before the first heading is the introduction. An introduction or an untitled chapter
without content is dropped; a chapter with a title is kept even when empty.

The body of a chapter is cut into blocks line by line. A tag line closes the block in progress and
opens one of its kind. Inside prose, a line that holds one image closes the block and stands as a
block of its own. Prose without a non-blank line leaves no block; every other kind leaves one even
when empty.
-/

namespace InteractiveBook.Source

/-- A chapter as cut from the source. -/
structure Chapter where
  /-- The title: the trimmed rest of the heading line. -/
  title : String
  /-- The lines below the heading, verbatim. -/
  bodyLines : List String
  deriving DecidableEq, Repr

namespace Chapter

/-- A chapter without body lines. -/
def empty (title : String) : Chapter := ⟨title, []⟩

/-- The chapter with other body lines. -/
def withLines (c : Chapter) (lines : List String) : Chapter := { c with bodyLines := lines }

/-- The chapter with one more body line. -/
def pushLine (c : Chapter) (line : String) : Chapter :=
  { c with bodyLines := c.bodyLines ++ [line] }

/-- A chapter has content when some body line is not blank. -/
def hasContent (c : Chapter) : Bool := c.bodyLines.any fun line => !Text.isBlank line

end Chapter

/-- The title of what stands before the first heading. -/
def introductionTitle : String := "Introduction"

/-- The title of a chapter whose heading has no text. -/
def untitledTitle : String := "Untitled"

/-- The title on a heading line, if the line is one. -/
def headingTitle? (line : String) : Option String := (Text.dropStart? "# " line).map Text.trim

/-- The chapters so far, and one more that is finished: an introduction is kept when it has content,
and so is a chapter without a title, which is given one. -/
def pushChapter (chapters : List Chapter) (c : Chapter) (implicit : Bool) : List Chapter :=
  if implicit then if c.hasContent then chapters ++ [c] else chapters
  else if c.title ≠ "" then chapters ++ [c]
  else if c.hasContent then chapters ++ [{ c with title := untitledTitle }]
  else chapters

/-- Where the splitting of a source stands. -/
structure Splitting where
  /-- The chapters that are finished. -/
  chapters : List Chapter
  /-- The chapter in progress. -/
  current : Chapter
  /-- The chapter in progress is what stands before the first heading. -/
  implicit : Bool

namespace Splitting

/-- Nothing has been read. -/
def start : Splitting := ⟨[], .empty introductionTitle, true⟩

/-- The chapters when the one in progress is finished. -/
def finish (s : Splitting) : List Chapter := pushChapter s.chapters s.current s.implicit

/-- One more line: a heading finishes the chapter in progress and opens the next one, and any other
line is added to it. -/
def step (s : Splitting) (line : String) : Splitting :=
  match headingTitle? line with
  | some title => ⟨s.finish, .empty title, false⟩
  | none => { s with current := s.current.pushLine line }

end Splitting

/-- The chapters of a source in order, possibly none. -/
def chaptersOf (source : String) : List Chapter :=
  ((Text.lines (Text.normalizeLineEndings source)).foldl Splitting.step .start).finish

/-- The chapters of a source in order; a source without any is refused. -/
def splitChapters (source : String) : Except BookError (List Chapter) :=
  match chaptersOf source with
  | [] => .error .noChaptersFound
  | chapters => .ok chapters

/-! ### Blocks of a chapter -/

/-- What a finished block leaves: nothing for blank prose, else itself. -/
def Block.close (b : Block) : List Block :=
  if b.kind = .text ∧ b.isBlank = true then [] else [b]

/-- The blocks of a list of lines, given the kind of the block in progress and its lines so far,
the last one first. -/
def segmentFrom (kind : BlockKind) (seen : List String) : List String → List Block
  | [] => Block.close ⟨kind, seen.reverse⟩
  | line :: rest =>
    match BlockKind.ofTag? line with
    | some next => Block.close ⟨kind, seen.reverse⟩ ++ segmentFrom next [] rest
    | none =>
      if kind = .text ∧ (ImageLine.ofLine? line).isSome = true then
        Block.close ⟨kind, seen.reverse⟩ ++ ⟨.image, [line]⟩ :: segmentFrom .text [] rest
      else segmentFrom kind (line :: seen) rest

/-- The blocks of a chapter body, which starts as prose. -/
def segment (lines : List String) : List Block := segmentFrom .text [] lines

/-- A body without lines has no blocks. -/
theorem segment_nil : segment [] = [] := rfl

/-- A chapter whose body is cut into blocks. -/
structure DecodedChapter where
  /-- The title of the chapter. -/
  title : String
  /-- The blocks of the body, in order. -/
  blocks : List Block
  deriving DecidableEq, Repr

/-- A chapter with its body cut into blocks. -/
def Chapter.decode (c : Chapter) : DecodedChapter := ⟨c.title, segment c.bodyLines⟩

/-- The chapters of a source, cut into blocks. -/
def decodeSource (source : String) : Except BookError (List DecodedChapter) :=
  (splitChapters source).map fun chapters => chapters.map Chapter.decode

/-- What a report says of a block. -/
structure BlockOutline where
  /-- The kind of the block. -/
  kind : BlockKind
  /-- How many source lines it has. -/
  lineCount : Nat
  deriving DecidableEq, Repr

/-- What a report says of a chapter. -/
structure ChapterOutline where
  /-- The title of the chapter. -/
  title : String
  /-- Its blocks, in order. -/
  blocks : List BlockOutline
  deriving DecidableEq, Repr

/-- The outline of a chapter. -/
def DecodedChapter.outline (c : DecodedChapter) : ChapterOutline :=
  ⟨c.title, c.blocks.map fun b => ⟨b.kind, b.lines.length⟩⟩

/-- The outline of a source. -/
def outlineSource (source : String) : Except BookError (List ChapterOutline) :=
  (decodeSource source).map fun chapters => chapters.map DecodedChapter.outline

end InteractiveBook.Source
