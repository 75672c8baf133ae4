import InteractiveBook.Text.Line

/-!
# Blocks of a chapter

A chapter body is a list of blocks. A block has a kind, which fixes the interactive element it
becomes, and its source lines verbatim.
-/

namespace InteractiveBook.Source

/-- The kinds of block that a chapter body is made of. -/
inductive BlockKind where
  /-- Prose in Markdown. -/
  | text
  /-- Panels that open one at a time. -/
  | accordion
  /-- Questions with one right answer. -/
  | quiz
  /-- A line that holds one image and nothing else. -/
  | image
  /-- A video slot. -/
  | video
  /-- Sentences with words left out. -/
  | fillBlanks
  /-- Sentences whose words are dragged into place. -/
  | dragWords
  deriving DecidableEq, Repr

/-- The name that a reader of the book sees for a kind. -/
def BlockKind.label : BlockKind → String
  | text => "Text"
  | accordion => "Accordion"
  | quiz => "Quiz"
  | image => "Image"
  | video => "Video"
  | fillBlanks => "Fill in the blanks"
  | dragWords => "Drag the words"

/-- The name of a kind in reports. -/
def BlockKind.key : BlockKind → String
  | text => "text"
  | accordion => "accordion"
  | quiz => "quiz"
  | image => "image"
  | video => "video"
  | fillBlanks => "fill_blanks"
  | dragWords => "drag_words"

/-- The kind that a tag line announces; a tag stands alone on its line, in capitals. -/
def BlockKind.ofTag? (line : String) : Option BlockKind :=
  match Text.trim line with
  | "[TEXT]" => some text
  | "[ACCORDION]" => some accordion
  | "[QUIZ]" => some quiz
  | "[VIDEO]" => some video
  | "[FILL]" => some fillBlanks
  | "[DRAG]" => some dragWords
  | _ => none

/-- A piece of a chapter body: a kind and the source lines. -/
structure Block where
  /-- What the block becomes in the book. -/
  kind : BlockKind
  /-- The source lines, verbatim. -/
  lines : List String
  deriving DecidableEq, Repr

namespace Block

/-- A block is blank when each of its lines is. -/
def isBlank (b : Block) : Bool := b.lines.all Text.isBlank

/-- The source text of a block. -/
def source (b : Block) : String := Text.joinLines b.lines

end Block

end InteractiveBook.Source
