/-!
# Documents in Markdown

A document is a tree of elements. Running text and blocks are elements alike, because the paragraphs
of a tight list are not marked up: their text stands in the item beside the blocks that follow it.
-/

namespace InteractiveBook.Markdown

/-- The extensions of the language that can be switched off. -/
structure Extensions where
  /-- Tables with pipes between the cells. -/
  tables : Bool := true
  /-- Text struck through between tildes. -/
  strikethrough : Bool := true
  deriving DecidableEq, Repr

/-- How the cells of a table column are aligned. -/
inductive Alignment where
  /-- Not at all. -/
  | unset
  /-- To the left. -/
  | left
  /-- To the middle. -/
  | center
  /-- To the right. -/
  | right
  deriving DecidableEq, Repr

/-- A line of a block of raw HTML. -/
structure HtmlLine where
  /-- How many spaces indent it. -/
  indent : Nat
  /-- The line with its end. -/
  text : List Char

/-- The parts of a document. -/
inductive Element where
  /-- Characters that stand for themselves. -/
  | text (cs : List Char)
  /-- A code span. -/
  | code (cs : List Char)
  /-- Raw HTML in a running text. -/
  | html (cs : List Char)
  /-- The end of a line within a paragraph. -/
  | softBreak
  /-- A forced line break. -/
  | hardBreak
  /-- Emphasis. -/
  | emphasis (children : List Element)
  /-- Strong emphasis. -/
  | strong (children : List Element)
  /-- Struck-through text. -/
  | struck (children : List Element)
  /-- A link with its target and title. -/
  | link (target title : List Char) (children : List Element)
  /-- An image with its address and title; the children describe it. -/
  | image (address title : List Char) (children : List Element)
  /-- A paragraph. -/
  | paragraph (children : List Element)
  /-- A heading of a level from one to six. -/
  | heading (level : Nat) (children : List Element)
  /-- A thematic break. -/
  | rule
  /-- A block of code with the text behind its opening fence. -/
  | codeBlock (info text : List Char)
  /-- Lines of raw HTML. -/
  | htmlBlock (lines : List HtmlLine)
  /-- A quotation. -/
  | quote (children : List Element)
  /-- A list of items, numbered from a start or bulleted. -/
  | list (number : Option Nat) (children : List Element)
  /-- An item of a list. -/
  | item (children : List Element)
  /-- A table of rows, the header first. -/
  | table (children : List Element)
  /-- A row of cells. -/
  | row (header : Bool) (children : List Element)
  /-- A cell. -/
  | cell (header : Bool) (alignment : Alignment) (children : List Element)

/-- A link target with a label that texts can refer to. -/
structure Definition where
  /-- The label, folded so that equal labels are equal. -/
  label : List Char
  /-- The target of the link. -/
  target : List Char
  /-- The title of the link, possibly empty. -/
  title : List Char

/-- The first definition with a label. -/
def Definition.find? (definitions : List Definition) (label : List Char) : Option Definition :=
  definitions.find? fun d => d.label == label

end InteractiveBook.Markdown
