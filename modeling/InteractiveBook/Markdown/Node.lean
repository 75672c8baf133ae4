import InteractiveBook.Markdown.Syntax

/-!
# Documents before their running text is settled

The blocks of a document are known once its lines have been read, but of the running text in them
only the marks that may mean something: whether two brackets make a link shows only when all
definitions are known. A node is a block with what is in it, or a stretch of running text.
-/

namespace InteractiveBook.Markdown

/-- A mark in a running text that may mean something. -/
inductive Mark where
  /-- A run of equal delimiters that may open or close emphasis. -/
  | run (mark : Char) (count : Nat) (opens closes : Bool)
  /-- A run of backquotes, the first of them perhaps escaped. -/
  | backquotes (count : Nat) (escaped : Bool)
  /-- An opening angle bracket. -/
  | angle
  /-- An opening bracket, of a link or of an image. -/
  | opening (image : Bool)
  /-- A closing bracket. One that ended a label without a definition ends no label of its own. -/
  | closing (tried : Bool)

/-- A stretch of running text. -/
inductive Leaf where
  /-- Characters that stand for themselves. -/
  | text
  /-- Characters that a reference stands for. -/
  | given (cs : List Char)
  /-- The end of a line. -/
  | softBreak
  /-- A forced line break, perhaps by a backslash. -/
  | hardBreak (escaped : Bool)
  /-- A mark. -/
  | mark (m : Mark)

/-- What begins an item of a list. -/
structure ListMarker where
  /-- The bullet, or the character behind the number. -/
  mark : Char
  /-- The number, if the list is numbered. -/
  number : Option Nat
  deriving DecidableEq

/-- The kinds of blocks. -/
inductive BlockKind where
  /-- A paragraph. -/
  | paragraph
  /-- A heading of a level. -/
  | heading (level : Nat)
  /-- A thematic break. -/
  | rule
  /-- A quotation. -/
  | quote
  /-- A list with the marker of its first item. The paragraphs of a tight list are not marked up. -/
  | list (marker : ListMarker) (tight : Bool)
  /-- An item of a list, whose lines are indented so far. -/
  | item (indent : Nat)
  /-- A block of code with the text behind its opening fence. -/
  | code (info text : List Char)
  /-- A block of raw HTML. -/
  | html (lines : List HtmlLine)
  /-- A table. -/
  | table
  /-- A row of a table. -/
  | row (header : Bool)
  /-- A cell of a table. -/
  | cell (header : Bool) (alignment : Alignment)

/-- A part of a document, with the places where it starts and stops. -/
inductive Node where
  /-- A stretch of running text. -/
  | leaf (start stop : Nat) (leaf : Leaf)
  /-- A block with what is in it. -/
  | block (start stop : Nat) (kind : BlockKind) (children : List Node)

namespace Node

/-- The same node, stopping elsewhere. -/
def stopAt (stop : Nat) : Node → Node
  | .leaf start _ l => .leaf start stop l
  | .block start _ kind children => .block start stop kind children

/-- The place where a node stops. -/
def stop : Node → Nat
  | .leaf _ stop _ => stop
  | .block _ stop _ _ => stop

/-- What takes the place of a block in an item of a tight list: the text of a paragraph stands in
the item itself. -/
def unwrapped : Node → List Node
  | .block start stop .paragraph [] => [.block start stop .paragraph []]
  | .block _ _ .paragraph children => children
  | n => [n]

/-- An item of a tight list. One that begins with a paragraph without text is empty. -/
def tightened : Node → Node
  | .block start stop kind (.block _ _ .paragraph [] :: _) => .block start stop kind []
  | .block start stop kind children => .block start stop kind (children.flatMap unwrapped)
  | n => n

end Node

end InteractiveBook.Markdown
