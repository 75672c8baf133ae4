import InteractiveBook.Markdown.Document
import InteractiveBook.Markdown.Link

/-!
# The elements of a document

Once all blocks and definitions are known, the running text of each block is settled, from the
innermost blocks outwards. In a tight list the text of an item goes on around the blocks in it.
-/

namespace InteractiveBook.Markdown

/-- A block with the elements in it. -/
def BlockKind.element (children : List Element) : BlockKind → Element
  | .paragraph => .paragraph children
  | .heading level => .heading level children
  | .rule => .rule
  | .quote => .quote children
  | .list marker _ => .list marker.number children
  | .item _ => .item children
  | .code info text => .codeBlock info text
  | .html lines => .htmlBlock lines
  | .table => .table children
  | .row header => .row header children
  | .cell header alignment => .cell header alignment children

/-- The scope of what stands in a block up to a place. -/
def Scope.within (sc : Scope) (kind : BlockKind) (stop : Nat) : Scope :=
  let inTable := match kind with
    | .cell _ _ => true
    | _ => false
  { sc with passage := { sc.passage with stop }, around := sc.around ++ [kind], inTable }

mutual

/-- A node, with the blocks in it as elements. -/
def Node.piece (definitions : List Definition) : Scope → Node → Piece
  | _, .leaf start stop l => ⟨start, stop, .leaf l⟩
  | sc, .block start stop kind children =>
    let inner := sc.within kind stop
    let pieces := piecesOf definitions inner children
    ⟨start, stop, .element (kind.element (inner.elements definitions pieces))⟩

/-- Some nodes, with the blocks in them as elements. -/
def piecesOf (definitions : List Definition) : Scope → List Node → List Piece
  | _, [] => []
  | sc, n :: ns => n.piece definitions sc :: piecesOf definitions sc ns

end

/-- The elements of a document. -/
def Document.elements (extensions : Extensions) (d : Document) : List Element :=
  let sc : Scope := { passage := d.passage, extensions }
  (piecesOf d.definitions sc d.nodes).map (Piece.element d.passage)

/-- The elements of a text in Markdown. -/
def elementsOf (extensions : Extensions) (cs : List Char) : List Element :=
  (Document.ofChars extensions cs).elements extensions

end InteractiveBook.Markdown
