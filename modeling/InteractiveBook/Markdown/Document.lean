import InteractiveBook.Markdown.LeafBlock

/-!
# Reading the blocks of a document

A document is read line by line. Quotations and list items stay open as long as the lines that
follow belong to them; a list is loose when a blank line stands between two of its items, or between
two blocks in one of them.
-/

namespace InteractiveBook.Markdown

/-- A document before its running text is settled. -/
structure Document where
  /-- Its text. -/
  passage : Passage
  /-- Its blocks. -/
  nodes : List Node
  /-- The definitions in it. -/
  definitions : List Definition

/-- A quotation, list or item that may still go on. -/
structure OpenBlock where
  /-- Where it starts. -/
  start : Nat
  /-- What it is. -/
  kind : BlockKind
  /-- What is in it so far, the latest first. -/
  children : List Node

namespace OpenBlock

/-- It is a list. -/
def isList (b : OpenBlock) : Bool :=
  match b.kind with
  | .list _ _ => true
  | _ => false

/-- It is a list with this bullet, or with this character behind its numbers. -/
def isListOf (mark : Char) (b : OpenBlock) : Bool :=
  match b.kind with
  | .list marker _ => marker.mark == mark
  | _ => false

/-- It is a list that is tight so far. -/
def isTight (b : OpenBlock) : Bool :=
  match b.kind with
  | .list _ tight => tight
  | _ => false

/-- It is an item of a list. -/
def isItem (b : OpenBlock) : Bool :=
  match b.kind with
  | .item _ => true
  | _ => false

/-- The same list, loose; anything else stays as it is. -/
def loosen (b : OpenBlock) : OpenBlock :=
  match b.kind with
  | .list marker _ => { b with kind := .list marker false }
  | _ => b

/-- The block once it has ended. -/
def close (stop : Nat) (b : OpenBlock) : Node :=
  let children := b.children.reverse
  .block b.start stop b.kind (if b.isTight then children.map Node.tightened else children)

end OpenBlock

/-- The state between two lines. -/
structure Reading where
  /-- The blocks that have ended and are in no other, the latest first. -/
  nodes : List Node := []
  /-- The blocks that are open, the innermost first. -/
  opened : List OpenBlock := []
  /-- The definitions, the latest first. -/
  definitions : List Definition := []
  /-- The line before was blank. -/
  lastBlank : Bool := false
  /-- The place behind an item whose first line was empty. -/
  emptyItem : Option Nat := none

namespace Reading

/-- A block has ended. -/
def add (n : Node) (r : Reading) : Reading :=
  match r.opened with
  | [] => { r with nodes := n :: r.nodes }
  | b :: bs => { r with opened := { b with children := n :: b.children } :: bs }

/-- A block begins that may hold others. -/
def enter (start : Nat) (kind : BlockKind) (r : Reading) : Reading :=
  { r with opened := ⟨start, kind, []⟩ :: r.opened }

/-- The innermost open block ends. -/
def leave (stop : Nat) (r : Reading) : Reading :=
  match r.opened with
  | [] => r
  | b :: bs =>
    let emptyItem := if b.isTight then none else r.emptyItem
    { r with opened := bs, emptyItem }.add (b.close stop)

/-- The open blocks end, but for so many of the outermost. -/
def leaveTo (depth stop : Nat) (r : Reading) : Reading :=
  Nat.repeat (leave stop) (r.opened.length - depth) r

/-- An item whose first line was empty ends if the second was blank. -/
def settleItem (r : Reading) : Reading :=
  match r.emptyItem with
  | none => r
  | some stop =>
    let ends := r.lastBlank && (r.opened.head?.map OpenBlock.isItem).getD false
    { (if ends then r.leave stop else r) with emptyItem := none }

/-- A blank line has been read. In a quotation it sets no blocks apart. An item that begins with two
of them holds nothing, and asks for no indentation. -/
def blankLine (r : Reading) : Reading :=
  match r.opened with
  | [] => r
  | b :: bs => match b.kind with
    | .quote => r
    | .item indent =>
      let kind := .item (if r.emptyItem.isSome then 0 else indent)
      { r with opened := { b with kind } :: bs, lastBlank := true }
    | _ => { r with lastBlank := true }

/-- The list around the innermost open block is loose if a blank line came before. -/
def loosenOuter (r : Reading) : Reading :=
  match r.lastBlank, r.opened with
  | true, b :: outer :: rest =>
    { r with opened := b :: outer.loosen :: rest, lastBlank := false }
  | _, _ => { r with lastBlank := false }

/-- Something begins that is no item of the innermost list. -/
def endList (stop : Nat) (r : Reading) : Reading :=
  let r := r.settleItem
  (if (r.opened.head?.map OpenBlock.isList).getD false then r.leave stop else r).loosenOuter

/-- An item begins, in the innermost list if that has the same marks, and else in a new list. -/
def continueList (start : Nat) (marker : ListMarker) (r : Reading) : Reading :=
  let r := r.settleItem
  match r.opened with
  | [] => { r.enter start (.list marker true) with lastBlank := false }
  | b :: bs =>
    if b.isListOf marker.mark then
      { r with opened := (if r.lastBlank then b.loosen else b) :: bs, lastBlank := false }
    else { (r.endList start).enter start (.list marker true) with lastBlank := false }

/-- The quotations and items that begin on a line, from its margin on: the margin behind their
markers, and the place behind the line if it ends with the marker of an item. At most so many are
opened. -/
def openBlocks (s : Passage) (start : Nat) : Nat → Reading → Margin → Reading × Margin × Option Nat
  | 0, r, m => (r, m, none)
  | n + 1, r, m =>
    let (indent, inner) := m.skipSpaces s 4
    match if indent < 4 then inner.listMarker? s indent else none with
    | some (marker, width, content) =>
      let itemStart := inner.place - indent
      let r := (r.continueList itemStart marker).enter itemStart (.item width)
      match s.blankEnd? content.place with
      | some next => ({ r with emptyItem := some next }, content, some next)
      | none => openBlocks s start n r content
    | none => match if indent < 4 then inner.quoteMarker? s else none with
      | some content => openBlocks s start n ((r.endList start).enter inner.place .quote) content
      | none => (r, m, none)

/-- Where the next block stands. -/
def scope (s : Passage) (extensions : Extensions) (r : Reading) : Scope :=
  { passage := s, extensions, around := (r.opened.map (·.kind)).reverse }

/-- A paragraph and the definitions in front of it are read. -/
def readText (sc : Scope) (i : Nat) (r : Reading) : Reading × Nat :=
  let (definitions, next, more) := sc.readDefinitions (sc.passage.stop + 1) r.definitions i
  let r := { r with definitions }
  if more then
    let (node, stop) := sc.readParagraph next
    (r.add node, stop)
  else (r.endList next, next)

/-- A block that holds no others is read, from the margin of its first line. -/
def readLeaf (sc : Scope) (m : Margin) (r : Reading) : Reading × Nat :=
  let s := sc.passage
  let (indent, inner) := m.skipSpaces s 4
  let i := inner.place
  let put := fun (found : Node × Nat) => (r.add found.1, found.2)
  if indent = 4 then
    let (node, blank, next) := sc.readIndentedCode inner.pending i
    ({ r.add node with lastBlank := blank }, next)
  else match if s.has '<' i then s.htmlStart? (i + 1) else none with
    | some ends => put (sc.readHtml ends (max m.pending indent) i)
    | none => match s.ruleEnd? i with
      | some next => put (.block i next .rule [], next)
      | none => match s.headingLevel? i with
        | some level => put (sc.readHeading level i)
        | none => match s.fence? i with
          | some (mark, length) => put (sc.readFencedCode indent mark length i)
          | none => r.readText sc i

/-- What begins on the line at a place is read, with the further lines of a block that holds no
others. -/
def readBlock (s : Passage) (extensions : Extensions) (r : Reading) (i : Nat) : Reading × Nat :=
  let (n, m) := Margin.enterAll s (r.scope s extensions).around (Margin.start i)
  let (r, m, done) := openBlocks s i (s.stop + 1) (r.leaveTo n i) m
  match done, s.blankEnd? m.place with
  | some next, _ => (r, next)
  | none, some next =>
    (r.blankLine, next)
  | none, none =>
    let r := r.endList i
    r.readLeaf (r.scope s extensions) m

/-- The state after the lines from a place on; at most so many blocks are read. -/
def readBlocks (s : Passage) (extensions : Extensions) : Nat → Reading → Nat → Reading
  | 0, r, _ => r
  | n + 1, r, i =>
    if i < s.stop then
      let (r, next) := readBlock s extensions r i
      readBlocks s extensions n r next
    else r

end Reading

/-- The document that a text is. -/
def Document.ofChars (extensions : Extensions) (cs : List Char) : Document :=
  let s := Passage.ofChars cs
  let r := Reading.readBlocks s extensions (s.stop + 1) {} 0
  let r := r.leaveTo 0 s.stop
  ⟨s, r.nodes.reverse, r.definitions.reverse⟩

end InteractiveBook.Markdown
