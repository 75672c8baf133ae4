import InteractiveBook.Markdown.Node
import InteractiveBook.Markdown.Passage

/-!
# The start of a line

The structure of a document shows at the start of its lines: in their indentation, and in the
markers of the quotations and lists that they belong to. A tab stands for the spaces up to the next
column that is a multiple of four, and a marker may use up only some of them.
-/

namespace InteractiveBook.Markdown

/-- A place at the start of a line. -/
structure Margin where
  /-- The place. -/
  place : Nat
  /-- Its column. -/
  column : Nat
  /-- How many columns of the tab just passed are still to be used. -/
  pending : Nat

namespace Margin

/-- The start of a line at a place. -/
def start (i : Nat) : Margin := ⟨i, 0, 0⟩

/-- The margin one column on, if there is a space. -/
def skipSpace? (s : Passage) (m : Margin) : Option Margin :=
  if 0 < m.pending then some { m with pending := m.pending - 1 }
  else match s.at? m.place with
    | some ' ' => some ⟨m.place + 1, m.column + 1, 0⟩
    | some '\t' =>
      let width := 4 - m.column % 4
      some ⟨m.place + 1, m.column + width, width - 1⟩
    | _ => none

/-- The margin after at most so many columns of space, and their number. -/
def skipSpaces (s : Passage) : Nat → Margin → Nat × Margin
  | 0, m => (0, m)
  | n + 1, m => match m.skipSpace? s with
    | some next =>
      let (k, last) := skipSpaces s n next
      (k + 1, last)
    | none => (0, m)

/-- The margin so many characters on, none of them a tab. -/
def advance (k : Nat) (m : Margin) : Margin :=
  { m with place := m.place + k, column := m.column + k }

/-- The margin after the marker of a quotation: up to three spaces, a greater-than sign, and one
space if there is one. -/
def quoteMarker? (s : Passage) (m : Margin) : Option Margin :=
  let (_, m) := m.skipSpaces s 3
  if s.has '>' m.place then some ((m.advance 1).skipSpaces s 1).2 else none

/-- The margin inside a list item of so much indentation; a line that ends before is inside too. -/
def enterItem? (s : Passage) (indent : Nat) (m : Margin) : Option Margin :=
  let (k, m) := m.skipSpaces s indent
  if k = indent ∨ s.endsLine m.place then some m else none

/-- The margin inside a block, if the line belongs to it. -/
def enter? (s : Passage) (m : Margin) : BlockKind → Option Margin
  | .quote => m.quoteMarker? s
  | .item indent => m.enterItem? s indent
  | _ => some m

/-- The margin inside the blocks that a line belongs to, of some that are listed with the outermost
first, and their number. -/
def enterAll (s : Passage) : List BlockKind → Margin → Nat × Margin
  | [], m => (0, m)
  | kind :: kinds, m => match m.enter? s kind with
    | some inner =>
      let (n, last) := enterAll s kinds inner
      (n + 1, last)
    | none => (0, m)

end Margin

end InteractiveBook.Markdown
