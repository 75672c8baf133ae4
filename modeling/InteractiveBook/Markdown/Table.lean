import InteractiveBook.Markdown.RunningText

/-!
# Rows of a table

A row is a line with pipes between its cells; a pipe behind a backslash belongs to its cell. The
header says how many columns there are: a shorter row is filled up with empty cells, and what a
longer one has beyond them is left out.
-/

namespace InteractiveBook.Markdown.Scope

/-- The scope of what stands in a table. -/
def withinTable (sc : Scope) : Scope := { sc with inTable := true }

/-- The cells of a row from a place on, given by where each starts and stops and by its content, and
the place behind the row; at most so many cells are read. -/
def readCells (sc : Scope) : Nat → Nat → List (Nat × Nat × List Node) × Nat
  | 0, i => ([], i)
  | n + 1, i =>
    let start := if sc.passage.has '|' i then i + 1 else i
    let content := sc.passage.skip isBlankChar start
    match sc.passage.lineEnd? content with
    | some next => ([], next)
    | none =>
      let (nodes, stop, _) := sc.readLine .cell [] content
      let (cells, next) := sc.readCells n stop
      ((start, stop, nodes.reverse) :: cells, next)

/-- A row at a place with cells for the columns, whether it has cells of its own, and the place
behind it. -/
def readCellRow (sc : Scope) (columns : List Alignment) (header : Bool) (i : Nat) :
    Node × Bool × Nat :=
  let (cells, next) := sc.withinTable.readCells (sc.passage.stop + 1) i
  let filled := cells ++ List.replicate (columns.length - cells.length) (next, next, [])
  let nodes := (columns.zip filled).map fun (alignment, start, stop, content) =>
    Node.block start stop (.cell header alignment) content
  (.block i next (.row header) nodes, !cells.isEmpty, next)

/-- A row on the line at a place, and the place behind it, unless the table ends before it. -/
def row? (sc : Scope) (columns : List Alignment) (i : Nat) : Option (Node × Nat) :=
  let (inside, m) := sc.enter i
  let start := sc.passage.skip isIndentChar m.place
  if !inside || sc.withinTable.beginsBlock true start then none
  else
    let (row, own, next) := sc.readCellRow columns false start
    if own then some (row, next) else none

/-- The rows from a place on, and the place behind them; at most so many are read. -/
def readRows (sc : Scope) (columns : List Alignment) : Nat → Nat → List Node × Nat
  | 0, i => ([], i)
  | n + 1, i => match sc.row? columns i with
    | none => ([], i)
    | some (row, next) =>
      let (rows, stop) := sc.readRows columns n next
      (row :: rows, stop)

/-- A table with its header at a place and its rows at another, and the place behind it. -/
def readTable (sc : Scope) (columns : List Alignment) (header body : Nat) : Node × Nat :=
  let (head, _, _) := sc.readCellRow columns true header
  let (rows, stop) := sc.readRows columns (sc.passage.stop + 1) body
  (.block header stop .table (head :: rows), stop)

end InteractiveBook.Markdown.Scope
