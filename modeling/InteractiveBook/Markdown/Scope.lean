import InteractiveBook.Markdown.BlockStart

/-!
# Lines within blocks

A block goes on over several lines, each of which has to be looked for behind the markers of the
blocks around it. A line may also go on a paragraph without these markers, unless it begins a block
of its own.
-/

namespace InteractiveBook.Markdown

/-- Where a part of a document stands. -/
structure Scope where
  /-- The text of the document. -/
  passage : Passage
  /-- The extensions in force. -/
  extensions : Extensions
  /-- The blocks around, the outermost first. -/
  around : List BlockKind := []
  /-- The part belongs to a table. -/
  inTable : Bool := false

namespace Scope

/-- Whether a line belongs to all blocks around, and the margin inside those that it belongs to. -/
def enter (sc : Scope) (i : Nat) : Bool × Margin :=
  let (n, m) := Margin.enterAll sc.passage sc.around (Margin.start i)
  (n == sc.around.length, m)

/-- The place on a line behind the markers of the blocks around. -/
def afterMarkers (sc : Scope) (i : Nat) : Nat := (sc.enter i).2.place

/-- An item of a list stands here that may follow a paragraph. Inside the blocks of the paragraph it
has to begin with a bullet or with one, and not to be empty. -/
def beginsItem (sc : Scope) (inside : Bool) (i : Nat) : Bool :=
  match sc.passage.bullet? i with
  | none => false
  | some (marker, j) =>
    (sc.passage.endsLine j || sc.passage.meets isIndentChar j)
      && (!inside || sc.inTable || (marker.number.getD 1 == 1 && !sc.passage.isBlank j))

/-- A line without text, or one that begins a block other than a table. -/
def beginsBlock (sc : Scope) (inside : Bool) (i : Nat) : Bool :=
  let s := sc.passage
  s.endsLine i || (s.ruleEnd? i).isSome || (s.headingLevel? i).isSome || (s.fence? i).isSome
    || s.has '>' i || sc.beginsItem inside i || (s.has '<' i && (s.htmlEnd? (i + 1)).isSome)

/-- The columns of a table whose header stands between two places, when a delimiter row of as many
columns follows on the line that begins at a third, and the place behind that row. -/
def tableColumns? (sc : Scope) (i j next : Nat) : Option (List Alignment × Nat) :=
  let (inside, m) := sc.enter next
  (sc.passage.headerColumns? i j).bind fun n =>
    (sc.passage.delimiterRow? m.place).filter fun d => inside && d.1.length == n

/-- A table begins here, with a pipe. -/
def beginsTable (sc : Scope) (i : Nat) : Bool :=
  let j := sc.passage.skip (fun c => !isLineEndChar c) i
  sc.extensions.tables && sc.passage.has '|' i && j < sc.passage.stop
    && ((sc.passage.lineEnd? j).bind (sc.tableColumns? i j)).isSome

/-- A line that does not go on a paragraph. -/
def interrupts (sc : Scope) (inside : Bool) (i : Nat) : Bool :=
  sc.beginsBlock inside i || sc.beginsTable i

/-- Where a label goes on that is being defined. -/
def labelLine? (sc : Scope) (i : Nat) : Option Nat :=
  let (inside, m) := sc.enter i
  if sc.interrupts inside m.place || (inside && (sc.passage.underline? m.place).isSome) then none
  else some m.place

/-- Where a definition goes on behind its label. An indented line always belongs to it. -/
def definitionLine? (sc : Scope) (i : Nat) : Option Nat :=
  let (inside, m) := sc.enter i
  let (k, m) := m.skipSpaces sc.passage 4
  if k < 4 && (sc.interrupts inside m.place || (sc.passage.underline? m.place).isSome) then none
  else some m.place

/-- The place in a running text behind blanks, among which one line may end. -/
def gapEnd (sc : Scope) (i : Nat) : Nat :=
  let j := sc.passage.skip isBlankChar i
  match sc.passage.lineEnd? j with
  | none => j
  | some next => sc.passage.skip isBlankChar (sc.afterMarkers next)

end Scope

end InteractiveBook.Markdown
