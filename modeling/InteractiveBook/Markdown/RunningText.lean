import InteractiveBook.Markdown.Entity
import InteractiveBook.Markdown.Scope

/-!
# Lines of running text

A line of a paragraph, a heading or a cell is cut into stretches at the characters that may mean
something. Blanks at its end do not belong to the text; a line end behind two of them, or behind a
backslash, is a forced break.
-/

namespace InteractiveBook.Markdown

/-- What a line of running text belongs to. -/
inductive LineRole where
  /-- A heading, or a paragraph that has begun before. -/
  | plain
  /-- The start of a paragraph, which may be the header of a table. -/
  | first
  /-- A cell of a table. -/
  | cell
  deriving DecidableEq

/-- How a line ends behind which the text may go on. -/
inductive LineBreak where
  /-- With a break. -/
  | soft
  /-- With a forced break, perhaps by a backslash. -/
  | hard (escaped : Bool)
  /-- It is the header of a table with these columns. -/
  | table (columns : List Alignment)

/-- What ends a line, with the places where it starts and stops. -/
structure LineEnding where
  /-- The start. -/
  start : Nat
  /-- The stop. -/
  stop : Nat
  /-- How the line ends. -/
  kind : LineBreak

/-- A line of running text while it is read. -/
structure LineState where
  /-- The stretches so far, the latest first. -/
  nodes : List Node
  /-- Where the text starts that belongs to none of them. -/
  pending : Nat
  /-- The next place. -/
  place : Nat

/-- The nodes with a text behind them. It joins a text right before it. -/
def addText (nodes : List Node) (start stop : Nat) : List Node :=
  if start < stop then
    match nodes with
    | .leaf first last .text :: rest =>
      if last = start then .leaf first stop .text :: rest else .leaf start stop .text :: nodes
    | _ => .leaf start stop .text :: nodes
  else nodes

namespace LineState

/-- The text so far is a stretch up to a place. -/
def flush (stop : Nat) (l : LineState) : LineState :=
  { l with nodes := addText l.nodes l.pending stop }

/-- A stretch stands at the next place and stops at another. -/
def put (leaf : Leaf) (stop : Nat) (l : LineState) : LineState :=
  { nodes := .leaf l.place stop leaf :: (l.flush l.place).nodes, pending := stop, place := stop }

/-- The next characters, up to a place, are text. -/
def pass (stop : Nat) (l : LineState) : LineState := { l with place := stop }

/-- What stands between the next place and another is left out. -/
def leaveOut (stop : Nat) (l : LineState) : LineState :=
  { l.flush l.place with pending := stop, place := stop }

end LineState

/-- In a cell, a pipe that ends the cell before stands here. -/
def Passage.hasCellPipe (s : Passage) (i : Nat) : Bool :=
  s.has '|' i && !(0 < i && s.has '\\' (i - 1))

/-- A run may open emphasis: text follows, and where that begins with punctuation, or the run does
not work within words, white space or punctuation precedes. -/
def mayOpen (s : Passage) (mark : Char) (count i : Nat) (inCell : Bool) : Bool :=
  match s.at? (i + count), i with
  | none, _ => false
  | some after, 0 => !Text.isWhiteSpace after
  | some after, i + 1 =>
    let before := fun p => s.meets p i
    !Text.isWhiteSpace after
      && ((inCell && s.hasCellPipe i)
        || (!(inCell && after == '|')
          && ((mark == '*' && !Text.isPunctuation after) || (mark == '~' && 1 < count)
            || (mark == '~' && before (· == '~') && !Text.isPunctuation after)
            || before Text.isWhiteSpace || before Text.isPunctuation)))

/-- A run may close emphasis: text precedes, and where that ends with punctuation, or the run does
not work within words, white space or punctuation follows. -/
def mayClose (s : Passage) (mark : Char) (count i : Nat) (inCell : Bool) : Bool :=
  match i with
  | 0 => false
  | i + 1 =>
    let before := fun p => s.meets p i
    !before Text.isWhiteSpace
      && match s.at? (i + 1 + count) with
        | none => true
        | some after =>
          !(inCell && s.hasCellPipe i)
            && ((inCell && after == '|')
              || ((mark == '*' || (mark == '~' && 1 < count)) && !before Text.isPunctuation)
              || (mark == '~' && before (· == '~'))
              || Text.isWhiteSpace after || Text.isPunctuation after)

namespace LineState

/-- A backslash stands here: an escape, or text. An escaped backquote may still end a code span. -/
def backslash (s : Passage) (inCell : Bool) (l : LineState) : LineState :=
  let i := l.place
  if s.meets (fun c => c.toNat == 0x60) (i + 1) then
    let count := s.runLength (Char.ofNat 0x60) (i + 1)
    (l.leaveOut (i + 1)).put (.mark (.backquotes count true)) (i + 1 + count)
  else if inCell && s.begins ['\\', '|'] (i + 1) then (l.leaveOut (i + 2)).pass (i + 3)
  else if s.meets Text.isAsciiPunctuation (i + 1) then (l.leaveOut (i + 1)).pass (i + 2)
  else l.pass (i + 1)

/-- A run of delimiters stands here. Only one or two tildes strike text through. -/
def run (s : Passage) (inCell : Bool) (mark : Char) (l : LineState) : LineState :=
  let count := s.runLength mark l.place
  let opens := mayOpen s mark count l.place inCell
  let closes := mayClose s mark count l.place inCell
  if (opens || closes) && (mark != '~' || count ≤ 2) then
    l.put (.mark (.run mark count opens closes)) (l.place + count)
  else l.pass (l.place + count)

end LineState

namespace Scope

/-- The line after the next character, with what belongs to that. -/
def readStretch (sc : Scope) (inCell : Bool) (c : Char) (l : LineState) : LineState :=
  let s := sc.passage
  let i := l.place
  if c.toNat = 0x60 then
    let count := s.runLength c i
    l.put (.mark (.backquotes count false)) (i + count)
  else if c == '*' || c == '_' || (c == '~' && sc.extensions.strikethrough) then
    l.run s inCell c
  else match c with
    | '\\' => l.backslash s inCell
    | '<' => if s.has '\\' (i + 1) then l.pass (i + 1) else l.put (.mark .angle) (i + 1)
    | '!' => if s.has '[' (i + 1) then l.put (.mark (.opening true)) (i + 2) else l.pass (i + 1)
    | '[' => l.put (.mark (.opening false)) (i + 1)
    | ']' => l.put (.mark (.closing false)) (i + 1)
    | '&' => match s.reference? i with
      | some (cs, stop) => l.put (.given cs) stop
      | none => l.pass (i + 1)
    | _ => l.pass (i + 1)

/-- The line up to its end, or in a cell up to the next pipe; at most so many characters are looked
at. -/
def readStretches (sc : Scope) (inCell : Bool) : Nat → LineState → LineState
  | 0, l => l
  | n + 1, l => match sc.passage.at? l.place with
    | none => l
    | some c =>
      if isLineEndChar c || (inCell && sc.passage.hasCellPipe l.place) then l
      else sc.readStretches inCell n (sc.readStretch inCell c l)

/-- The end of a line that has been read up to it: the nodes, the place behind it, and how it ends
if more may follow. -/
def endLine (sc : Scope) (role : LineRole) (start : Nat) (l : LineState) :
    List Node × Nat × Option LineEnding :=
  let s := sc.passage
  let i := l.place
  let blanks := s.back isBlankChar 0 i
  match if role == .cell || s.stop ≤ i then none else s.lineEnd? i with
  | none => ((l.flush (s.back isBlankChar l.pending i)).nodes, i, none)
  | some next =>
    if (i - s.back (· == '\\') 0 i) % 2 = 1 ∧ next < s.stop then
      ((l.flush (i - 1)).nodes, next, some ⟨i - 1, next, .hard true⟩)
    else
      let columns := if role == .first then sc.tableColumns? start i next else none
      match columns with
      | some (columns, stop) => (l.nodes, stop, some ⟨i, stop, .table columns⟩)
      | none =>
        let kind := if 2 ≤ i - blanks then .hard false else .soft
        ((l.flush blanks).nodes, next,
          some ⟨if 2 ≤ i - blanks then blanks else i, next, kind⟩)

/-- A line of running text behind some nodes, the latest first: the nodes with those of the line,
the place behind it, and how it ends if more may follow. -/
def readLine (sc : Scope) (role : LineRole) (nodes : List Node) (start : Nat) :
    List Node × Nat × Option LineEnding :=
  sc.endLine role start
    (sc.readStretches (role == .cell) sc.passage.stop ⟨nodes, start, start⟩)

end Scope

/-- The node of a break; the header of a table has none. -/
def LineEnding.node? (e : LineEnding) : Option Node :=
  match e.kind with
  | .soft => some (.leaf e.start e.stop .softBreak)
  | .hard escaped => some (.leaf e.start e.stop (.hardBreak escaped))
  | .table _ => none

/-- The nodes of a text whose last line ended so: a backslash before its end stands for itself. -/
def LineEnding.close (e : LineEnding) (nodes : List Node) : List Node :=
  match e.kind with
  | .hard true => addText nodes e.start (e.start + 1)
  | _ => nodes

end InteractiveBook.Markdown
