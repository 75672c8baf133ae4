import InteractiveBook.Markdown.Node
import InteractiveBook.Markdown.Passage

/-!
# Emphasis

Runs of stars, underscores and tildes may open and close emphasis, as the characters around them
allow. The runs of a text are paired from left to right: a run that may close looks back for the
nearest run that it can close, and whatever stands open between the two stands for itself.
-/

namespace InteractiveBook.Markdown

/-- What a stretch of a document has turned out to be. -/
inductive Content where
  /-- Running text or a mark. -/
  | leaf (l : Leaf)
  /-- An element. -/
  | element (e : Element)

/-- A stretch of a document while its running text is settled. -/
structure Piece where
  /-- Where it starts. -/
  start : Nat
  /-- Where it stops. -/
  stop : Nat
  /-- What it is. -/
  content : Content

namespace Piece

/-- A text. -/
def ofText (start stop : Nat) : Piece := ⟨start, stop, .leaf .text⟩

/-- The piece as an element, in which a mark stands for itself. -/
def element (s : Passage) (p : Piece) : Element :=
  match p.content with
  | .element e => e
  | .leaf (.given cs) => .text cs
  | .leaf .softBreak => .softBreak
  | .leaf (.hardBreak _) => .hardBreak
  | .leaf .text => .text (s.slice p.start p.stop)
  | .leaf (.mark _) => .text (s.slice p.start p.stop)

/-- The piece is a mark. -/
def isMark (p : Piece) : Bool :=
  match p.content with
  | .leaf (.mark _) => true
  | _ => false

end Piece

/-- A run of equal delimiters. -/
structure Run where
  /-- The delimiter. -/
  mark : Char
  /-- How many there are. -/
  length : Nat
  /-- It may open emphasis. -/
  opens : Bool
  /-- It may close emphasis. -/
  closes : Bool
  /-- The text that belongs to its last delimiter. -/
  tail : List Char

/-- A run that is open. -/
structure OpenRun where
  /-- The run as it was read. -/
  run : Run
  /-- How many of its delimiters are still unused. -/
  left : Nat
  /-- What follows it so far, the latest first. -/
  content : List Element

/-- The state between two parts of a text. -/
structure PairState where
  /-- What comes before all open runs, the latest first. -/
  front : List Element := []
  /-- The open runs, the innermost first. -/
  opened : List OpenRun := []
  /-- Among the outermost runs, how many a run of tildes no longer closes. -/
  tildeFloor : Nat := 0

/-- So many unused delimiters of a run. -/
def Run.literal (left : Nat) (r : Run) : Element := .text (List.replicate left r.mark ++ r.tail)

/-- An open run stands for itself, with what follows it. -/
def OpenRun.literal (o : OpenRun) : List Element := o.content ++ [o.run.literal o.left]

namespace PairState

/-- An element follows. -/
def add (e : Element) (p : PairState) : PairState :=
  match p.opened with
  | [] => { p with front := e :: p.front }
  | o :: rest => { p with opened := { o with content := e :: o.content } :: rest }

/-- Elements follow, listed with the latest first. -/
def addAll (es : List Element) (p : PairState) : PairState := es.foldr add p

/-- A closing run matches an open one: it has the same marks, tildes in the same number. Where one
of the two runs could be either, the sum of their lengths is no multiple of three, unless both
lengths are. -/
def closesRun (r : Run) (o : OpenRun) : Bool :=
  r.mark == o.run.mark && (r.mark != '~' || r.length == o.run.length)
    && ((!(r.opens && r.closes) && !(o.run.opens && o.run.closes))
      || (r.length + o.run.length) % 3 != 0 || r.length % 3 == 0)

/-- How many of the outermost open runs a closing run does not look at. -/
def floor (r : Run) (p : PairState) : Nat := if r.mark == '~' then p.tildeFloor else 0

/-- Some elements between so many delimiters on either side. -/
def wrap (mark : Char) : Nat → List Element → List Element
  | 0, es => es
  | 1, es => [if mark == '~' then .struck es else .emphasis es]
  | n + 2, es => wrap mark n [if mark == '~' then .struck es else .strong es]

/-- The state after so many delimiters of a run have closed what they can, and how many are left.
The first number bounds how many open runs are closed. -/
def close (r : Run) : Nat → Nat → PairState → PairState × Nat
  | 0, left, p => (p, left)
  | n + 1, left, p =>
    let inner := (p.opened.take (p.opened.length - p.floor r)).takeWhile fun o => !closesRun r o
    let rest := p.opened.drop inner.length
    if left = 0 then (p, 0)
    else match rest with
      | [] =>
        (if r.mark == '~' then { p with tildeFloor := p.opened.length } else p, left)
      | o :: outer =>
        if closesRun r o && p.floor r < rest.length then
          let used := min left o.left
          let content := (inner.flatMap OpenRun.literal) ++ o.content
          let whole := wrap r.mark used content.reverse
          let p := { p with opened := outer, tildeFloor := min p.tildeFloor outer.length }
          let p :=
            if used < o.left then
              { p with opened := { o with left := o.left - used, content := whole } :: outer }
            else p.addAll whole
          close r n (left - used) p
        else (if r.mark == '~' then { p with tildeFloor := p.opened.length } else p, left)

/-- The state after a run. -/
def addRun (r : Run) (p : PairState) : PairState :=
  let (p, left) := if r.closes then close r r.length r.length p else (p, r.length)
  if left = 0 then p
  else if r.opens then { p with opened := ⟨r, left, []⟩ :: p.opened }
  else p.add (r.literal left)

/-- The state after one more piece of the text. -/
def next (s : Passage) (p : PairState) (piece : Piece) : PairState :=
  match piece.content with
  | .leaf (.mark (.run mark count opens closes)) =>
    p.addRun ⟨mark, count, opens, closes, s.slice (piece.start + count) piece.stop⟩
  | _ => p.add (piece.element s)

/-- The elements in order, once nothing follows. -/
def finish (p : PairState) : List Element := (p.opened.flatMap OpenRun.literal ++ p.front).reverse

end PairState

/-- Some pieces, the last of which is no line break: a backslash at the end stands for itself. -/
def endPieces : List Piece → List Piece
  | [] => []
  | [⟨start, stop, .leaf (.hardBreak true)⟩] => [⟨start, stop, .leaf (.given ['\\'])⟩]
  | p :: ps => p :: endPieces ps

/-- The elements of a text in which the runs are the only marks. -/
def pairRuns (s : Passage) (pieces : List Piece) : List Element :=
  ((endPieces pieces).foldl (PairState.next s) {}).finish

end InteractiveBook.Markdown
