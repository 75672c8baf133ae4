import InteractiveBook.Markdown.LinkPart
import InteractiveBook.Markdown.Table

/-!
# Blocks without blocks in them

A heading, code, raw HTML and a paragraph are each read from the place behind the indentation of
their first line, and end with a line of their own or before one that does not belong to them. Each
reader gives the block and the place behind it.
-/

namespace InteractiveBook.Markdown

/-- A line between two places, within code or raw HTML. A carriage return before its last character
is left out. -/
def Passage.literalLine (s : Passage) (i j : Nat) : List Char :=
  if i + 2 ≤ j ∧ s.has '\r' (j - 2) = true ∧ s.meets (fun c => c.toNat < 0x80) (j - 1) = true then
    s.slice i (j - 2) ++ s.slice (j - 1) j
  else s.slice i j

/-- Where the content of a heading stops that stands between two places: before spaces and a closing
run of number signs. -/
def Passage.headingStop (s : Passage) (i j : Nat) : Nat :=
  let stop := s.back (fun c => c == ' ' || isLineEndChar c) i j
  let closing := s.back (· == '#') i stop
  let content := s.back (· == ' ') i closing
  if closing = i then i else if content < closing then content else stop

/-- Nodes, the latest first, of which the last stops elsewhere. -/
def stopLastAt (stop : Nat → Nat) : List Node → List Node
  | [] => []
  | n :: ns => n.stopAt (stop n.stop) :: ns

/-- A line of code. -/
structure CodeLine where
  /-- The line with the spaces that are left of a tab before it. -/
  text : List Char
  /-- The place behind it. -/
  stop : Nat
  /-- Nothing but blanks is on it. -/
  blank : Bool

namespace Scope

/-- A heading that begins with so many number signs. -/
def readHeading (sc : Scope) (level i : Nat) : Node × Nat :=
  match sc.passage.lineEnd? (i + level) with
  | some next => (.block i next (.heading level) [], next)
  | none =>
    let start := sc.passage.skip isBlankChar (i + level)
    let (nodes, next, ending) := sc.readLine .plain [] start
    let nodes := (ending.map (·.close nodes)).getD nodes
    let stop := sc.passage.headingStop start next
    (.block i next (.heading level) (stopLastAt (fun _ => stop) nodes).reverse, next)

/-- A line of code between two places, with the columns before it that are left of a tab. -/
def codeLine (sc : Scope) (pending i j : Nat) : List Char :=
  List.replicate pending ' ' ++ sc.passage.literalLine i j

/-- The lines of indented code, the latest first, and the place behind them. The first number bounds
how many are read. -/
def indentedLines (sc : Scope) : Nat → Nat → Nat → Bool → List CodeLine → List CodeLine × Nat
  | 0, _, i, _, lines => (lines, i)
  | n + 1, pending, i, blank, lines =>
    let next := sc.passage.nextLine i
    let lines := ⟨sc.codeLine pending i next, next, blank⟩ :: lines
    let (inside, m) := sc.enter next
    let (k, m) := m.skipSpaces sc.passage 4
    if !inside || (k < 4 && !sc.passage.endsLine m.place) || m.place == sc.passage.stop then
      (lines, next)
    else sc.indentedLines n m.pending m.place (sc.passage.isBlank m.place) lines

/-- Indented code, and whether blank lines follow it. Those do not belong to it. -/
def readIndentedCode (sc : Scope) (pending i : Nat) : Node × Bool × Nat :=
  let (lines, next) := sc.indentedLines (sc.passage.stop + 1) pending i false []
  let kept := lines.dropWhile (·.blank)
  let stop := (kept.head?.map (·.stop)).getD next
  let text := kept.reverse.flatMap (·.text)
  (.block i stop (.code [] text) [], (lines.head?.map (·.blank)).getD false, next)

/-- The lines of fenced code, the latest first, the place where it stops and the one behind it. At
most so many lines are read. -/
def fencedLines (sc : Scope) (indent : Nat) (mark : Char) (length : Nat) :
    Nat → Nat → List (List Char) → List (List Char) × Nat × Nat
  | 0, i, lines => (lines, i, i)
  | n + 1, i, lines =>
    let s := sc.passage
    let (inside, m) := sc.enter i
    if !inside then (lines, i, i)
    else
      let (_, m) := m.skipSpaces s indent
      let (k, closing) := m.skipSpaces s (4 - indent)
      match if k < 4 - indent then s.closingFence? mark length closing.place else none with
      | some stop => (lines, stop, (s.blankEnd? stop).getD stop)
      | none =>
        let next := s.nextLine m.place
        sc.fencedLines indent mark length n next (sc.codeLine m.pending m.place next :: lines)

/-- Code behind a fence that is indented so far. Its lines are indented as far at most. -/
def readFencedCode (sc : Scope) (indent : Nat) (mark : Char) (length i : Nat) : Node × Nat :=
  let s := sc.passage
  let start := s.skip isBlankChar (i + length)
  let body := s.nextLine start
  let info := s.slice start (s.back isSpaceChar start body)
  let (lines, stop, next) := sc.fencedLines indent mark length (s.stop + 1) body []
  (.block i stop (.code (unescape sc.inTable info) lines.reverse.flatten) [], next)

/-- The lines of raw HTML, the latest first, the place where it stops and the one behind it. The
first number bounds how many lines are read. -/
def htmlLines (sc : Scope) (ends : HtmlEnd) :
    Nat → Nat → Nat → List HtmlLine → List HtmlLine × Nat × Nat
  | 0, _, i, lines => (lines, i, i)
  | n + 1, indent, i, lines =>
    let s := sc.passage
    let next := s.nextLine i
    let lines := ⟨indent, s.literalLine i next⟩ :: lines
    let (inside, m) := sc.enter next
    let last := match ends with
      | .text closing => ((s.upTo next).find? closing i).isSome
      | .blankLine => s.endsLine m.place
    let final := match ends with
      | .text _ => m.place == s.stop
      | .blankLine => m.place == s.stop || s.isBlank m.place
    if !inside || last then (lines, next, next)
    else if final then (lines, m.place, next)
    else sc.htmlLines ends n m.pending m.place lines

/-- Raw HTML that is indented so far. -/
def readHtml (sc : Scope) (ends : HtmlEnd) (indent i : Nat) : Node × Nat :=
  let (lines, stop, next) := sc.htmlLines ends (sc.passage.stop + 1) indent i []
  (.block i stop (.html lines.reverse) [], next)

/-- A paragraph that starts at the first place and goes on at the second behind some nodes, the
latest first. It may turn out to be a heading that is underlined, or a table. At most so many lines
are read. -/
def readParagraphFrom (sc : Scope) (start : Nat) :
    Nat → LineRole → List Node → Nat → Node × Nat
  | 0, _, nodes, i => (.block start i .paragraph nodes.reverse, i)
  | n + 1, role, nodes, i =>
    let s := sc.passage
    let (nodes, next, ending) := sc.readLine role nodes i
    let closed := (ending.map (·.close nodes)).getD nodes
    let (inside, m) := sc.enter next
    let (k, m) := m.skipSpaces s 4
    match ending.map LineEnding.kind, if inside && k < 4 then s.underline? m.place else none with
    | some (.table columns), _ => sc.readTable columns i next
    | kind, some (level, stop) =>
      let content := match kind with
        | some (.hard true) => closed
        | _ => stopLastAt (s.back isBlankChar start) nodes
      (.block start stop (.heading level) content.reverse, stop)
    | _, none =>
      let j := s.skip isIndentChar m.place
      if (k < 4 && sc.interrupts inside m.place) || s.endsLine j then
        (.block start next .paragraph closed.reverse, next)
      else sc.readParagraphFrom start n .plain ((ending.bind (·.node?)).toList ++ nodes) j

/-- A paragraph, a heading that is underlined, or a table. -/
def readParagraph (sc : Scope) (i : Nat) : Node × Nat :=
  let role := if sc.extensions.tables then .first else .plain
  sc.readParagraphFrom i (sc.passage.stop + 1) role [] i

/-- The definitions from a place on, the latest first behind some others, and the place where
something else stands, which may be a paragraph. At most so many are read. -/
def readDefinitions (sc : Scope) : Nat → List Definition → Nat → List Definition × Nat × Bool
  | 0, ds, i => (ds, i, true)
  | n + 1, ds, i => match sc.definition? i with
    | none => (ds, i, true)
    | some (d, behind) => match sc.passage.blankEnd? behind with
      | none => (d :: ds, behind, false)
      | some next =>
        let (inside, m) := sc.enter next
        let (k, m) := m.skipSpaces sc.passage 4
        if k < 4 && sc.interrupts inside m.place then (d :: ds, next, false)
        else sc.readDefinitions n (d :: ds) (sc.passage.skip isIndentChar m.place)

end Scope

end InteractiveBook.Markdown
