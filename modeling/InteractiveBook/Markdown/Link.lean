import InteractiveBook.Markdown.Emphasis
import InteractiveBook.Markdown.LinkPart
import InteractiveBook.Text.Trim

/-!
# Links, code spans and raw HTML in a running text

The pieces of a text are read from left to right. Code, raw HTML and addresses in angle brackets are
known at once; a bracket is kept until its partner shows whether the two make a link. A construct
takes in all pieces that stop within it, and a piece that goes on behind it starts there.
-/

namespace InteractiveBook.Markdown

/-- The characters before the sign in an electronic mail address, other than letters and digits. -/
def mailMarks : List Char := ".!#$%&'*+/=?^_".toList ++ [Char.ofNat 0x60] ++ "\x7b|\x7d~-".toList

/-- A part of a host name. -/
def isHostLabel (cs : List Char) : Bool :=
  1 ≤ cs.length && cs.length ≤ 63 && cs.all (fun c => Text.isAsciiAlphanumeric c || c == '-')
    && cs.head? != some '-' && cs.getLast? != some '-'

namespace Passage

/-- The place of the bracket that ends an absolute address. -/
def uriEnd? (s : Passage) (i : Nat) : Option Nat :=
  let colon := s.skip (fun c => Text.isAsciiAlphanumeric c || c == '.' || c == '-' || c == '+') i
  let stop := s.skip (fun c => c != '>' && c != '<' && 0x20 < c.toNat) colon
  if s.meets Text.isAsciiLetter i && s.has ':' colon && 2 ≤ colon - i && colon - i ≤ 32
      && s.has '>' stop then some stop
  else none

/-- The place of the bracket that ends an electronic mail address. -/
def mailEnd? (s : Passage) (i : Nat) : Option Nat :=
  let sign := s.skip (fun c => Text.isAsciiAlphanumeric c || mailMarks.contains c) i
  let stop := s.skip (fun c => Text.isAsciiAlphanumeric c || c == '-' || c == '.') (sign + 1)
  if i < sign && s.has '@' sign && s.has '>' stop
      && (Text.splitOnChar '.' (s.slice (sign + 1) stop)).all isHostLabel then some stop
  else none

/-- The target of an address in angle brackets, and the place of the bracket that ends it. -/
def address? (s : Passage) (i : Nat) : Option (List Char × Nat) :=
  match s.uriEnd? i with
  | some stop => some (s.slice i stop, stop)
  | none => (s.mailEnd? i).map fun stop => ("mailto:".toList ++ s.slice i stop, stop)

end Passage

/-- The pieces from a place on. -/
def piecesFrom (i : Nat) (pieces : List Piece) : List Piece :=
  match pieces.dropWhile fun p => p.stop ≤ i with
  | [] => []
  | p :: rest => { p with start := max p.start i } :: rest

/-- The place where the text goes on behind the end of a line, from the pieces that follow. -/
def lineStart? (pieces : List Piece) (i : Nat) : Option Nat :=
  (pieces.find? fun p => i + 1 < p.stop).bind fun p => if i < p.start then some p.start else none

/-- A run of so many backquotes, the first among some pieces, and the pieces behind it. -/
def backquotesIn? (count : Nat) : List Piece → Option (Piece × List Piece)
  | [] => none
  | p :: rest => match p.content with
    | .leaf (.mark (.backquotes n _)) =>
      if n = count then some (p, rest) else backquotesIn? count rest
    | _ => backquotesIn? count rest

namespace Scope

/-- Where a construct in a running text goes on on a further line. -/
def textLine? (sc : Scope) (i : Nat) : Option Nat := some (sc.afterMarkers i)

/-- The scope up to an earlier place. -/
def upTo (sc : Scope) (stop : Nat) : Scope := { sc with passage := sc.passage.upTo stop }

/-- The characters of a code span between two places: line ends are spaces, and in a table the
backslash before a pipe is left out. The first number bounds how many are looked at. -/
def codeChars (sc : Scope) : Nat → Nat → Nat → List Char
  | 0, _, _ => []
  | n + 1, i, j =>
    if i < j then
      if sc.passage.meets isLineEndChar i then
        ' ' :: sc.codeChars n ((sc.upTo j).afterMarkers (i + 1)) j
      else if sc.inTable && i + 1 < j && sc.passage.begins ['\\', '|'] i then
        '|' :: sc.codeChars n (i + 2) j
      else sc.passage.slice i (i + 1) ++ sc.codeChars n (i + 1) j
    else []

/-- The content of a code span between two places. One space at either end is left out, unless there
is nothing else. -/
def codeContent (sc : Scope) (i j : Nat) : List Char :=
  let cs := sc.codeChars (j - i) i j
  if cs.head? == some ' ' && cs.getLast? == some ' ' && !cs.all (· == ' ') then
    (cs.drop 1).dropLast
  else cs

/-- An address in angle brackets or a piece of raw HTML, whose first bracket is given, and the
pieces behind it. -/
def angle? (sc : Scope) (p : Piece) (rest : List Piece) : Option (Piece × List Piece) :=
  let s := sc.passage
  rest.head?.bind fun next => match s.address? next.start with
    | some (target, last) =>
      let link := Element.link target [] [.text (s.slice (p.start + 1) last)]
      some (⟨p.start, last + 1, .element link⟩, piecesFrom (last + 1) rest)
    | none => match s.inlineInstructionEnd? next.start with
      | some stop =>
        some (⟨p.start, stop, .element (.html (s.slice p.start stop))⟩, piecesFrom stop rest)
      | none => (s.tagEnd? sc.textLine? next.start).map fun stop =>
        let text := s.unmarked sc.textLine? (stop - p.start) p.start stop
        (⟨p.start, stop, .element (.html text)⟩, piecesFrom stop rest)

/-- A title in a running text up to the character that ends it, and the place behind that; at most
so many characters are looked at. -/
def titleWithin? (sc : Scope) (rest : List Piece) (opening closing : Char) :
    Nat → Nat → List Char → Option (List Char × Nat)
  | 0, _, _ => none
  | n + 1, i, before =>
    let s := sc.passage
    (s.at? i).bind fun c =>
      if c == closing then some (before.reverse, i + 1)
      else if c == opening then none
      else match if isLineEndChar c then lineStart? rest i else none with
        | some j => sc.titleWithin? rest opening closing n j ('\n' :: before)
        | none => match if c == '&' then s.reference? i else none with
          | some (cs, j) => sc.titleWithin? rest opening closing n j (cs.reverse ++ before)
          | none =>
            let j := if sc.inTable && s.hasPipeEscape i then i + 2
              else if s.hasEscape i then i + 1 else i
            sc.titleWithin? rest opening closing n (j + 1) ((s.slice j (j + 1)).reverse ++ before)

/-- A title in a running text, and the place behind it. -/
def title? (sc : Scope) (rest : List Piece) (i : Nat) : Option (List Char × Nat) :=
  (sc.passage.titleEnd? i).bind fun closing => (sc.passage.at? i).bind fun opening =>
    sc.titleWithin? rest opening closing sc.passage.stop (i + 1) []

/-- A target and a title in parentheses, and the place behind them. -/
def targetAndTitle? (sc : Scope) (rest : List Piece) (i : Nat) :
    Option (List Char × List Char × Nat) :=
  if sc.passage.has '(' i then
    (sc.passage.target? (sc.gapEnd (i + 1))).bind fun (target, behind) =>
      let j := sc.gapEnd behind
      let (title, stop) := match sc.title? rest j with
        | some (title, titleEnd) => (title, sc.gapEnd titleEnd)
        | none => ([], j)
      if sc.passage.has ')' stop then some (unescape sc.inTable target, title, stop + 1) else none
  else none

/-- A label whose opening bracket stands at a place, folded, and the place behind it. -/
def label? (sc : Scope) (i : Nat) : Option (List Char × Nat) :=
  if sc.passage.has '[' i then sc.labelBy? sc.textLine? (i + 1) else none

end Scope

/-- A bracket that may begin a link or an image. -/
structure Bracket where
  /-- It begins an image. -/
  image : Bool
  /-- It may still become a link; no link holds another. -/
  usable : Bool
  /-- The bracket for itself. -/
  piece : Piece
  /-- What came before it since the bracket around it, the latest first. -/
  before : List Piece

/-- The state between two pieces of a running text. -/
structure LinkState where
  /-- What was read since the innermost bracket, the latest first. -/
  pieces : List Piece := []
  /-- The open brackets, the innermost first. -/
  brackets : List Bracket := []

namespace LinkState

/-- A piece follows. -/
def add (p : Piece) (l : LinkState) : LinkState := { l with pieces := p :: l.pieces }

/-- The pieces once the innermost bracket stands for itself. -/
def dropBracket (l : LinkState) : LinkState :=
  match l.brackets with
  | [] => l
  | b :: outer => ⟨l.pieces ++ b.piece :: b.before, outer⟩

/-- The pieces in order, once nothing follows: brackets that are open stand for themselves. -/
def finish (l : LinkState) : List Piece :=
  (l.pieces ++ l.brackets.flatMap fun b => b.piece :: b.before).reverse

end LinkState

/-- The elements of a text in which all marks but the runs have been settled. -/
def elementsOfRuns (s : Passage) (pieces : List Piece) : List Element :=
  (pieces.takeWhile fun p => !p.isMark).map (Piece.element s)
    ++ pairRuns s (pieces.dropWhile fun p => !p.isMark)

/-- The state after a bracket, that of a stack's top, has become a link or an image that stops at a
place. The brackets around a link are no longer usable for links. -/
def Bracket.link (s : Passage) (b : Bracket) (outer : List Bracket) (content : List Piece)
    (target title : List Char) (stop : Nat) : LinkState :=
  let children := elementsOfRuns s content.reverse
  let e := if b.image then Element.image target title children else .link target title children
  ⟨⟨b.piece.start, stop, .element e⟩ :: b.before,
    if b.image then outer else outer.map fun o => { o with usable := o.usable && o.image }⟩

/-- What a pair of brackets refers to by a label. -/
structure LabelSearch where
  /-- The label, folded. -/
  label : Option (List Char)
  /-- Where the reference stops. -/
  stop : Nat
  /-- The pieces behind the reference. -/
  behind : List Piece
  /-- The pieces behind the closing bracket if nothing is defined by the label. -/
  otherwise : List Piece

namespace Scope

/-- What a pair of brackets refers to: a label in brackets of its own, or what stands between the
two. -/
def searchLabel (sc : Scope) (b : Bracket) (p : Piece) (tried : Bool) (rest : List Piece) :
    LabelSearch :=
  let own := if tried then none
    else ((sc.upTo p.stop).label? (b.piece.stop - 1)).bind fun (label, stop) =>
      if stop = p.stop then some label else none
  match rest.head?.map (·.start) with
  | none => ⟨own, p.stop, rest, rest⟩
  | some i =>
    if sc.passage.begins ['[', ']'] i then ⟨own, p.stop, rest.drop 2, rest⟩
    else match sc.label? i with
      | none => ⟨own, p.stop, rest, rest⟩
      | some (label, stop) =>
        let before := rest.takeWhile fun q => q.stop < stop
        let behind := rest.drop (before.length + 1)
        let tried := ((rest.drop before.length).take 1).map fun q =>
          { q with content := .leaf (.mark (.closing true)) }
        ⟨some label, stop, behind, before ++ tried ++ behind⟩

/-- A closing bracket, with the pieces behind it: the end of a link or an image, or itself. -/
def closeBracket (sc : Scope) (definitions : List Definition) (l : LinkState) (p : Piece)
    (tried : Bool) (rest : List Piece) : LinkState × List Piece :=
  let literal := l.dropBracket.add (.ofText p.start p.stop)
  match l.brackets with
  | [] => (literal, rest)
  | b :: outer =>
    if !b.usable then (literal, rest)
    else match sc.targetAndTitle? rest p.stop with
      | some (target, title, stop) =>
        (b.link sc.passage outer l.pieces target title stop, piecesFrom stop rest)
      | none =>
        let found := sc.searchLabel b p tried rest
        match found.label.bind (Definition.find? definitions) with
        | some d => (b.link sc.passage outer l.pieces d.target d.title found.stop, found.behind)
        | none => (literal, found.otherwise)

/-- A run of backquotes, with the pieces behind it: a code span, or itself. The first backquote of
an escaped run stands for itself. -/
def closeCode (sc : Scope) (l : LinkState) (p : Piece) (count : Nat) (escaped : Bool)
    (rest : List Piece) : LinkState × List Piece :=
  let length := if escaped then count - 1 else count
  match if length = 0 then none else backquotesIn? length rest with
  | none => (l.add (.ofText p.start p.stop), rest)
  | some (last, behind) =>
    let start := if escaped then p.start + 1 else p.start
    let code : Piece := ⟨start, last.stop, .element (.code (sc.codeContent p.stop last.start))⟩
    ((if escaped then l.add (.ofText p.start start) else l).add code, behind)

/-- The state after a piece, and the pieces that follow. -/
def settlePiece (sc : Scope) (definitions : List Definition) (l : LinkState) (p : Piece)
    (rest : List Piece) : LinkState × List Piece :=
  match p.content with
  | .leaf (.mark .angle) => match sc.angle? p rest with
    | some (found, behind) => (l.add found, behind)
    | none => (l.add (.ofText p.start p.stop), rest)
  | .leaf (.mark (.backquotes count escaped)) => sc.closeCode l p count escaped rest
  | .leaf (.mark (.opening image)) =>
    (⟨[], ⟨image, true, .ofText p.start p.stop, l.pieces⟩ :: l.brackets⟩, rest)
  | .leaf (.mark (.closing tried)) => sc.closeBracket definitions l p tried rest
  | _ => (l.add p, rest)

/-- The state after some pieces, at most so many. -/
def settleWithin (sc : Scope) (definitions : List Definition) :
    Nat → LinkState → List Piece → LinkState
  | 0, l, _ => l
  | _, l, [] => l
  | n + 1, l, p :: rest =>
    let (l, behind) := sc.settlePiece definitions l p rest
    sc.settleWithin definitions n l behind

/-- The elements of a text. What comes before its first mark is not touched. -/
def elements (sc : Scope) (definitions : List Definition) (pieces : List Piece) : List Element :=
  let front := pieces.takeWhile fun p => !p.isMark
  let rest := pieces.dropWhile fun p => !p.isMark
  front.map (Piece.element sc.passage)
    ++ pairRuns sc.passage (sc.settleWithin definitions rest.length {} rest).finish

end Scope

end InteractiveBook.Markdown
