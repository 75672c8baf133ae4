import InteractiveBook.Markdown.Margin
import InteractiveBook.Markdown.RawHtml
import InteractiveBook.Text.Decimal

/-!
# Beginnings of blocks

What the first characters of a line, behind its indentation, say about the block that begins there.
-/

namespace InteractiveBook.Markdown

namespace Passage

/-- The place behind a line of three or more equal stars, hyphens or underscores with blanks between
them. -/
def ruleEnd? (s : Passage) (i : Nat) : Option Nat :=
  (s.at? i).bind fun c =>
    let j := s.skip (fun d => d == c || isIndentChar d) i
    if (c == '*' || c == '-' || c == '_') && 3 ≤ (s.slice i j).countP (· == c) then s.lineEnd? j
    else none

/-- The level of a heading that begins with number signs. -/
def headingLevel? (s : Passage) (i : Nat) : Option Nat :=
  let level := s.runLength '#' i
  if 1 ≤ level ∧ level ≤ 6
      ∧ (s.endsLine (i + level) = true ∨ s.meets isSpaceChar (i + level) = true) then some level
  else none

/-- The level of a heading that is underlined by this line, and the place behind the line. -/
def underline? (s : Passage) (i : Nat) : Option (Nat × Nat) :=
  if s.has '=' i then (s.blankEnd? (s.skip (· == '=') i)).map (1, ·)
  else if s.has '-' i then (s.blankEnd? (s.skip (· == '-') i)).map (2, ·)
  else none

/-- A character of a code fence and its length. A fence of backquotes has none behind it on the
line. -/
def fence? (s : Passage) (i : Nat) : Option (Char × Nat) :=
  (s.at? i).bind fun c =>
    let length := s.runLength c i
    let rest := s.slice (i + length) (s.nextLine (i + length))
    if (c == '~' || c.toNat == 0x60) && 3 ≤ length && !(c.toNat == 0x60 && rest.contains c) then
      some (c, length)
    else none

/-- The place behind a fence that ends code fenced by so many characters. The end of the text does
too. -/
def closingFence? (s : Passage) (c : Char) (length i : Nat) : Option Nat :=
  let j := s.skip (· == ' ') (s.skip (· == c) i)
  if s.stop ≤ i then some i
  else if length ≤ s.runLength c i && s.endsLine j then some j
  else none

/-- A bullet or number at the start of a line, and the place behind it. -/
def bullet? (s : Passage) (i : Nat) : Option (ListMarker × Nat) :=
  (s.at? i).bind fun c =>
    if c == '-' || c == '+' || c == '*' then some (⟨c, none⟩, i + 1)
    else
      let digits := (s.slice i (i + 9)).takeWhile Char.isDigit
      let j := i + digits.length
      (s.at? j).bind fun d =>
        if !digits.isEmpty && (d == '.' || d == ')') then
          some (⟨d, some (Text.decimalValue digits)⟩, j + 1)
        else none

end Passage

namespace Margin

/-- An item of a list: its marker, the indentation of its content, and the margin where that
begins, from the margin behind its own indentation of so many columns. -/
def listMarker? (s : Passage) (indent : Nat) (m : Margin) : Option (ListMarker × Nat × Margin) :=
  if (s.ruleEnd? m.place).isSome then none
  else (s.bullet? m.place).bind fun (marker, behind) =>
    let length := behind - m.place
    let (space, inside) := (m.advance length).skipSpaces s 1
    let width := indent + length + 1
    if space = 0 ∧ s.endsLine inside.place = false then none
    else if s.isBlank inside.place then some (marker, width, inside)
    else
      let (more, content) := inside.skipSpaces s 4
      if more < 4 then some (marker, width + more, content) else some (marker, width, inside)

end Margin

/-- The part of a delimiter row that has been read. -/
structure DelimiterState where
  /-- The columns that are complete, the latest first. -/
  columns : List Alignment := []
  /-- The alignment of the present column so far. -/
  current : Alignment := .unset
  /-- Nothing of the present column has been read. -/
  fresh : Bool := true
  /-- The present column has a hyphen. -/
  hyphen : Bool := false

/-- The state after one more character; no other characters occur. A column that a pipe ends has a
hyphen. -/
def DelimiterState.next? (d : DelimiterState) (c : Char) : Option DelimiterState :=
  if c == ' ' then some d
  else if c == '-' then some { d with fresh := false, hyphen := true }
  else if c == ':' then
    let current := match d.fresh, d.current with
      | true, .unset => .left
      | false, .left => .center
      | false, .unset => .right
      | _, a => a
    some { d with current, fresh := false }
  else if c == '|' then
    if d.hyphen then some { columns := d.current :: d.columns } else none
  else none

namespace Passage

/-- The alignments of the columns that a delimiter row lists, and the place behind the row. It has a
pipe and a hyphen. -/
def delimiterRow? (s : Passage) (i : Nat) : Option (List Alignment × Nat) :=
  let j := s.skip (· == ' ') i
  let lineEnd := s.skip (fun c => !isLineEndChar c) j
  let line := s.slice j lineEnd
  let cells := match line with
    | '|' :: rest => rest
    | cs => cs
  if 3 < j - i ∨ line.contains '|' = false ∨ line.contains '-' = false then none
  else (cells.foldlM DelimiterState.next? {}).bind fun d =>
    let columns := if d.fresh then d.columns else d.current :: d.columns
    (s.lineEnd? lineEnd).map (columns.reverse, ·)

/-- The places of the pipes between two places, but for those right behind a backslash. -/
def pipes (s : Passage) (i j : Nat) : List Nat :=
  (List.range' i (j - i)).filter fun k => s.has '|' k && !(i < k && s.has '\\' (k - 1))

/-- How many columns the header of a table has that stands between two places, if there is a pipe
in it. A pipe may stand in front of the first and behind the last. -/
def headerColumns? (s : Passage) (i j : Nat) : Option Nat :=
  let pipes := s.pipes i j
  pipes.getLast?.map fun last =>
    let inner := if s.has '|' (s.skip isBlankChar i) then pipes.length - 1 else pipes.length
    if s.isBlank (last + 1) then inner else inner + 1

end Passage

end InteractiveBook.Markdown
