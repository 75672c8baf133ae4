import InteractiveBook.Text.Character

/-!
# Places in a text

A passage is a text whose characters are numbered, up to a place where it stops. Readers are given
a place and answer with a later one, so that a construct can be tried, given up, and tried
differently without copying the text.
-/

namespace InteractiveBook.Markdown

/-- The blanks within a line: space, tab, line tabulation and form feed. -/
def isBlankChar (c : Char) : Bool :=
  c == ' ' || c == '\t' || c.toNat == 0x0b || c.toNat == 0x0c

/-- The blanks that indent a line: space and tab. -/
def isIndentChar (c : Char) : Bool := c == ' ' || c == '\t'

/-- The characters that end a line. -/
def isLineEndChar (c : Char) : Bool := c == '\n' || c == '\r'

/-- The blanks and the line ends. -/
def isSpaceChar (c : Char) : Bool := isBlankChar c || isLineEndChar c

/-- A text with numbered characters. -/
structure Passage where
  /-- The characters. -/
  chars : Array Char
  /-- The first place that is no longer part of it. -/
  stop : Nat

namespace Passage

/-- A whole text. -/
def ofChars (cs : List Char) : Passage := ⟨cs.toArray, cs.length⟩

/-- The same text up to an earlier place. -/
def upTo (s : Passage) (stop : Nat) : Passage := { s with stop := min stop s.stop }

/-- The character at a place. -/
def at? (s : Passage) (i : Nat) : Option Char := if i < s.stop then s.chars[i]? else none

/-- A character stands at a place. -/
def has (s : Passage) (c : Char) (i : Nat) : Bool := s.at? i == some c

/-- A character of a class stands at a place. -/
def meets (s : Passage) (p : Char → Bool) (i : Nat) : Bool := (s.at? i).any p

/-- A text stands at a place. -/
def begins (s : Passage) : List Char → Nat → Bool
  | [], _ => true
  | c :: cs, i => s.has c i && s.begins cs (i + 1)

/-- The characters between two places. -/
def slice (s : Passage) (i j : Nat) : List Char := (s.chars.extract i (min j s.stop)).toList

/-- The first place from here on where no character of a class stands. -/
def skip (s : Passage) (p : Char → Bool) (i : Nat) : Nat :=
  if i < s.stop then if s.meets p i then s.skip p (i + 1) else i else i
termination_by s.stop - i

/-- How many equal characters follow each other from a place on. -/
def runLength (s : Passage) (c : Char) (i : Nat) : Nat := s.skip (· == c) i - i

/-- The place before the characters of a class that end here, not before a lower bound. -/
def back (s : Passage) (p : Char → Bool) (low : Nat) : Nat → Nat
  | 0 => 0
  | i + 1 => if low ≤ i && s.meets p i then s.back p low i else i + 1

/-- The first place from here on where a text stands. -/
def find? (s : Passage) (cs : List Char) (i : Nat) : Option Nat :=
  if i < s.stop then if s.begins cs i then some i else s.find? cs (i + 1) else none
termination_by s.stop - i

/-- The place behind the end of a line, if a line ends here; the passage ends its last line. -/
def lineEnd? (s : Passage) (i : Nat) : Option Nat :=
  match s.at? i with
  | none => some i
  | some '\n' => some (i + 1)
  | some '\r' => some (if s.has '\n' (i + 1) then i + 2 else i + 1)
  | some _ => none

/-- A line ends here. -/
def endsLine (s : Passage) (i : Nat) : Bool := (s.lineEnd? i).isSome

/-- The place behind the end of a line, if nothing but blanks stands before it. -/
def blankEnd? (s : Passage) (i : Nat) : Option Nat := s.lineEnd? (s.skip isBlankChar i)

/-- Nothing but blanks stands before the end of the line. -/
def isBlank (s : Passage) (i : Nat) : Bool := (s.blankEnd? i).isSome

/-- The place behind the next line feed, or the end. -/
def nextLine (s : Passage) (i : Nat) : Nat := min (s.skip (· != '\n') i + 1) s.stop

/-- The place behind blanks among which one line may end, and whether one does. Behind the line end
the text goes on where a function says, or not at all. -/
def gap? (s : Passage) (onward : Nat → Option Nat) (i : Nat) : Option (Nat × Bool) :=
  let j := s.skip isBlankChar i
  match s.lineEnd? j with
  | none => some (j, false)
  | some next => (onward next).bind fun k =>
    let k := s.skip isBlankChar k
    if s.endsLine k then none else some (k, true)

end Passage

end InteractiveBook.Markdown
