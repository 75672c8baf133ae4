import InteractiveBook.Text.Unicode.Word
import InteractiveBook.Text.Unicode.Alphanumeric
import InteractiveBook.Text.Unicode.Punctuation

/-!
# Classes of characters

White space, word characters, letters and numbers, and punctuation, each over all of Unicode.
The ASCII part of each class is written out; the rest comes from its boundaries.
-/

namespace InteractiveBook.Text

/-- White space: the ASCII blanks from tab to carriage return and the space, the next-line and
no-break spaces, and the typographic spaces and separators. -/
def isWhiteSpace (c : Char) : Bool :=
  let n := c.toNat
  (0x09 ≤ n && n ≤ 0x0d) || n == 0x20 || n == 0x85 || n == 0xa0 || n == 0x1680
    || (0x2000 ≤ n && n ≤ 0x200a) || n == 0x2028 || n == 0x2029 || n == 0x202f
    || n == 0x205f || n == 0x3000

/-- Word characters: ASCII letters, digits and the underscore, and beyond ASCII the alphabetic
characters, marks, decimal numbers, connectors and join controls. -/
def isWord (c : Char) : Bool :=
  if c.toNat < 0x80 then c.isAlphanum || c == '_'
  else Unicode.wordBoundaries.contains c.toNat

/-- Letters and numbers of any script. -/
def isAlphanumeric (c : Char) : Bool :=
  if c.toNat < 0x80 then c.isAlphanum
  else Unicode.alphanumericBoundaries.contains c.toNat

/-- The thirty-two ASCII characters that are printed but are neither letters nor digits. -/
def isAsciiPunctuation (c : Char) : Bool :=
  let n := c.toNat
  (0x21 ≤ n && n ≤ 0x2f) || (0x3a ≤ n && n ≤ 0x40) || (0x5b ≤ n && n ≤ 0x60)
    || (0x7b ≤ n && n ≤ 0x7e)

/-- Punctuation and symbols of any script. -/
def isPunctuation (c : Char) : Bool :=
  if c.toNat < 0x80 then isAsciiPunctuation c
  else Unicode.punctuationBoundaries.contains c.toNat

/-- An ASCII letter of either case. -/
def isAsciiLetter (c : Char) : Bool := c.isAlpha

/-- An ASCII letter or digit. -/
def isAsciiAlphanumeric (c : Char) : Bool := c.isAlphanum

end InteractiveBook.Text
