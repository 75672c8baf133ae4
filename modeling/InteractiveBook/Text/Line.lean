import InteractiveBook.Text.Trim

/-!
# Lines of a text

A text is first brought to one line terminator, the line feed; then it is cut into lines. A
final terminator ends the last line and begins no further one.
-/

namespace InteractiveBook.Text

/-- Each carriage return with a line feed behind it is replaced with a line feed, given the
characters before, the last one first. -/
def joinReturns (before : List Char) : List Char → List Char
  | '\r' :: '\n' :: cs => joinReturns ('\n' :: before) cs
  | c :: cs => joinReturns (c :: before) cs
  | [] => before.reverse

/-- First each carriage return with a line feed behind it becomes one line feed, and then each of the
other ones. -/
def normalizeChars (cs : List Char) : List Char :=
  (joinReturns [] cs).map fun c => if c = '\r' then '\n' else c

/-- The text with line feeds as its only line terminators. -/
def normalizeLineEndings (s : String) : String := String.ofList (normalizeChars s.toList)

/-- The lines of a list of characters: the pieces between line feeds, the last one only when it
is not empty. -/
def linesOfChars (cs : List Char) : List (List Char) :=
  let pieces := splitOnChar '\n' cs
  match pieces.getLast? with
  | some [] => pieces.dropLast
  | _ => pieces

/-- The lines of a text whose terminators are line feeds. -/
def lines (s : String) : List String := (linesOfChars s.toList).map String.ofList

/-- Lines put back into one text, with line feeds between them. -/
def joinLines (ls : List String) : String := join "\n" ls

end InteractiveBook.Text
