import InteractiveBook.Text.Trim

/-!
# Lines that hold one image

A line holds an image and nothing else when, trimmed, it is an exclamation mark, an alternative
text in square brackets and a path in round ones. The alternative text has no closing square
bracket and the path no closing round one.
-/

namespace InteractiveBook.Source

/-- The two texts of an image line. -/
structure ImageLine where
  /-- The alternative text, trimmed. -/
  alt : String
  /-- The path of the image, trimmed. -/
  path : String
  deriving DecidableEq, Repr

/-- The alternative text and path between the brackets of a trimmed line, untrimmed. -/
def ImageLine.parts? : List Char → Option (List Char × List Char)
  | '!' :: '[' :: cs =>
    match cs.dropWhile (· ≠ ']') with
    | ']' :: '(' :: rest =>
      match rest.dropWhile (· ≠ ')') with
      | [')'] => some (cs.takeWhile (· ≠ ']'), rest.takeWhile (· ≠ ')'))
      | _ => none
    | _ => none
  | _ => none

/-- The image that fills a line, if one does. -/
def ImageLine.ofLine? (line : String) : Option ImageLine :=
  (ImageLine.parts? (Text.trimChars line.toList)).map fun (alt, path) =>
    ⟨String.ofList (Text.trimChars alt), String.ofList (Text.trimChars path)⟩

end InteractiveBook.Source
