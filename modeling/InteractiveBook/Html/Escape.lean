/-!
# Escaping for HTML

The five characters that have a meaning in HTML are replaced one after the other, the ampersand
first, so that no pass touches what an earlier one wrote.
-/

namespace InteractiveBook.Html

/-- A list in which each occurrence of one character is replaced. -/
def substitute (old : Char) (new : List Char) (cs : List Char) : List Char :=
  cs.flatMap fun c => if c = old then new else [c]

/-- The characters with a meaning in HTML and what they are replaced with, in order. -/
def replacements : List (Char × List Char) :=
  [('&', "&amp;".toList), ('<', "&lt;".toList), ('>', "&gt;".toList), ('"', "&quot;".toList),
    ('\'', "&#x27;".toList)]

/-- A list with every character that has a meaning in HTML replaced. -/
def escapeChars (cs : List Char) : List Char :=
  replacements.foldl (fun out r => substitute r.1 r.2 out) cs

/-- A text with every character that has a meaning in HTML replaced. -/
def escape (s : String) : String := String.ofList (escapeChars s.toList)

end InteractiveBook.Html
