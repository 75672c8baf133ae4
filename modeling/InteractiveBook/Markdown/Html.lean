import InteractiveBook.Markdown.Elements
import InteractiveBook.Text.Character
import InteractiveBook.Text.Utf8

/-!
# Documents as HTML

Each block is written with a line feed behind it. Most begin on a new line: a line feed comes first
unless the output stands at the start of a line already.
-/

namespace InteractiveBook.Markdown

/-- A character of a text. -/
def escapeTextChar (c : Char) : List Char :=
  match c with
  | '&' => "&amp;".toList
  | '<' => "&lt;".toList
  | '>' => "&gt;".toList
  | _ => [c]

/-- A text, in which the characters with a meaning in HTML are replaced. -/
def escapeText (cs : List Char) : List Char := cs.flatMap escapeTextChar

/-- The value of an attribute, in which quotes are replaced too. -/
def escapeAttribute (cs : List Char) : List Char :=
  cs.flatMap fun c => match c with
    | '"' => "&quot;".toList
    | '\'' => "&#39;".toList
    | _ => escapeTextChar c

/-- The characters that stand for themselves in an address, besides letters and digits. -/
def addressMarks : List Char := "!#$%()*+,-./:;=?@_~".toList

/-- The digits of a byte in an address. -/
def percentByte (b : UInt8) : List Char :=
  let digit := fun n => "0123456789ABCDEF".toList.getD n '0'
  ['%', digit (b.toNat / 16), digit (b.toNat % 16)]

/-- An address as the value of an attribute: what may not stand in one is written in bytes. -/
def escapeAddress (cs : List Char) : List Char :=
  cs.flatMap fun c =>
    if Text.isAsciiAlphanumeric c || addressMarks.contains c then [c]
    else match c with
      | '&' => "&amp;".toList
      | '\'' => "&#x27;".toList
      | _ => (Text.bytesOf (String.ofList [c])).toList.flatMap percentByte

mutual

/-- The text of an element without markup. -/
def Element.plain : Element → List Char
  | .text cs => cs
  | .code cs => cs
  | .html cs => cs
  | .softBreak => [' ']
  | .hardBreak => [' ']
  | .emphasis es => plainAll es
  | .strong es => plainAll es
  | .struck es => plainAll es
  | .link _ _ es => plainAll es
  | .image _ _ es => plainAll es
  | .paragraph es => plainAll es
  | .heading _ es => plainAll es
  | .rule => [' ']
  | .codeBlock _ text => text
  | .htmlBlock lines => lines.flatMap fun l => List.replicate l.indent ' '
  | .quote es => plainAll es
  | .list _ es => plainAll es
  | .item es => plainAll es
  | .table es => plainAll es
  | .row _ es => plainAll es
  | .cell _ _ es => plainAll es

/-- The text of some elements without markup. -/
def plainAll : List Element → List Char
  | [] => []
  | e :: es => e.plain ++ plainAll es

end

/-- A title as an attribute; an empty one is left out. -/
def titleAttribute (title : List Char) : List Char :=
  if title.isEmpty then [] else "\" title=\"".toList ++ escapeAttribute title

/-- The tag that opens a link. -/
def linkTag (target title : List Char) : List Char :=
  "<a href=\"".toList ++ escapeAddress target ++ titleAttribute title ++ "\">".toList

/-- The tag of an image, with the text that describes it. -/
def imageTag (address title description : List Char) : List Char :=
  "<img src=\"".toList ++ escapeAddress address ++ "\" alt=\"".toList
    ++ escapeAttribute description ++ titleAttribute title ++ "\" />".toList

/-- The tag that opens code, with the first word behind its fence as a class. -/
def codeTag (info : List Char) : List Char :=
  let language := info.takeWhile (· != ' ')
  if language.isEmpty then "<pre><code>".toList
  else "<pre><code class=\"language-".toList ++ escapeAttribute language ++ "\">".toList

/-- The tags around a list. A number other than one is written. -/
def listTags : Option Nat → List Char × List Char
  | none => ("<ul>\n".toList, "</ul>\n".toList)
  | some 1 => ("<ol>\n".toList, "</ol>\n".toList)
  | some n => ("<ol start=\"".toList ++ (toString n).toList ++ "\">\n".toList, "</ol>\n".toList)

/-- The tags around a heading. -/
def headingTags (level : Nat) : List Char × List Char :=
  let name := 'h' :: (toString level).toList
  ('<' :: name ++ ['>'], "</".toList ++ name ++ ">\n".toList)

/-- The tags around a row, and around the rows behind a header. -/
def rowTags (header : Bool) : List Char × List Char :=
  if header then ("<thead><tr>".toList, "</tr></thead><tbody>\n".toList)
  else ("<tr>".toList, "</tr>\n".toList)

/-- The end of the tag that opens a cell. -/
def alignmentAttribute : Alignment → List Char
  | .unset => ['>']
  | .left => " style=\"text-align: left\">".toList
  | .center => " style=\"text-align: center\">".toList
  | .right => " style=\"text-align: right\">".toList

/-- The tags around a cell. -/
def cellTags (header : Bool) (alignment : Alignment) : List Char × List Char :=
  let name := if header then "th".toList else "td".toList
  ('<' :: name ++ alignmentAttribute alignment, "</".toList ++ name ++ ['>'])

/-- The output so far, with the last character first. -/
abbrev Page := List Char

namespace Page

/-- Some characters are written. -/
def put (p : Page) (cs : List Char) : Page := cs.reverse ++ p

/-- A new line is begun, unless one has just begun. -/
def freshLine (p : Page) : Page := if p.head?.getD '\n' = '\n' then p else '\n' :: p

end Page

mutual

/-- An element is written. -/
def Element.write : Element → Page → Page
  | .text cs, p => p.put (escapeText cs)
  | .code cs, p => p.put ("<code>".toList ++ escapeText cs ++ "</code>".toList)
  | .html cs, p => p.put cs
  | .softBreak, p => p.put ['\n']
  | .hardBreak, p => p.put "<br />\n".toList
  | .emphasis es, p => (writeAll es (p.put "<em>".toList)).put "</em>".toList
  | .strong es, p => (writeAll es (p.put "<strong>".toList)).put "</strong>".toList
  | .struck es, p => (writeAll es (p.put "<del>".toList)).put "</del>".toList
  | .link target title es, p => (writeAll es (p.put (linkTag target title))).put "</a>".toList
  | .image address title es, p => p.put (imageTag address title (plainAll es))
  | .paragraph es, p => (writeAll es (p.freshLine.put "<p>".toList)).put "</p>\n".toList
  | .heading level es, p =>
    (writeAll es (p.freshLine.put (headingTags level).1)).put (headingTags level).2
  | .rule, p => p.freshLine.put "<hr />\n".toList
  | .codeBlock info text, p =>
    p.freshLine.put (codeTag info ++ escapeText text ++ "</code></pre>\n".toList)
  | .htmlBlock lines, p => p.put (lines.flatMap fun l => List.replicate l.indent ' ' ++ l.text)
  | .quote es, p =>
    (writeAll es (p.freshLine.put "<blockquote>\n".toList)).put "</blockquote>\n".toList
  | .list number es, p =>
    (writeAll es (p.freshLine.put (listTags number).1)).put (listTags number).2
  | .item es, p => (writeAll es (p.freshLine.put "<li>".toList)).put "</li>\n".toList
  | .table es, p => (writeAll es (p.put "<table>".toList)).put "</tbody></table>\n".toList
  | .row header es, p => (writeAll es (p.put (rowTags header).1)).put (rowTags header).2
  | .cell header alignment es, p =>
    (writeAll es (p.put (cellTags header alignment).1)).put (cellTags header alignment).2

/-- Some elements are written. -/
def writeAll : List Element → Page → Page
  | [], p => p
  | e :: es, p => writeAll es (e.write p)

end

/-- A text in Markdown as HTML. -/
def toHtml (extensions : Extensions) (s : String) : String :=
  String.ofList (writeAll (elementsOf extensions s.toList) []).reverse

end InteractiveBook.Markdown
