import InteractiveBook.Markdown.Passage

/-!
# Raw HTML

HTML within a document passes through as written. Within a running text it is a tag, a comment, an
instruction, a declaration or a literal section; a block of it begins with one of a few openings and
runs up to a closing text or a blank line. Each reader here is given the place behind the opening
less-than sign. A tag may go on over several lines; where a line goes on behind the markers of the
blocks around it is given by a function, which may also refuse it.
-/

namespace InteractiveBook.Markdown

/-- The characters that end the value of an attribute without quotes. -/
def endsValue (c : Char) : Bool :=
  c == '\'' || c == '"' || c == ' ' || c == '=' || c == '>' || c == '<' || c.toNat == 0x60
    || isLineEndChar c

/-- An ASCII capital. -/
def isCapital (c : Char) : Bool := 'A' ≤ c && c ≤ 'Z'

/-- The opening of a literal section, behind its less-than sign. -/
def literalOpening : List Char := "![CDATA[".toList

/-- How a block of raw HTML ends. -/
inductive HtmlEnd where
  /-- With the line that holds a text. -/
  | text (closing : List Char)
  /-- Before the next blank line. -/
  | blankLine

/-- The elements whose content is not markup, with their closing tags. -/
def rawElements : List (List Char × List Char) :=
  ["pre", "style", "script", "textarea"].map fun name =>
    (name.toList, "</".toList ++ name.toList ++ ['>'])

/-- The elements whose tag begins a block of HTML that a blank line ends. -/
def blockElements : List (List Char) :=
  ["address", "article", "aside", "base", "basefont", "blockquote", "body", "caption", "center",
    "col", "colgroup", "dd", "details", "dialog", "dir", "div", "dl", "dt", "fieldset",
    "figcaption", "figure", "footer", "form", "frame", "frameset", "h1", "h2", "h3", "h4", "h5",
    "h6", "head", "header", "hr", "html", "iframe", "legend", "li", "link", "main", "menu",
    "menuitem", "nav", "noframes", "ol", "optgroup", "option", "p", "param", "search", "section",
    "summary", "table", "tbody", "td", "tfoot", "th", "thead", "title", "tr", "track", "ul"].map
    String.toList

namespace Passage

/-- The place behind white space; at most so many characters are looked at. -/
def spaceEndWithin? (s : Passage) (onward : Nat → Option Nat) : Nat → Nat → Option Nat
  | 0, i => some i
  | n + 1, i =>
    if s.meets isBlankChar i then s.spaceEndWithin? onward n (i + 1)
    else if s.meets isLineEndChar i then
      ((s.lineEnd? i).bind onward).bind (s.spaceEndWithin? onward n)
    else some i

/-- The place behind white space. -/
def spaceEnd? (s : Passage) (onward : Nat → Option Nat) (i : Nat) : Option Nat :=
  s.spaceEndWithin? onward s.stop i

/-- The place behind the quote that ends a value; at most so many characters are looked at. -/
def quoteEndWithin? (s : Passage) (onward : Nat → Option Nat) (quote : Char) :
    Nat → Nat → Option Nat
  | 0, _ => none
  | n + 1, i =>
    if s.has quote i then some (i + 1)
    else if s.meets isLineEndChar i then
      ((s.lineEnd? i).bind onward).bind (s.quoteEndWithin? onward quote n)
    else if i < s.stop then s.quoteEndWithin? onward quote n (i + 1)
    else none

/-- The place behind the value of an attribute, quoted or not. -/
def valueEnd? (s : Passage) (onward : Nat → Option Nat) (i : Nat) : Option Nat :=
  if s.has '"' i then s.quoteEndWithin? onward '"' s.stop (i + 1)
  else if s.has '\'' i then s.quoteEndWithin? onward '\'' s.stop (i + 1)
  else if s.meets (fun c => !endsValue c) i then some (s.skip (fun c => !endsValue c) i)
  else none

/-- The place behind an attribute: its name and perhaps an equals sign and a value. -/
def attributeEnd? (s : Passage) (onward : Nat → Option Nat) (i : Nat) : Option Nat :=
  if s.meets (fun c => Text.isAsciiLetter c || c == '_' || c == ':') i then
    let nameEnd := s.skip (fun c => Text.isAsciiAlphanumeric c || c == '_' || c == '.' || c == ':'
      || c == '-') (i + 1)
    (s.spaceEnd? onward nameEnd).bind fun j =>
      if s.has '=' j then (s.spaceEnd? onward (j + 1)).bind (s.valueEnd? onward) else some nameEnd
  else none

/-- The place of the slash or greater-than sign behind the attributes of a tag. White space precedes
each attribute; the number bounds how many there are. -/
def attributesEnd? (s : Passage) (onward : Nat → Option Nat) : Nat → Nat → Option Nat
  | 0, _ => none
  | n + 1, i => (s.spaceEnd? onward i).bind fun j =>
    if s.has '/' j || s.has '>' j then some j
    else if j = i then none
    else (s.attributeEnd? onward j).bind (s.attributesEnd? onward n)

/-- The place behind a greater-than sign. -/
def signEnd? (s : Passage) (i : Nat) : Option Nat := if s.has '>' i then some (i + 1) else none

/-- The place behind an opening or closing tag. -/
def tagEnd? (s : Passage) (onward : Nat → Option Nat) (i : Nat) : Option Nat :=
  let name := if s.has '/' i then i + 1 else i
  if s.meets Text.isAsciiLetter name then
    let nameEnd := s.skip (fun c => Text.isAsciiAlphanumeric c || c == '-') name
    if s.has '/' i then s.signEnd? (s.skip isBlankChar nameEnd)
    else (s.attributesEnd? onward (s.stop + 1) nameEnd).bind fun j =>
      s.signEnd? (if s.has '/' j then j + 1 else j)
  else none

/-- The place behind a comment, from that behind its opening dashes. -/
def commentEnd? (s : Passage) (i : Nat) : Option Nat :=
  if s.has '>' i then some (i + 1)
  else if s.begins ['-', '>'] i then some (i + 2)
  else (s.find? ['-', '-', '>'] i).map (· + 3)

/-- The place behind a literal section, from that behind its opening. Its first closing brackets
have to end it. -/
def literalEnd? (s : Passage) (i : Nat) : Option Nat :=
  (s.find? [']'] i).bind fun j => s.signEnd? (s.skip (· == ']') j)

/-- The place behind a piece of raw HTML that is no tag, in a running text. -/
def inlineInstructionEnd? (s : Passage) (i : Nat) : Option Nat :=
  if s.begins "!--".toList i then s.commentEnd? (i + 3)
  else if s.begins literalOpening i then s.literalEnd? (i + literalOpening.length)
  else if s.has '!' i && s.meets isCapital (i + 1) then (s.find? ['>'] (i + 2)).map (· + 1)
  else if s.has '?' i then (s.find? ['?', '>'] (i + 1)).map (· + 2)
  else none

/-- The characters of a tag between two places, without what precedes its further lines; at most so
many characters are looked at. -/
def unmarked (s : Passage) (onward : Nat → Option Nat) : Nat → Nat → Nat → List Char
  | 0, _, _ => []
  | n + 1, i, j =>
    if i < j then
      if s.meets isLineEndChar i then
        let next := (s.lineEnd? i).getD (i + 1)
        s.slice i next ++ s.unmarked onward n ((onward next).getD next) j
      else s.slice i (i + 1) ++ s.unmarked onward n (i + 1) j
    else []

/-- The closing tag of a raw element that is opened here. -/
def rawElementEnd? (s : Passage) (i : Nat) : Option (List Char) :=
  (rawElements.find? fun e =>
    let j := i + e.1.length
    (s.slice i j).map Char.toLower == e.1
      && ((s.at? j).map fun c => isSpaceChar c || c == '>').getD true).map (·.2)

/-- The opening or closing tag of a block element stands here. -/
def isBlockTag (s : Passage) (i : Nat) : Bool :=
  let name := if s.has '/' i then i + 1 else i
  let nameEnd := s.skip Text.isAsciiAlphanumeric name
  blockElements.contains ((s.slice name nameEnd).map Char.toLower)
    && (s.endsLine nameEnd || s.meets (fun c => isIndentChar c || c == '>') nameEnd
      || s.begins ['/', '>'] nameEnd)

/-- How a block of HTML ends that begins here and is no tag of a block element. -/
def htmlTextEnd? (s : Passage) (i : Nat) : Option (List Char) :=
  match s.rawElementEnd? i with
  | some closing => some closing
  | none =>
    if s.begins "!--".toList i then some "-->".toList
    else if s.has '?' i then some "?>".toList
    else if s.begins literalOpening i then some "]]>".toList
    else if s.has '!' i && s.meets isCapital (i + 1) then some ['>']
    else none

/-- How a block of HTML ends that may stand behind a paragraph without a blank line. -/
def htmlEnd? (s : Passage) (i : Nat) : Option HtmlEnd :=
  match s.htmlTextEnd? i with
  | some closing => some (.text closing)
  | none => if s.isBlockTag i then some .blankLine else none

/-- How a block of HTML ends that begins a block: besides the above, a line of one whole tag. -/
def htmlStart? (s : Passage) (i : Nat) : Option HtmlEnd :=
  (s.htmlEnd? i).orElse fun _ =>
    if ((s.tagEnd? (fun _ => none) i).map s.isBlank).getD false then some .blankLine else none

end Passage

end InteractiveBook.Markdown
