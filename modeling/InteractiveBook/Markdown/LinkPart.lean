import InteractiveBook.Markdown.Entity
import InteractiveBook.Markdown.Scope
import InteractiveBook.Text.Unicode.CaseFold

/-!
# Parts of a link

A link is written with a target, perhaps a title, or a label that is defined elsewhere. A definition
stands at the start of a paragraph: a label in brackets, a colon, a target, and perhaps a title.
Within each a backslash makes the punctuation behind it stand for itself.
-/

namespace InteractiveBook.Markdown

/-- How deep parentheses may nest in a target. -/
def deepestParenthesis : Nat := 6

/-- How much may stand in a label, where an ASCII character other than a blank or an escape counts
for nothing. -/
def labelLimit : Nat := 1000

namespace Passage

/-- An escape stands here. -/
def hasEscape (s : Passage) (i : Nat) : Bool :=
  s.has '\\' i && s.meets Text.isAsciiPunctuation (i + 1)

/-- The escape of a pipe within a table stands here. -/
def hasPipeEscape (s : Passage) (i : Nat) : Bool := s.begins ['\\', '\\', '|'] i

/-- The place of the bracket that ends a target; at most so many characters are looked at. -/
def bracketedTargetEnd? (s : Passage) : Nat → Nat → Option Nat
  | 0, _ => none
  | n + 1, i => (s.at? i).bind fun c =>
    if c == '>' then some i
    else if c == '<' || isLineEndChar c then none
    else s.bracketedTargetEnd? n (if s.hasEscape i then i + 2 else i + 1)

/-- The place behind a target without brackets: it ends at a blank or control character or at a
closing parenthesis without a partner. The first number bounds how many characters are looked at,
the second counts the parentheses open so far. -/
def plainTargetEnd? (s : Passage) : Nat → Nat → Nat → Option Nat
  | 0, _, _ => none
  | n + 1, depth, i =>
    if s.meets (fun c => 0x20 < c.toNat) i && !(depth == 0 && s.has ')' i) then
      if s.has '(' i then
        if deepestParenthesis ≤ depth then none else s.plainTargetEnd? n (depth + 1) (i + 1)
      else if s.has ')' i then s.plainTargetEnd? n (depth - 1) (i + 1)
      else s.plainTargetEnd? n depth (if s.hasEscape i then i + 2 else i + 1)
    else if depth = 0 then some i
    else none

/-- A target as written, and the place behind it. -/
def target? (s : Passage) (i : Nat) : Option (List Char × Nat) :=
  if s.has '<' i then
    (s.bracketedTargetEnd? s.stop (i + 1)).map fun j => (s.slice (i + 1) j, j + 1)
  else (s.plainTargetEnd? (s.stop + 1) 0 i).map fun j => (s.slice i j, j)

/-- The character that ends a title. -/
def titleEnd? (s : Passage) (i : Nat) : Option Char :=
  if s.has '"' i then some '"'
  else if s.has '\'' i then some '\''
  else if s.has '(' i then some ')'
  else none

/-- A label as written up to its closing bracket, with each stretch of white space as one space, and
the place behind it. A label of nothing but white space and escapes is none. The first number bounds
how many characters are looked at; the second is what stands in the label so far. -/
def labelWithin? (s : Passage) (inTable : Bool) (onward : Nat → Option Nat) :
    Nat → Nat → Nat → Bool → List Char → Option (List Char × Nat)
  | 0, _, _, _, _ => none
  | n + 1, i, weight, solid, before => (s.at? i).bind fun c =>
    if labelLimit ≤ weight || c == '[' then none
    else if c == ']' then if solid then some (before.reverse, i + 1) else none
    else if inTable && s.hasPipeEscape i then
      s.labelWithin? inTable onward n (i + 3) (weight + 1) true ('|' :: before)
    else if c == '\\' then (s.at? (i + 1)).bind fun d =>
      s.labelWithin? inTable onward n (i + 2) (weight + 1 + d.utf8Size) (solid || 1 < d.utf8Size)
        (d :: c :: before)
    else if isSpaceChar c then (s.gap? onward i).bind fun (j, _) =>
      s.labelWithin? inTable onward n j (weight + (j - i)) solid (' ' :: before)
    else
      s.labelWithin? inTable onward n (i + 1) (weight + if c.utf8Size = 1 then 0 else c.utf8Size)
        true (c :: before)

end Passage

/-- The blanks around a label that do not belong to it. -/
def isLabelMargin (c : Char) : Bool := isIndentChar c || isLineEndChar c

/-- The folded form of a label, in which case and the blanks around it make no difference. -/
def foldLabel (cs : List Char) : List Char :=
  let inner := ((cs.dropWhile isLabelMargin).reverse.dropWhile isLabelMargin).reverse
  inner.flatMap Text.Unicode.foldChar

namespace Scope

/-- A folded label behind its opening bracket, and the place behind its closing one. -/
def labelBy? (sc : Scope) (onward : Nat → Option Nat) (i : Nat) : Option (List Char × Nat) :=
  (sc.passage.labelWithin? sc.inTable onward (sc.passage.stop + 1) i 0 false []).map fun (cs, j) =>
    (foldLabel cs, j)

/-- The title of a definition up to the character that ends it, and the place behind that; at most
so many characters are looked at. A further line is read without its indentation and is not
blank. -/
def definitionTitleWithin? (sc : Scope) (opening closing : Char) :
    Nat → Nat → List Char → Option (List Char × Nat)
  | 0, _, _ => none
  | n + 1, i, before => (sc.passage.at? i).bind fun c =>
    if isLineEndChar c then ((sc.passage.lineEnd? i).bind sc.definitionLine?).bind fun j =>
      let j := sc.passage.skip isIndentChar j
      if sc.passage.isBlank j then none
      else sc.definitionTitleWithin? opening closing n j ('\n' :: before)
    else if c == '\\' then
      match (sc.passage.at? (i + 1)).filter fun d => !isLineEndChar d with
      | some d => sc.definitionTitleWithin? opening closing n (i + 2) (d :: c :: before)
      | none => sc.definitionTitleWithin? opening closing n (i + 1) (c :: before)
    else if c == closing then some (before.reverse, i + 1)
    else if c == opening then none
    else sc.definitionTitleWithin? opening closing n (i + 1) (c :: before)

/-- The title of a definition as written, and the place behind it. -/
def definitionTitle? (sc : Scope) (i : Nat) : Option (List Char × Nat) :=
  (sc.passage.titleEnd? i).bind fun closing =>
    (sc.passage.at? i).bind fun opening =>
      sc.definitionTitleWithin? opening closing sc.passage.stop (i + 1) []

/-- The target and the title of a definition, from the place behind the colon, and the place behind
them. A title on a line of its own that turns out to be none belongs to the text. -/
def definitionTarget? (sc : Scope) (i : Nat) : Option (List Char × List Char × Nat) := do
  let (i, _) ← sc.passage.gap? sc.definitionLine? i
  let (written, behind) ← sc.passage.target? i
  let target := unescape sc.inTable written
  let untitled := (target, [], behind)
  if behind = i then none
  else match sc.passage.gap? sc.definitionLine? behind with
    | none => some untitled
    | some (j, newLine) =>
      if j = behind then none
      else match sc.definitionTitle? j with
        | some (title, titleEnd) =>
          if sc.passage.isBlank titleEnd then some (target, unescape sc.inTable title, titleEnd)
          else if newLine then some untitled
          else none
        | none => if newLine then some untitled else none

/-- A definition at a place, and the place behind it. -/
def definition? (sc : Scope) (i : Nat) : Option (Definition × Nat) :=
  if sc.passage.has '[' i then do
    let (label, j) ← sc.labelBy? sc.labelLine? (i + 1)
    if sc.passage.has ':' j then
      (sc.definitionTarget? (j + 1)).map fun (target, title, k) => (⟨label, target, title⟩, k)
    else none
  else none

end Scope

end InteractiveBook.Markdown
