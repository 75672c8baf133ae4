import InteractiveBook.Json.Value

/-!
# JSON texts

The grammar of JSON, read strictly: white space is the space, the tab, the line feed and the
carriage return, texts hold no raw control character, and nothing follows the value. Reading
yields a syntax tree. The tree keeps numbers as they are written and marks texts that no string
of characters can hold, so that what is skipped need not be understood.
-/

namespace InteractiveBook.Json

/-- A number as it is written. -/
structure Numeral where
  /-- Whether a minus sign stands in front. -/
  negative : Bool
  /-- The digits before the point. -/
  whole : List Char
  /-- The digits after the point, none when there is no point. -/
  fraction? : Option (List Char)
  /-- The sign and digits of the exponent, none when there is no exponent. -/
  exponent? : Option (Bool × List Char)
  deriving DecidableEq, Repr

/-- A syntax tree. A text is none when it escapes half of a surrogate pair. -/
inductive Tree where
  /-- The null literal. -/
  | null
  /-- A truth literal. -/
  | bool (b : Bool)
  /-- A number. -/
  | number (n : Numeral)
  /-- A text. -/
  | string (s? : Option String)
  /-- An array. -/
  | array (items : List Tree)
  /-- An object, its members in order. -/
  | object (members : List (Option String × Tree))
  deriving Repr, Inhabited

/-- White space between the parts of a text. -/
def isSpace (c : Char) : Bool := c == ' ' || c == '\t' || c == '\n' || c == '\r'

/-- The rest after white space. -/
def skipSpace (cs : List Char) : List Char := cs.dropWhile isSpace

/-- The value of a hexadecimal digit. -/
def hexDigit? (c : Char) : Option Nat :=
  if c.isDigit then some (c.toNat - '0'.toNat)
  else if 'a' ≤ c ∧ c ≤ 'f' then some (c.toNat - 'a'.toNat + 10)
  else if 'A' ≤ c ∧ c ≤ 'F' then some (c.toNat - 'A'.toNat + 10)
  else none

/-- The number of four hexadecimal digits. -/
def hexUnit? (a b c d : Char) : Option Nat := do
  let a ← hexDigit? a
  let b ← hexDigit? b
  let c ← hexDigit? c
  let d ← hexDigit? d
  some (((a * 16 + b) * 16 + c) * 16 + d)

/-- A sixteen-bit unit that begins a surrogate pair. -/
def isHighSurrogate (n : Nat) : Bool := 0xd800 ≤ n && n ≤ 0xdbff

/-- A sixteen-bit unit that ends a surrogate pair. -/
def isLowSurrogate (n : Nat) : Bool := 0xdc00 ≤ n && n ≤ 0xdfff

/-- The character that a surrogate pair stands for. -/
def pairedChar (high low : Nat) : Char :=
  Char.ofNat (0x10000 + (high - 0xd800) * 0x400 + (low - 0xdc00))

/-- The characters of a text so far, the last one first; none after half of a surrogate pair. -/
abbrev TextSoFar := Option (List Char)

/-- The text with one more character. -/
def TextSoFar.push (t : TextSoFar) (c : Char) : TextSoFar := t.map (c :: ·)

/-- The character of a one-letter escape. -/
def simpleEscape? : Char → Option Char
  | '"' => some '"'
  | '\\' => some '\\'
  | '/' => some '/'
  | 'b' => some '\x08'
  | 'f' => some '\x0c'
  | 'n' => some '\n'
  | 'r' => some '\r'
  | 't' => some '\t'
  | _ => none

/-- The rest of a text after its opening mark: the text so far and the first half of a surrogate
pair, if one is open. -/
def textBody (soFar : TextSoFar) (high? : Option Nat) :
    List Char → Option (Option String × List Char)
  | [] => none
  | '"' :: rest =>
    let whole := if high?.isSome then none else soFar
    some (whole.map fun cs => String.ofList cs.reverse, rest)
  | '\\' :: 'u' :: a :: b :: c :: d :: rest =>
    match hexUnit? a b c d with
    | none => none
    | some n =>
      match high? with
      | some high =>
        if isLowSurrogate n then textBody (soFar.push (pairedChar high n)) none rest
        else textBody none none rest
      | none =>
        if isHighSurrogate n then textBody soFar (some n) rest
        else if isLowSurrogate n then textBody none none rest
        else textBody (soFar.push (Char.ofNat n)) none rest
  | '\\' :: e :: rest =>
    match simpleEscape? e with
    | none => none
    | some c => textBody (if high?.isSome then none else soFar.push c) none rest
  | c :: rest =>
    if c.toNat < 0x20 ∨ c = '\\' then none
    else textBody (if high?.isSome then none else soFar.push c) none rest

/-- The exponent at the start of a list, none where there is no exponent; a mark without digits is
refused. -/
def exponentPart? (cs : List Char) : Option (Option (Bool × List Char) × List Char) :=
  match cs with
  | e :: rest =>
    if e = 'e' ∨ e = 'E' then
      let (negative, rest) := match rest with
        | '-' :: rest => (true, rest)
        | '+' :: rest => (false, rest)
        | rest => (false, rest)
      let digits := rest.takeWhile Char.isDigit
      if digits = [] then none
      else some (some (negative, digits), rest.dropWhile Char.isDigit)
    else some (none, cs)
  | [] => some (none, [])

/-- The fraction at the start of a list, none where there is no point; a point without digits is
refused. -/
def fractionPart? (cs : List Char) : Option (Option (List Char) × List Char) :=
  match cs with
  | '.' :: rest =>
    let digits := rest.takeWhile Char.isDigit
    if digits = [] then none else some (some digits, rest.dropWhile Char.isDigit)
  | _ => some (none, cs)

/-- The digits before the point: a single zero, or digits that do not start with one. -/
def wholePart? : List Char → Option (List Char × List Char)
  | '0' :: rest =>
    match rest with
    | c :: _ => if c.isDigit then none else some (['0'], rest)
    | [] => some (['0'], [])
  | c :: rest =>
    if c.isDigit then some (c :: rest.takeWhile Char.isDigit, rest.dropWhile Char.isDigit)
    else none
  | [] => none

/-- The number at the start of a list. -/
def numeral? (cs : List Char) : Option (Numeral × List Char) := do
  let (negative, cs) := match cs with
    | '-' :: rest => (true, rest)
    | _ => (false, cs)
  let (whole, cs) ← wholePart? cs
  let (fraction?, cs) ← fractionPart? cs
  let (exponent?, cs) ← exponentPart? cs
  some (⟨negative, whole, fraction?, exponent?⟩, cs)

mutual

/-- The value at the start of a list; the fuel bounds how many parts it may have. -/
def treeAt : Nat → List Char → Option (Tree × List Char)
  | 0, _ => none
  | fuel + 1, cs =>
    match cs with
    | 'n' :: 'u' :: 'l' :: 'l' :: rest => some (.null, rest)
    | 't' :: 'r' :: 'u' :: 'e' :: rest => some (.bool true, rest)
    | 'f' :: 'a' :: 'l' :: 's' :: 'e' :: rest => some (.bool false, rest)
    | '"' :: rest => (textBody (some []) none rest).map fun (s?, rest) => (.string s?, rest)
    | '[' :: rest =>
      match skipSpace rest with
      | ']' :: rest => some (.array [], rest)
      | rest => (itemsAt fuel rest).map fun (items, rest) => (.array items, rest)
    | '\x7b' :: rest =>
      match skipSpace rest with
      | '\x7d' :: rest => some (.object [], rest)
      | rest => (membersAt fuel rest).map fun (members, rest) => (.object members, rest)
    | cs => (numeral? cs).map fun (n, rest) => (.number n, rest)

/-- The items of an array up to its closing bracket. -/
def itemsAt : Nat → List Char → Option (List Tree × List Char)
  | 0, _ => none
  | fuel + 1, cs =>
    match treeAt fuel (skipSpace cs) with
    | none => none
    | some (item, rest) =>
      match skipSpace rest with
      | ']' :: rest => some ([item], rest)
      | ',' :: rest => (itemsAt fuel rest).map fun (items, rest) => (item :: items, rest)
      | _ => none

/-- The members of an object up to its closing brace. -/
def membersAt : Nat → List Char → Option (List (Option String × Tree) × List Char)
  | 0, _ => none
  | fuel + 1, cs =>
    match skipSpace cs with
    | '"' :: rest =>
      match textBody (some []) none rest with
      | none => none
      | some (key?, rest) =>
        match skipSpace rest with
        | ':' :: rest =>
          match treeAt fuel (skipSpace rest) with
          | none => none
          | some (value, rest) =>
            match skipSpace rest with
            | '\x7d' :: rest => some ([(key?, value)], rest)
            | ',' :: rest =>
              (membersAt fuel rest).map fun (members, rest) => ((key?, value) :: members, rest)
            | _ => none
        | _ => none
    | _ => none

end

/-- The syntax tree of a whole text. -/
def Tree.ofText? (s : String) : Option Tree :=
  let cs := s.toList
  match treeAt (cs.length + 1) (skipSpace cs) with
  | some (tree, rest) => if skipSpace rest = [] then some tree else none
  | none => none

end InteractiveBook.Json
