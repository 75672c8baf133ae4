import InteractiveBook.Json.Value

/-!
# Printing JSON

Two layouts of one value: compact, without any white space, and indented, with one item or member
a line. Texts escape the quotation mark, the backslash and the control characters below the
space.
-/

namespace InteractiveBook.Json

/-- The escaped form of one character of a text. -/
def escapeChar (c : Char) : List Char :=
  if c = '"' then ['\\', '"']
  else if c = '\\' then ['\\', '\\']
  else if c = '\n' then ['\\', 'n']
  else if c = '\r' then ['\\', 'r']
  else if c = '\t' then ['\\', 't']
  else if c = '\x08' then ['\\', 'b']
  else if c = '\x0c' then ['\\', 'f']
  else if c.toNat < 0x20 then '\\' :: 'u' :: (Text.paddedDigits 16 4 c.toNat).toList
  else [c]

/-- A text in quotation marks. -/
def quote (s : String) : String :=
  "\"" ++ String.ofList (s.toList.flatMap escapeChar) ++ "\""

/-- The text of a number. -/
def Number.text : Number → String
  | int n => toString n
  | real x => x.text

mutual

/-- The compact layout of a value. -/
def compact : Json → String
  | null => "null"
  | bool true => "true"
  | bool false => "false"
  | number n => n.text
  | string s => quote s
  | array items => "[" ++ compactItems items ++ "]"
  | object members => "\x7b" ++ compactMembers members ++ "\x7d"

/-- The compact layout of the items of an array. -/
def compactItems : List Json → String
  | [] => ""
  | [item] => item.compact
  | item :: rest => item.compact ++ "," ++ compactItems rest

/-- The compact layout of the members of an object. -/
def compactMembers : List (String × Json) → String
  | [] => ""
  | [(key, value)] => quote key ++ ":" ++ value.compact
  | (key, value) :: rest => quote key ++ ":" ++ value.compact ++ "," ++ compactMembers rest

end

/-- The start of a line at a depth: two spaces for each level. -/
def indentation (depth : Nat) : String := "\n" ++ String.ofList (List.replicate (2 * depth) ' ')

mutual

/-- The indented layout of a value that stands at a depth. -/
def indented (depth : Nat) : Json → String
  | array [] => "[]"
  | object [] => "\x7b\x7d"
  | array (item :: rest) =>
    "[" ++ indentedItems (depth + 1) (item :: rest) ++ indentation depth ++ "]"
  | object (member :: rest) =>
    "\x7b" ++ indentedMembers (depth + 1) (member :: rest) ++ indentation depth ++ "\x7d"
  | null => "null"
  | bool true => "true"
  | bool false => "false"
  | number n => n.text
  | string s => quote s

/-- The lines of the items of an array. -/
def indentedItems (depth : Nat) : List Json → String
  | [] => ""
  | [item] => indentation depth ++ item.indented depth
  | item :: rest => indentation depth ++ item.indented depth ++ "," ++ indentedItems depth rest

/-- The lines of the members of an object. -/
def indentedMembers (depth : Nat) : List (String × Json) → String
  | [] => ""
  | [(key, value)] => indentation depth ++ quote key ++ ": " ++ value.indented depth
  | (key, value) :: rest =>
    indentation depth ++ quote key ++ ": " ++ value.indented depth ++ ","
      ++ indentedMembers depth rest

end

/-- The indented layout of a value on its own. -/
def pretty (v : Json) : String := v.indented 0

end InteractiveBook.Json
