import InteractiveBook.Text.Decimal
import InteractiveBook.Text.Unicode.Hidden

/-!
# Quoted text

A text in quotation marks that shows every character: quotation marks, backslashes, controls, odd
spaces, marks that join the character before them and characters without a form of their own are
written as escapes.
-/

namespace InteractiveBook.Text

/-- A character shows by itself. -/
def isVisible (c : Char) : Bool :=
  0x20 ≤ c.toNat && c.toNat ≠ 0x7f && !Unicode.hiddenBoundaries.contains c.toNat

/-- A character within quotation marks. -/
def quotedChar (c : Char) : List Char :=
  if c = '"' then ['\\', '"']
  else if c = '\\' then ['\\', '\\']
  else if c = '\n' then ['\\', 'n']
  else if c = '\r' then ['\\', 'r']
  else if c = '\t' then ['\\', 't']
  else if c.toNat = 0 then ['\\', '0']
  else if isVisible c then [c]
  else ['\\', 'u', '\x7b'] ++ (paddedDigits 16 1 c.toNat).toList ++ ['\x7d']

/-- A text in quotation marks. -/
def quoted (s : String) : String :=
  String.ofList ('"' :: s.toList.flatMap quotedChar ++ ['"'])

end InteractiveBook.Text
