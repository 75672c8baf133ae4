/-!
# Decimal numerals

Numbers written in ASCII digits, read with an upper bound where words of fixed width are meant.
-/

namespace InteractiveBook.Text

/-- The value of a decimal digit. -/
def digitValue (c : Char) : Nat := c.toNat - '0'.toNat

/-- The number that a list of decimal digits denotes, the most significant digit first. -/
def decimalValue (cs : List Char) : Nat := cs.foldl (fun n c => 10 * n + digitValue c) 0

/-- The greatest number of a thirty-two bit word. -/
def maxWord32 : Nat := 4294967295

/-- The greatest number of a word of sixty-four bits. -/
def maxWord64 : Nat := 18446744073709551615

/-- The least number of thirty-two bits with a sign. -/
def minSigned32 : Int := -2147483648

/-- The greatest number of thirty-two bits with a sign. -/
def maxSigned32 : Int := 2147483647

/-- The least number of sixty-four bits with a sign. -/
def minSigned64 : Int := -9223372036854775808

/-- The greatest number of sixty-four bits with a sign. -/
def maxSigned64 : Int := 9223372036854775807

/-- The number that a non-empty list of digits denotes, if it fits a thirty-two bit word. -/
def word32OfDigits? (cs : List Char) : Option Nat :=
  if cs ≠ [] ∧ cs.all Char.isDigit = true ∧ decimalValue cs ≤ maxWord32 then
    some (decimalValue cs)
  else none

/-- The digits of a number in a base up to sixteen, in small letters, padded on the left with
zeros to a least width. -/
def paddedDigits (base width n : Nat) : String :=
  let ds := Nat.toDigits base n
  String.ofList (List.replicate (width - ds.length) '0' ++ ds)

end InteractiveBook.Text
