import InteractiveBook.Json.Syntax

/-!
# Values of JSON texts

A syntax tree becomes a value when its texts can be held, its numbers fit and its containers are
nested no deeper than a bound. Integers of sixty-four bits, signed or not, stay integers; minus
zero and every other number become binary numbers of double precision, read from as many digits as
sixty-four bits hold.
-/

namespace InteractiveBook.Json

/-- How many containers may be nested. -/
def maxNesting : Nat := 127

/-- The integer that a numeral denotes, if it is written as one and fits sixty-four bits. Minus
zero is none. -/
def Numeral.integer? (n : Numeral) : Option Int :=
  let value := Text.decimalValue n.whole
  if n.fraction?.isSome ∨ n.exponent?.isSome then none
  else if n.negative then
    if 0 < value ∧ Text.minSigned64 ≤ -(value : Int) then some (-(value : Int)) else none
  else if value ≤ Text.maxWord64 then some value else none

/-- A number with further digits behind it, as many as fit sixty-four bits, and the digits that are
left. -/
def takeDigits (value : Nat) : List Char → Nat × List Char
  | [] => (value, [])
  | c :: cs =>
    let longer := 10 * value + Text.digitValue c
    if longer ≤ Text.maxWord64 then takeDigits longer cs else (value, c :: cs)

/-- The decimal in front of the exponent of a numeral, with as many of its digits as fit sixty-four
bits. Of the others, those before the point are counted and those behind it are ignored. -/
def Numeral.decimal (n : Numeral) : Binary64.Decimal :=
  let fraction := n.fraction?.getD []
  let (front, uncounted) := takeDigits 0 n.whole
  let (digits, ignored) := takeDigits front fraction
  ⟨digits, uncounted.length + ignored.length - fraction.length⟩

/-- A signed number of thirty-two bits, the nearest to an integer. -/
def saturated (i : Int) : Int := max Text.minSigned32 (min Text.maxSigned32 i)

/-- The binary number that a numeral is read as, unless it lies beyond the greatest one. An exponent
that does not fit thirty-two bits is taken as infinite. -/
def Numeral.real? (n : Numeral) : Option Binary64 :=
  let d := n.decimal
  match n.exponent? with
  | none => Binary64.ofDecimal? n.negative d
  | some (minus, digits) =>
    let e : Int := Text.decimalValue digits
    if Text.maxSigned32 < e then
      if d.digits ≠ 0 ∧ !minus then none else some ⟨n.negative, 0, Binary64.minExponent⟩
    else
      Binary64.ofDecimal? n.negative
        ⟨d.digits, saturated (if minus then d.exponent - e else d.exponent + e)⟩

/-- The number that a numeral is read as, unless it lies beyond the greatest one. -/
def Numeral.number? (n : Numeral) : Option Number :=
  match n.integer? with
  | some i => some (.int i)
  | none => n.real?.map .real

mutual

/-- The value of a syntax tree in which so many containers may still be nested. -/
def Tree.valueWithin? : Nat → Tree → Option Json
  | _, .null => some .null
  | _, .bool b => some (.bool b)
  | _, .number n => n.number?.map .number
  | _, .string s? => s?.map .string
  | 0, .array _ => none
  | 0, .object _ => none
  | room + 1, .array items => (itemsWithin? room items).map .array
  | room + 1, .object members => (membersWithin? room members).map .object

/-- The values of the items of an array. -/
def itemsWithin? : Nat → List Tree → Option (List Json)
  | _, [] => some []
  | room, item :: rest => do
    let value ← item.valueWithin? room
    let values ← itemsWithin? room rest
    some (value :: values)

/-- The values of the members of an object. -/
def membersWithin? : Nat → List (Option String × Tree) → Option (List (String × Json))
  | _, [] => some []
  | room, (key?, item) :: rest => do
    let key ← key?
    let value ← item.valueWithin? room
    let values ← membersWithin? room rest
    some ((key, value) :: values)

end

/-- The value of a syntax tree. -/
def Tree.value? (t : Tree) : Option Json := t.valueWithin? maxNesting

/-- The value of a JSON text in canonical form. -/
def parse? (s : String) : Option Json := do
  let tree ← Tree.ofText? s
  let value ← tree.value?
  some value.canonical

end InteractiveBook.Json
