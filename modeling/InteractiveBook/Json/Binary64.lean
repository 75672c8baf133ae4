import InteractiveBook.Text.Decimal

/-!
# Binary floating point numbers in decimal

A finite binary number of double precision is a sign, a significand below two to the power
fifty-three and an exponent of two. A decimal is read in two steps: its digits are rounded to such a
number, which is then multiplied or divided by a rounded power of ten. Each step rounds to the
nearest number, ties to the even significand, so the last place may be off by one. A number is
written with the fewest digits that round to it, the nearest of those, ties to the even digit.
-/

namespace InteractiveBook.Json

/-- A finite number of double precision. -/
structure Binary64 where
  /-- Whether the number has a minus sign; zero can have one, too. -/
  negative : Bool
  /-- The significand, below two to the power fifty-three. -/
  significand : Nat
  /-- The power of two that scales the significand. -/
  exponent : Int
  deriving DecidableEq, Repr

namespace Binary64

/-- The least power of two that scales a significand. -/
def minExponent : Int := -1074

/-- The greatest power of two that scales a significand. -/
def maxExponent : Int := 971

/-- Two to the power fifty-two, the least significand that has all its binary digits. -/
def fullSignificand : Nat := 4503599627370496

/-- Two to the power fifty-three, the bound of the significands. -/
def significandBound : Nat := 9007199254740992

/-- A quotient rounded to the nearest natural number, ties to the even one. -/
def roundQuotient (num den : Nat) : Nat :=
  let q := num / den
  let twice := 2 * (num % den)
  if twice < den then q
  else if twice > den then q + 1
  else if q % 2 = 0 then q else q + 1

/-- A power with a signed exponent, as a fraction. -/
def powerFraction (base : Nat) (e : Int) : Nat × Nat :=
  if 0 ≤ e then (Nat.pow base e.toNat, 1) else (1, Nat.pow base (-e).toNat)

/-- The power of two that gives a positive fraction fifty-three binary digits before the point,
never below the least one. -/
def scale (num den : Nat) : Int :=
  let guess : Int := (Nat.log2 num : Int) - (Nat.log2 den : Int) - 52
  let (up, down) := powerFraction 2 guess
  let e := if num * down < den * up * fullSignificand then guess - 1 else guess
  max e minExponent

/-- The number nearest to a fraction, unless that lies beyond the greatest one. -/
def ofFraction? (negative : Bool) (num den : Nat) : Option Binary64 :=
  if num = 0 then some ⟨negative, 0, minExponent⟩
  else
    let e := scale num den
    let (up, down) := powerFraction 2 e
    let m := roundQuotient (num * down) (den * up)
    let (m, e) := if m = significandBound then (fullSignificand, e + 1) else (m, e)
    if e > maxExponent then none else some ⟨negative, m, e⟩

/-- The product of two numbers, with the sign of the first, unless it lies beyond the greatest
number. -/
def times? (x y : Binary64) : Option Binary64 :=
  let (up, down) := powerFraction 2 (x.exponent + y.exponent)
  ofFraction? x.negative (x.significand * y.significand * up) down

/-- The quotient of two numbers, with the sign of the first, unless it lies beyond the greatest
number. -/
def over? (x y : Binary64) : Option Binary64 :=
  let (up, down) := powerFraction 2 (x.exponent - y.exponent)
  ofFraction? x.negative (x.significand * up) (y.significand * down)

/-- The greatest power of ten that is a number. -/
def maxPower : Nat := 308

/-- The number nearest to a power of ten. -/
def powerOfTen? (k : Nat) : Option Binary64 := ofFraction? false (Nat.pow 10 k) 1

/-- A number times a power of ten. A power below all numbers is divided by in several steps, as long
as anything is left. -/
def scaled? (x : Binary64) (exponent : Int) : Option Binary64 :=
  if exponent.natAbs ≤ maxPower then
    (powerOfTen? exponent.natAbs).bind fun power =>
      if 0 ≤ exponent then x.times? power else x.over? power
  else if x.significand = 0 then some x
  else if 0 ≤ exponent then none
  else
    (powerOfTen? maxPower).bind fun power =>
      (x.over? power).bind fun rest => rest.scaled? (exponent + maxPower)
termination_by exponent.natAbs
decreasing_by
  have hpower : maxPower = 308 := rfl
  omega

/-- A decimal: digits and the power of ten that scales them. -/
structure Decimal where
  /-- The digits as a number. -/
  digits : Nat
  /-- The power of ten that scales them. -/
  exponent : Int
  deriving DecidableEq, Repr

/-- The number that a decimal is read as, unless a step leads beyond the greatest number. -/
def ofDecimal? (negative : Bool) (d : Decimal) : Option Binary64 :=
  (ofFraction? negative d.digits 1).bind fun x => x.scaled? d.exponent

/-- The fractions that bound what rounds to a number: the number itself and the halves of the gaps
below and above it, over one common denominator. -/
structure Neighbourhood where
  /-- The numerator of the number. -/
  value : Nat
  /-- The numerator of the lower bound. -/
  low : Nat
  /-- The numerator of the upper bound. -/
  high : Nat
  /-- The common denominator. -/
  den : Nat
  /-- Whether the bounds themselves round to the number. -/
  closed : Bool

/-- What rounds to a number. Below a power of two the gap is half as wide. -/
def neighbourhood (x : Binary64) : Neighbourhood :=
  let (up, down) := powerFraction 2 x.exponent
  let lowGap := if x.significand = fullSignificand ∧ x.exponent > minExponent then 1 else 2
  ⟨4 * x.significand * up, (4 * x.significand - lowGap) * up, (4 * x.significand + 2) * up,
    4 * down, x.significand % 2 = 0⟩

/-- Whether a decimal rounds to the number of a neighbourhood. -/
def Neighbourhood.contains (n : Neighbourhood) (d : Decimal) : Bool :=
  let (up, down) := powerFraction 10 d.exponent
  let v := d.digits * up * n.den
  if n.closed then n.low * down ≤ v && v ≤ n.high * down
  else n.low * down < v && v < n.high * down

/-- The decimal exponent of a positive fraction: the power of ten just above it, found from the
given guess upwards. -/
def decimalExponent (num den : Nat) : Nat → Int → Int
  | 0, e => e
  | fuel + 1, e =>
    let (up, down) := powerFraction 10 e
    if num * down < den * up then e else decimalExponent num den fuel (e + 1)

/-- The decimal with a given last place that is nearest to a number, among the two neighbours that
round to it. -/
def nearestOn? (n : Neighbourhood) (place : Int) : Option Decimal :=
  let (up, down) := powerFraction 10 place
  let num := n.value * down
  let den := n.den * up
  let below : Decimal := ⟨num / den, place⟩
  let above : Decimal := ⟨num / den + 1, place⟩
  let nearest : Decimal := ⟨roundQuotient num den, place⟩
  match n.contains below, n.contains above with
  | true, true => some nearest
  | true, false => some below
  | false, true => some above
  | false, false => none

/-- The shortest decimal that rounds to a positive number: the coarsest last place that has
one. -/
def shortest (x : Binary64) : Decimal :=
  let n := x.neighbourhood
  let guess : Int := ((Nat.log2 n.value : Int) - (Nat.log2 n.den : Int)) * 30103 / 100000 - 1
  let top := decimalExponent n.value n.den 4 guess
  match (List.range 17).findSome? fun (k : Nat) => nearestOn? n (top - 1 - (k : Int)) with
  | some d => d
  | none => ⟨0, 0⟩

/-- A decimal without zeros at its end. -/
def Decimal.strip : Nat → Decimal → Decimal
  | 0, d => d
  | fuel + 1, d =>
    if d.digits ≠ 0 ∧ d.digits % 10 = 0 then strip fuel ⟨d.digits / 10, d.exponent + 1⟩ else d

/-- The text of a positive decimal: positional from one hundred-thousandth up to below ten to the
power sixteen, always with a point, and in scientific notation elsewhere, always with the sign of
the exponent. -/
def Decimal.text (d : Decimal) : String :=
  let ds := Nat.toDigits 10 d.digits
  let point : Int := ds.length + d.exponent
  if 0 ≤ d.exponent ∧ point ≤ 16 then
    String.ofList (ds ++ List.replicate d.exponent.toNat '0') ++ ".0"
  else if 0 < point ∧ point ≤ 16 then
    String.ofList (ds.take point.toNat) ++ "." ++ String.ofList (ds.drop point.toNat)
  else if -5 < point ∧ point ≤ 0 then
    "0." ++ String.ofList (List.replicate (-point).toNat '0' ++ ds)
  else
    let mantissa := match ds with
      | [d] => [d]
      | d :: rest => d :: '.' :: rest
      | [] => []
    let e := point - 1
    String.ofList mantissa ++ "e" ++ (if 0 ≤ e then "+" ++ toString e else toString e)

/-- The text of a number. -/
def text (x : Binary64) : String :=
  let sign := if x.negative then "-" else ""
  if x.significand = 0 then sign ++ "0.0"
  else sign ++ (Decimal.strip 17 x.shortest).text

end Binary64

end InteractiveBook.Json
