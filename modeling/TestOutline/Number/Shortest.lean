/-
**Shortest decimals.** The fewest digits that are read back as the same number, the nearest of them
to it.

* `Binary64.shortest` finds the digits and the place of the point.
* `Binary64.text` writes them: positional while the point lies near the digits, else with an
  exponent.
-/

import TestOutline.Number.Binary64
import TestOutline.Text.CodePoint

namespace TestOutline

/-- A fraction of natural numbers. -/
structure Fraction where
  numerator : Nat
  denominator : Nat

namespace Fraction

/-- A number of quarters of a power of two. -/
def ofQuarters (quarters : Nat) (exponent : Int) : Fraction :=
  if 2 ≤ exponent then ⟨quarters * Nat.pow 2 (exponent - 2).toNat, 1⟩
  else ⟨quarters, Nat.pow 2 (2 - exponent).toNat⟩

/-- The fraction in units of a power of ten. -/
def inUnits (fraction : Fraction) (power : Int) : Fraction :=
  if 0 ≤ power then ⟨fraction.numerator, fraction.denominator * Nat.pow 10 power.toNat⟩
  else ⟨fraction.numerator * Nat.pow 10 (-power).toNat, fraction.denominator⟩

/-- Whether a whole number is below the fraction. -/
def isAbove (fraction : Fraction) (whole : Nat) : Bool :=
  whole * fraction.denominator < fraction.numerator

/-- Whether a whole number is the fraction or below it. -/
def isAtLeast (fraction : Fraction) (whole : Nat) : Bool :=
  whole * fraction.denominator ≤ fraction.numerator

/-- The distance to a whole number, in parts of the denominator. -/
def distance (fraction : Fraction) (whole : Nat) : Nat :=
  max (whole * fraction.denominator) fraction.numerator -
    min (whole * fraction.denominator) fraction.numerator

/-- The number of digits in front of the point of a positive fraction; zero or less when the first
digits after the point are zeros. -/
def pointPlace (fraction : Fraction) : Int :=
  let whole := fraction.numerator / fraction.denominator
  if whole = 0 then
    let zeros := (List.range 400).find? fun power =>
      fraction.denominator ≤ fraction.numerator * Nat.pow 10 power
    1 - (zeros.getD 0 : Nat)
  else (Nat.toDigits 10 whole).length

end Fraction

namespace Binary64

/-- Digits with the number of them that stand in front of the point. -/
structure Decimal where
  digits : List Char
  point : Int

/-- The whole number of units of a power of ten that is read back as the number with the given
multiple, nearest to it; a tie goes to the even one. -/
def onGrid? (multiple : Nat) (exponent : Int) (power : Int) : Option Nat :=
  let value := (Fraction.ofQuarters (4 * multiple) exponent).inUnits power
  let belowGap := if multiple = Nat.pow 2 52 ∧ leastExponent < exponent then 1 else 2
  let low := (Fraction.ofQuarters (4 * multiple - belowGap) exponent).inUnits power
  let high := (Fraction.ofQuarters (4 * multiple + 2) exponent).inUnits power
  let reads (whole : Nat) : Bool :=
    if multiple % 2 = 0 then !low.isAbove whole && high.isAtLeast whole
    else !low.isAtLeast whole && high.isAbove whole
  let below := value.numerator / value.denominator
  let above := below + 1
  match reads below, reads above with
  | false, false => none
  | true, false => some below
  | false, true => some above
  | true, true =>
    let near := value.distance below
    let far := value.distance above
    if near < far ∨ (near = far ∧ below % 2 = 0) then some below else some above

/-- The shortest decimal of a positive number. -/
def shortest (multiple : Nat) (exponent : Int) : Decimal :=
  let place := (Fraction.ofQuarters (4 * multiple) exponent).pointPlace
  let found := (List.range 17).findSome? fun (count : Nat) =>
    (onGrid? multiple exponent (place - (count + 1))).map fun whole => (whole, place - (count + 1))
  let (whole, power) := found.getD (0, 0)
  let digits := Nat.toDigits 10 whole
  ⟨(digits.reverse.dropWhile (· == '0')).reverse, digits.length + power⟩

/-- The text of a decimal: positional with a digit on both sides of the point while the point lies
from three places before to sixteen places behind the first digit, else with an exponent of two
digits or more. -/
def Decimal.text (decimal : Decimal) : Text :=
  let digits := Text.ofChars decimal.digits
  let zeros (count : Nat) : Text := List.replicate count (.scalar '0')
  if -4 < decimal.point ∧ decimal.point ≤ 16 then
    if decimal.point ≤ 0 then "0." ++ zeros (-decimal.point).toNat ++ digits
    else
      let front := decimal.point.toNat
      let whole := digits.take front ++ zeros (front - digits.length)
      let rest := digits.drop front
      whole ++ "." ++ if rest.isEmpty then zeros 1 else rest
  else
    let exponent := decimal.point - 1
    let size := Text.ofNat exponent.natAbs
    let fraction : Text := if digits.length = 1 then [] else .scalar '.' :: digits.drop 1
    digits.take 1 ++ fraction ++ (if exponent < 0 then "e-" else "e+") ++
      zeros (2 - size.length) ++ size

/-- The text of a number. -/
def text : Binary64 → Text
  | .nan => "nan"
  | .infinite negative => if negative then "-inf" else "inf"
  | .finite negative multiple exponent =>
    let size : Text := if multiple = 0 then "0.0" else (shortest multiple exponent).text
    if negative then .scalar '-' :: size else size

end Binary64

end TestOutline
