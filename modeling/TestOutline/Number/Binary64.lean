/-
**Binary floating point.** Numbers of 64 bits as exact multiples of powers of two.

* `Binary64.ofDecimal` — the nearest number to a decimal, ties to an even multiple.
* `Binary64.integer?` — the integer that a number is, if it is one.
-/

namespace TestOutline

/-- A number of 64 bits: no number, an infinity, or a signed multiple of a power of two. A finite
number has fewer than 53 bits only at the least exponent. -/
inductive Binary64 where
  | nan
  | infinite (negative : Bool)
  | finite (negative : Bool) (multiple : Nat) (exponent : Int)
  deriving DecidableEq, Repr

namespace Binary64

def leastExponent : Int := -1074

def greatestExponent : Int := 971

/-- The quotient rounded to the nearest integer, a tie to the even one. -/
def roundedQuotient (numerator denominator : Nat) : Nat :=
  let quotient := numerator / denominator
  let twice := 2 * (numerator % denominator)
  if denominator < twice ∨ (twice = denominator ∧ quotient % 2 = 1) then quotient + 1 else quotient

/-- The quotient over a power of two. -/
def scaledQuotient (numerator denominator : Nat) (exponent : Int) : Nat :=
  if 0 ≤ exponent then roundedQuotient numerator (denominator * Nat.pow 2 exponent.toNat)
  else roundedQuotient (numerator * Nat.pow 2 (-exponent).toNat) denominator

/-- The number nearest to a positive fraction. -/
def ofFraction (negative : Bool) (numerator denominator : Nat) : Binary64 :=
  let estimate : Int := (numerator.log2 : Int) - denominator.log2 - 53
  let exponent := max leastExponent estimate
  let exponent :=
    if Nat.pow 2 53 ≤ scaledQuotient numerator denominator exponent then exponent + 1 else exponent
  let exponent :=
    if Nat.pow 2 53 ≤ scaledQuotient numerator denominator exponent then exponent + 1 else exponent
  let multiple := scaledQuotient numerator denominator exponent
  let (multiple, exponent) :=
    if multiple = Nat.pow 2 53 then (Nat.pow 2 52, exponent + 1) else (multiple, exponent)
  if greatestExponent < exponent then .infinite negative else .finite negative multiple exponent

/-- The number nearest to a whole number of powers of ten. -/
def ofDecimal (negative : Bool) (digits : Nat) (exponent : Int) : Binary64 :=
  let magnitude : Int := (Nat.toDigits 10 digits).length + exponent
  if digits = 0 ∨ magnitude < -330 then .finite negative 0 leastExponent
  else if 310 < magnitude then .infinite negative
  else if 0 ≤ exponent then ofFraction negative (digits * Nat.pow 10 exponent.toNat) 1
  else ofFraction negative digits (Nat.pow 10 (-exponent).toNat)

/-- The whole number that a multiple of a power of two is, if it is one. -/
def size? (multiple : Nat) (exponent : Int) : Option Nat :=
  if 0 ≤ exponent then some (multiple * Nat.pow 2 exponent.toNat)
  else if multiple % Nat.pow 2 (-exponent).toNat = 0
    then some (multiple / Nat.pow 2 (-exponent).toNat)
  else none

/-- The integer that a number is, if it is one. -/
def integer? : Binary64 → Option Int
  | .finite negative multiple exponent =>
    (size? multiple exponent).map fun size : Nat => if negative then -(size : Int) else size
  | _ => none

/-- Whether the number is neither infinite nor no number at all. -/
def isFinite : Binary64 → Bool
  | .finite .. => true
  | _ => false

end Binary64

end TestOutline
