/-
**Hexadecimal digits.** The numbers that texts spell in base sixteen.
-/

import TestOutline.Text.CodePoint

namespace TestOutline

/-- The value of a hexadecimal digit. -/
def CodePoint.hexValue? (point : CodePoint) : Option Nat :=
  point.char?.bind fun char =>
    if '0' ≤ char ∧ char ≤ '9' then some (char.toNat - 48)
    else if 'a' ≤ char ∧ char ≤ 'f' then some (char.toNat - 87)
    else if 'A' ≤ char ∧ char ≤ 'F' then some (char.toNat - 55)
    else none

def CodePoint.isHexDigit (point : CodePoint) : Bool := point.hexValue?.isSome

/-- The number that hexadecimal digits spell. -/
def Text.hexNumber? (digits : Text) : Option Nat :=
  digits.foldlM (fun number digit => digit.hexValue?.map (number * 16 + ·)) 0

end TestOutline
