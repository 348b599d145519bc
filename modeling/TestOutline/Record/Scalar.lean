/-
**Lenient numbers and booleans.** Integers and booleans are also read from texts and from one
another.

* `Reading.integerBy` — integers, booleans, numbers without a fraction, and texts that spell an
  integer, by a reader of texts.
* `Reading.integer` — the same by `Reading.integerOfText`.
* `Reading.boolean` — booleans, zero and one, and texts that spell a boolean.
-/

import TestOutline.Record.Reading
import TestOutline.Text.Blank

namespace TestOutline

/-! ### Integers in texts -/

namespace IntegerText

/-- Whether a code point is white space around an integer. -/
def isSpace (point : CodePoint) : Bool :=
  point.isBlank && !(0x1C ≤ point.value && point.value ≤ 0x1F)

/-- The text without white space at its two ends. -/
def trim (text : Text) : Text := ((text.dropWhile isSpace).reverse.dropWhile isSpace).reverse

/-- The number that digits stand for. -/
def ofDigits (digits : Text) : Nat :=
  digits.foldl (fun number digit => number * 10 + (digit.value - 48)) 0

/-- The digits of a text that has nothing else but single underscores between them. -/
def ungrouped? : Text → Option Text
  | [] => none
  | [point] => if point.satisfies Char.isDigit then some [point] else none
  | point :: second :: rest =>
    if point.satisfies Char.isDigit then
      (if second = .scalar '_' then ungrouped? rest else ungrouped? (second :: rest)).map
        (point :: ·)
    else none

/-- Whether a text is empty, or a point with some zeros behind it. -/
def isFraction : Text → Bool
  | [] => true
  | point :: zeros => point == .scalar '.' && !zeros.isEmpty && zeros.all (· == .scalar '0')

/-- The number that a text without a sign stands for. -/
def size? (text : Text) : Option Nat :=
  let whole := text.takeWhile (· != .scalar '.')
  if isFraction (text.drop whole.length) then (ungrouped? whole).map ofDigits else none

/-- The integer that a text stands for. -/
def signed? : Text → Option Int
  | .scalar '-' :: rest => (size? rest).map fun size : Nat => -(size : Int)
  | .scalar '+' :: rest => (size? rest).map Int.ofNat
  | text => (size? text).map Int.ofNat

end IntegerText

namespace Reading

/-- The most characters that an integer in a text may have. -/
def longestInteger : Nat := 4300

/-- The integer that a text spells. -/
def integerOfText (text : Text) : Reading Int :=
  match IntegerText.signed? (IntegerText.trim text) with
  | none => fail .malformedInteger
  | some number =>
    if longestInteger < (Text.ofInt number).length then fail .longInteger else .ok number

/-- Whether an integer fits a machine word of 64 bits, the least one apart. -/
def fitsWord (number : Int) : Bool := number.natAbs < Nat.pow 2 63

/-- The integer that a number is. -/
def integerOfFloat (float : Binary64) : Reading Int :=
  if !float.isFinite then fail .notFinite
  else
    match float.integer? with
    | none => fail .fractional
    | some number => if fitsWord number then .ok number else fail .longInteger

/-- An integer, in any of the ways to give one; `ofText` reads it from a text. -/
def integerBy (ofText : Text → Reading Int) : Json → Reading Int
  | .int number => .ok number
  | .bool value => .ok (if value then 1 else 0)
  | .string text => ofText text
  | .float float => integerOfFloat float
  | _ => fail .noInteger

/-- An integer, in any of the ways to give one. -/
def integer (json : Json) : Reading Int := integerBy integerOfText json

/-- An integer that is not negative; `ofText` reads integers from texts. -/
def naturalBy (ofText : Text → Reading Int) (json : Json) : Reading Int :=
  (integerBy ofText json).andThen fun number => if 0 ≤ number then .ok number else fail .negative

def trueWords : List Text := ["1", "on", "t", "true", "y", "yes"]

def falseWords : List Text := ["0", "off", "f", "false", "n", "no"]

/-- A code point with a plain capital letter made small. -/
def smallLetter : CodePoint → CodePoint
  | .scalar char => .scalar char.toLower
  | point => point

/-- The boolean that a text spells, without regard to case. -/
def booleanOfText (text : Text) : Reading Bool :=
  let text := text.map smallLetter
  if trueWords.contains text then .ok true
  else if falseWords.contains text then .ok false
  else fail .malformedBoolean

/-- The boolean that an integer is. -/
def booleanOfInteger (number : Int) : Reading Bool :=
  if number = 1 then .ok true
  else if number = 0 then .ok false
  else if fitsWord number ∨ number = -(Nat.pow 2 63 : Nat) then fail .malformedBoolean
  else fail .noBoolean

/-- A boolean, in any of the ways to give one. -/
def boolean : Json → Reading Bool
  | .bool value => .ok value
  | .string text => booleanOfText text
  | .int number => booleanOfInteger number
  | .float float =>
    match float.integer? with
    | some number => if fitsWord number then booleanOfInteger number else fail .noBoolean
    | none => fail .noBoolean
  | _ => fail .noBoolean

end Reading

end TestOutline
