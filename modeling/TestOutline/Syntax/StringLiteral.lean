/-
**String literals.** The text that a string literal stands for.

* `StringLiteral.Escape.read?` — the escape sequence at the start of a text, after its backslash,
  and its length.
* `StringLiteral.cooked` — the text with each escape sequence replaced by what it stands for.
* `StringLiteral.value` — the same for a whole literal, without its quotes.
-/

import TestOutline.Text.Hex

namespace TestOutline.StringLiteral

/-- Why a literal stands for no text: the number in an escape sequence is that of no code point, or
does not even fit a machine word. -/
inductive Fault where
  | noCodePoint
  | hugeNumber
  deriving DecidableEq, Repr

def Fault.message : Fault → Text
  | .noCodePoint => "chr() arg not in range(0x110000)"
  | .hugeNumber => "Python int too large to convert to C int"

/-- An escape sequence: the number of a code point, the end of a line that goes on, or a code point
that may have a meaning of its own. -/
inductive Escape where
  | numbered (number : Nat)
  | lineEnd
  | plain (point : CodePoint)
  deriving DecidableEq, Repr

namespace Escape

/-- The number in braces after `u`, and the length of both. -/
def readBraced? : Text → Option (Nat × Nat)
  | .scalar 'u' :: .scalar '\x7b' :: rest =>
    let digits := rest.takeWhile CodePoint.isHexDigit
    if digits.isEmpty ∨ (rest.drop digits.length).head? ≠ some (.scalar '\x7d') then none
    else (Text.hexNumber? digits).map fun number => (number, digits.length + 3)
  | _ => none

/-- The number spelled by so many digits after a letter, and the length of both. -/
def readFixed? (letter : Char) (count : Nat) : Text → Option (Nat × Nat)
  | .scalar first :: rest =>
    if first = letter ∧ count ≤ rest.length then
      (Text.hexNumber? (rest.take count)).map fun number => (number, count + 1)
    else none
  | _ => none

/-- The escape sequence at the start of a text, and its length. -/
def read? (text : Text) : Option (Escape × Nat) :=
  match (readBraced? text).or ((readFixed? 'u' 4 text).or (readFixed? 'x' 2 text)) with
  | some (number, size) => some (.numbered number, size)
  | none =>
    match text with
    | [] => none
    | .scalar '\r' :: .scalar '\n' :: _ => some (.lineEnd, 2)
    | .scalar '\n' :: _ => some (.lineEnd, 1)
    | .scalar '\u2028' :: _ => some (.lineEnd, 1)
    | .scalar '\u2029' :: _ => some (.lineEnd, 1)
    | point :: _ => some (.plain point, 1)

/-- What a code point stands for after a backslash. -/
def meaning : CodePoint → CodePoint
  | .scalar 'n' => .scalar '\n'
  | .scalar 'r' => .scalar '\r'
  | .scalar 't' => .scalar '\t'
  | .scalar 'b' => .scalar '\x08'
  | .scalar 'f' => .scalar '\x0c'
  | .scalar 'v' => .scalar '\x0b'
  | .scalar '0' => .scalar '\x00'
  | point => point

/-- What an escape sequence stands for. -/
def value : Escape → Except Fault Text
  | .numbered number =>
    match CodePoint.ofNat? number with
    | some point => .ok [point]
    | none => .error (if number < 0x80000000 then .noCodePoint else .hugeNumber)
  | .lineEnd => .ok []
  | .plain point => .ok [meaning point]

end Escape

/-- The text with each escape sequence replaced by what it stands for. -/
def cooked : Text → Except Fault Text
  | [] => .ok []
  | first :: rest =>
    match if first = .scalar '\\' then Escape.read? rest else none with
    | none => do
      let others ← cooked rest
      return first :: others
    | some (escape, size) => do
      let start ← escape.value
      let others ← cooked (rest.drop size)
      return start ++ others
termination_by text => text.length

/-- The text between the quotes, if there are two of one kind. -/
def unquoted (text : Text) : Text :=
  match text with
  | .scalar quote :: rest =>
    if (quote = '\'' ∨ quote = '"') ∧ rest.getLast? = some (.scalar quote) then rest.dropLast
    else text
  | _ => text

/-- The text that a string literal stands for. -/
def value (literal : Text) : Except Fault Text := cooked (unquoted literal)

end TestOutline.StringLiteral
