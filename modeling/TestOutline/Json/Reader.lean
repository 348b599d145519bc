/-
**Reading JSON.** A text is one value between blanks. Besides the usual values, `NaN` and the
infinities are numbers, and half of a surrogate pair may stand alone.

* `Json.parse` reads a text; what it refuses it describes by a problem and its place.
* `Json.Refusal.message` names the place by line, column and offset.
-/

import TestOutline.Json.Value
import TestOutline.Text.Hex
import TestOutline.Text.Lines

namespace TestOutline.Json

/-- What is wrong with a text that is no JSON. -/
inductive Problem where
  | noValue
  | noKey
  | noColon
  | noComma
  | extraData
  | openString
  | controlCharacter
  | unknownEscape
  | badHexEscape
  | byteOrderMark
  deriving DecidableEq, Repr

/-- Why a text is refused: a problem at a place, or an integer that is too long to be read. -/
inductive Refusal where
  | malformed (problem : Problem) (place : Nat)
  | hugeInteger (digits : Nat)
  deriving DecidableEq, Repr

def Problem.message : Problem → Text
  | .noValue => "Expecting value"
  | .noKey => "Expecting property name enclosed in double quotes"
  | .noColon => "Expecting ':' delimiter"
  | .noComma => "Expecting ',' delimiter"
  | .extraData => "Extra data"
  | .openString => "Unterminated string starting at"
  | .controlCharacter => "Invalid control character at"
  | .unknownEscape => "Invalid \\escape"
  | .badHexEscape => "Invalid \\uXXXX escape"
  | .byteOrderMark => "Unexpected UTF-8 BOM (decode using utf-8-sig)"

/-- The most digits that an integer may have. -/
def longestInteger : Nat := Text.mostDigits

/-- The wording of a problem at a place of a text, which is named by its line, column and offset. -/
def Problem.messageAt (problem : Problem) (text : Text) (place : Nat) : Text :=
  let before := text.take place
  let line := before.count Text.lineFeed + 1
  let column := (before.reverse.takeWhile (· != Text.lineFeed)).length + 1
  problem.message ++ ": line " ++ Text.ofNat line ++ " column " ++ Text.ofNat column ++ " (char " ++
    Text.ofNat place ++ ")"

/-- The wording of the refusal of an integer. -/
def hugeIntegerMessage (digits : Nat) : Text :=
  "Exceeds the limit (" ++ Text.ofNat longestInteger ++
    " digits) for integer string conversion: value has " ++ Text.ofNat digits ++
    " digits; use sys.set_int_max_str_digits() to increase the limit"

/-- A reader's place: the text ahead and its offset. -/
structure Place where
  ahead : Text
  offset : Nat

namespace Place

def move (place : Place) (count : Nat) : Place := ⟨place.ahead.drop count, place.offset + count⟩

/-- Whether a code point is a blank between tokens. -/
def isBlank (point : CodePoint) : Bool :=
  point == .scalar ' ' || point == .scalar '\t' || point == .scalar '\n' || point == .scalar '\r'

def skipBlanks (place : Place) : Place := place.move (place.ahead.takeWhile isBlank).length

/-- Whether the text ahead starts with the given one. -/
def starts (place : Place) (text : String) : Bool := (Text.ofString text).isPrefixOf place.ahead

def refuse {α : Type} (place : Place) (problem : Problem) : Except Refusal α :=
  .error (.malformed problem place.offset)

end Place

/-- The number that four hexadecimal digits spell. -/
def hexQuad? (text : Text) : Option Nat :=
  if 4 ≤ text.length then Text.hexNumber? (text.take 4) else none

/-- The code point of an escape of one letter. -/
def letterEscape? : CodePoint → Option CodePoint
  | .scalar '"' => some (.scalar '"')
  | .scalar '\\' => some (.scalar '\\')
  | .scalar '/' => some (.scalar '/')
  | .scalar 'b' => some (.scalar '\x08')
  | .scalar 'f' => some (.scalar '\x0c')
  | .scalar 'n' => some (.scalar '\n')
  | .scalar 'r' => some (.scalar '\r')
  | .scalar 't' => some (.scalar '\t')
  | _ => none

/-- The code point spelled by four digits after `\u`, and how much is read: a high surrogate joins
with a low one that follows it as an escape, with the string going on after it. -/
def unicodeEscape (first : Nat) (after : Text) : CodePoint × Nat :=
  let alone := ((CodePoint.ofNat? first).getD default, 0)
  if 0xD800 ≤ first ∧ first < 0xDC00 ∧ (Text.ofString "\\u").isPrefixOf after ∧
    6 < after.length then
    match hexQuad? (after.drop 2) with
    | some second =>
      if 0xDC00 ≤ second ∧ second < 0xE000 then
        ((CodePoint.ofNat? (0x10000 + (first - 0xD800) * 0x400 + (second - 0xDC00))).getD default,
          6)
      else alone
    | none => alone
  else alone

/-- Whether a pair of escapes has a malformed second half. -/
def secondEscapeIsBad (first : Nat) (after : Text) : Bool :=
  0xD800 ≤ first && first < 0xDC00 && (Text.ofString "\\u").isPrefixOf after && 6 < after.length &&
    (hexQuad? (after.drop 2)).isNone

/-- Reads a string after its opening quote, which stands at `start`. -/
def readString (start : Nat) : Nat → Place → Except Refusal (Text × Place)
  | 0, _ => .error (.malformed .openString start)
  | fuel + 1, place =>
    match place.ahead with
    | [] => .error (.malformed .openString start)
    | .scalar '"' :: _ => .ok ([], place.move 1)
    | .scalar '\\' :: rest =>
      match rest with
      | [] => .error (.malformed .openString start)
      | .scalar 'u' :: digits =>
        if digits.length ≤ 4 then place.move 1 |>.refuse .badHexEscape
        else
          match hexQuad? digits with
          | none => place.move 1 |>.refuse .badHexEscape
          | some first =>
            let after := digits.drop 4
            if secondEscapeIsBad first after then place.move 7 |>.refuse .badHexEscape
            else do
              let (point, more) := unicodeEscape first after
              let (text, place) ← readString start fuel (place.move (6 + more))
              return (point :: text, place)
      | letter :: _ =>
        match letterEscape? letter with
        | none => place.refuse .unknownEscape
        | some point => do
          let (text, place) ← readString start fuel (place.move 2)
          return (point :: text, place)
    | point :: _ =>
      if point.value < 0x20 then place.refuse .controlCharacter
      else do
        let (text, place) ← readString start fuel (place.move 1)
        return (point :: text, place)

/-- Whether a code point is a decimal digit of the plain ten. -/
def isDigit (point : CodePoint) : Bool := point.satisfies Char.isDigit

/-- The digits at the start of a text. -/
def digitsOf (text : Text) : Text := text.takeWhile isDigit

/-- The number that digits spell. -/
def digitsValue (digits : Text) : Nat :=
  digits.foldl (fun number digit => number * 10 + (digit.value - 48)) 0

/-- The length of an exponent with at least one digit. -/
def exponentLength : Text → Nat
  | mark :: rest =>
    if mark = .scalar 'e' ∨ mark = .scalar 'E' then
      let sign := (rest.takeWhile fun point => point == .scalar '+' || point == .scalar '-').length
      let digits := (digitsOf (rest.drop (min sign 1))).length
      if digits = 0 then 0 else 1 + min sign 1 + digits
    else 0
  | [] => 0

/-- The integer that an exponent spells after its mark. -/
def exponentValue (text : Text) : Int :=
  match text with
  | .scalar '-' :: digits => -(digitsValue digits : Int)
  | .scalar '+' :: digits => digitsValue digits
  | digits => digitsValue digits

/-- Reads a number. A fraction needs a digit after its point; what does not belong to the number is
left. -/
def readNumber (place : Place) : Except Refusal (Json × Place) :=
  let negative := place.ahead.head? == some (.scalar '-')
  let body := if negative then place.ahead.drop 1 else place.ahead
  let allDigits := digitsOf body
  let whole := if allDigits.head? = some (.scalar '0') then allDigits.take 1 else allDigits
  if whole.isEmpty then place.refuse .noValue
  else
    let afterWhole := body.drop whole.length
    let fraction :=
      if afterWhole.head? = some (.scalar '.') then digitsOf (afterWhole.drop 1) else []
    let fractionLength := if fraction.isEmpty then 0 else fraction.length + 1
    let afterFraction := afterWhole.drop fractionLength
    let exponent := exponentLength afterFraction
    let length := (if negative then 1 else 0) + whole.length + fractionLength + exponent
    if fractionLength = 0 ∧ exponent = 0 then
      if longestInteger < whole.length then .error (.hugeInteger whole.length)
      else
        let size : Int := digitsValue whole
        .ok (.int (if negative then -size else size), place.move length)
    else
      let power := exponentValue ((afterFraction.take exponent).drop 1) - fraction.length
      .ok (.float (Binary64.ofDecimal negative (digitsValue (whole ++ fraction)) power),
        place.move length)

/-- The words that are values. -/
def wordValues : List (String × Json) := [
  ("null", .null), ("true", .bool true), ("false", .bool false), ("NaN", .float .nan),
  ("Infinity", .float (.infinite false)), ("-Infinity", .float (.infinite true))]

/-- Reads what is no container and no string. -/
def readPlain (place : Place) : Except Refusal (Json × Place) :=
  match wordValues.find? fun entry => place.starts entry.1 with
  | some (word, value) => .ok (value, place.move word.length)
  | none => readNumber place

mutual

def readValue : Nat → Place → Except Refusal (Json × Place)
  | 0, place => place.refuse .noValue
  | fuel + 1, place =>
    match place.ahead with
    | .scalar '"' :: rest => do
      let (text, place) ← readString place.offset (rest.length + 1) (place.move 1)
      return (.string text, place)
    | .scalar '\x7b' :: _ =>
      let inside := (place.move 1).skipBlanks
      if inside.starts "\x7d" then .ok (.object [], inside.move 1) else readMembers fuel [] inside
    | .scalar '[' :: _ =>
      let inside := (place.move 1).skipBlanks
      if inside.starts "]" then .ok (.array [], inside.move 1) else readItems fuel [] inside
    | _ => readPlain place

/-- Reads the members of an object from a key on. -/
def readMembers : Nat → List (Text × Json) → Place → Except Refusal (Json × Place)
  | 0, _, place => place.refuse .noKey
  | fuel + 1, members, place =>
    if !place.starts "\"" then place.refuse .noKey
    else do
      let (key, place) ← readString place.offset place.ahead.length (place.move 1)
      let place := place.skipBlanks
      if !place.starts ":" then place.refuse .noColon
      else
        let (value, place) ← readValue fuel (place.move 1).skipBlanks
        let members := insert key value members
        let place := place.skipBlanks
        if place.starts "\x7d" then .ok (.object members, place.move 1)
        else if place.starts "," then readMembers fuel members (place.move 1).skipBlanks
        else place.refuse .noComma

/-- Reads the items of an array from an item on. -/
def readItems : Nat → List Json → Place → Except Refusal (Json × Place)
  | 0, _, place => place.refuse .noValue
  | fuel + 1, items, place => do
    let (item, place) ← readValue fuel place
    let place := place.skipBlanks
    if place.starts "]" then .ok (.array (item :: items).reverse, place.move 1)
    else if place.starts "," then readItems fuel (item :: items) (place.move 1).skipBlanks
    else place.refuse .noComma

end

/-- Reads a text as one value. -/
def parse (text : Text) : Except Refusal Json :=
  let start : Place := ⟨text, 0⟩
  if text.head? = some (.scalar '\ufeff') then start.refuse .byteOrderMark
  else do
    let (value, place) ← readValue (2 * text.length + 2) start.skipBlanks
    let place := place.skipBlanks
    if place.ahead.isEmpty then .ok value else place.refuse .extraData

end TestOutline.Json
