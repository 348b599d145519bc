/-
**Lexemes.** How many characters at the start of a text make up a name, a number, a string, a
regular expression, a piece of a template, or a punctuator; zero means that there is none.
-/

import TestOutline.Syntax.Character

namespace TestOutline.Syntax.Lexeme

/-- The length of an escape sequence after its backslash, zero for a malformed one. A line end
written as carriage return and line feed is one. -/
def escape : List Char → Nat
  | [] => 0
  | 'x' :: rest => if 2 ≤ ((rest.take 2).takeWhile isHexDigit).length then 3 else 0
  | 'u' :: '{' :: rest =>
    let digits := (rest.takeWhile isHexDigit).length
    if 0 < digits ∧ (rest.drop digits).head? = some '}' then digits + 3 else 0
  | 'u' :: rest => if 4 ≤ ((rest.take 4).takeWhile isHexDigit).length then 5 else 0
  | '\r' :: '\n' :: _ => 2
  | _ => 1

/-- The length of a name, which may hold `\u` escapes. -/
def nameTail : Nat → List Char → Nat
  | 0, _ => 0
  | _ + 1, [] => 0
  | fuel + 1, char :: rest =>
    if isNameChar char then 1 + nameTail fuel rest
    else
      match char, rest with
      | '\\', 'u' :: more =>
        let size := escape ('u' :: more)
        if size = 0 then 0 else 1 + size + nameTail fuel (rest.drop size)
      | _, _ => 0

/-- The length of a name or keyword. -/
def name : List Char → Nat
  | [] => 0
  | char :: rest =>
    if isNameStart char || char == '\\' then nameTail (rest.length + 1) (char :: rest) else 0

def digits (chars : List Char) : Nat :=
  (chars.takeWhile fun char => char.isDigit || char == '_').length

def exponent : List Char → Nat
  | mark :: sign :: rest =>
    if mark = 'e' ∨ mark = 'E' then
      if sign = '+' ∨ sign = '-' then (if digits rest = 0 then 0 else 2 + digits rest)
      else if digits (sign :: rest) = 0 then 0 else 1 + digits (sign :: rest)
    else 0
  | _ => 0

/-- The length of a numeric literal. -/
def number (chars : List Char) : Nat :=
  match chars with
  | '0' :: base :: rest =>
    if base.isAlpha && base != 'e' && base != 'E' && base != 'n' then
      2 + (rest.takeWhile fun char => char.isAlphanum || char == '_').length
    else decimal chars
  | '.' :: digit :: _ => if digit.isDigit then decimal chars else 0
  | digit :: _ => if digit.isDigit then decimal chars else 0
  | [] => 0
where
  /-- Digits, a fraction, an exponent and the mark of a big integer. -/
  decimal (chars : List Char) : Nat :=
    let whole := digits chars
    let afterWhole := chars.drop whole
    let fraction := if afterWhole.head? = some '.' then 1 + digits (afterWhole.drop 1) else 0
    let size := whole + fraction
    let size := size + exponent (chars.drop size)
    if (chars.drop size).head? = some 'n' then size + 1 else size

/-- The length of the rest of a string up to its closing quote, zero when it does not close on its
line. -/
def stringTail (quote : Char) : Nat → List Char → Nat
  | 0, _ => 0
  | _ + 1, [] => 0
  | fuel + 1, char :: rest =>
    if char = quote then 1
    else if char = '\n' ∨ char = '\r' then 0
    else
      let size := if char = '\\' then escape rest else 0
      if char = '\\' ∧ size = 0 then 0
      else
        match stringTail quote fuel (rest.drop size) with
        | 0 => 0
        | tail => 1 + size + tail

/-- The length of a string literal. -/
def string : List Char → Nat
  | [] => 0
  | quote :: rest =>
    if quote = '\'' ∨ quote = '"' then
      match stringTail quote rest.length rest with
      | 0 => 0
      | tail => 1 + tail
    else 0

/-- The length of a string in the tag of an element, which knows no escapes and may span lines. -/
def tagString : List Char → Nat
  | [] => 0
  | quote :: rest =>
    if quote = '\'' ∨ quote = '"' then
      let inside := (rest.takeWhile (· != quote)).length
      if inside < rest.length then inside + 2 else 0
    else 0

/-- The length of the rest of a regular expression up to its closing slash; a slash in a class does
not close it. -/
def regexTail (inClass : Bool) : List Char → Nat
  | [] => 0
  | char :: rest =>
    if char = '\n' ∨ char = '\r' then 0
    else if char = '/' ∧ !inClass then 1
    else if char = '\\' then
      match rest with
      | [] => 0
      | _ :: more =>
        match regexTail inClass more with
        | 0 => 0
        | tail => 2 + tail
    else
      match regexTail (if char = '[' then true else if char = ']' then false else inClass) rest with
      | 0 => 0
      | tail => 1 + tail

/-- The length of a regular expression with its flags. -/
def regex : List Char → Nat
  | '/' :: rest =>
    match regexTail false rest with
    | 0 => 0
    | 1 => 0
    | tail => 1 + tail + ((rest.drop tail).takeWhile Char.isAlpha).length
  | _ => 0

/-- The length of the literal text of a template before a substitution or the closing mark; none if
the text ends first, or at a malformed escape sequence. -/
def templateText? : List Char → Option Nat := go 0
where
  /-- The same after some characters that belong to an escape sequence. -/
  go : Nat → List Char → Option Nat
    | _, [] => none
    | skipped + 1, _ :: rest => (go skipped rest).map (1 + ·)
    | 0, char :: rest =>
      if char = '\x60' then some 0
      else if char = '$' ∧ rest.head? = some '\x7b' then some 0
      else if char = '\\' then
        match escape rest with
        | 0 => none
        | size => (go size rest).map (1 + ·)
      else (go 0 rest).map (1 + ·)

/-- The punctuators of more than one character, longest first. -/
def longPunctuators : List (List Char) :=
  [">>>=", "...", "===", "!==", "**=", "<<=", ">>=", ">>>", "&&=", "||=", "??=", "=>", "==", "!=",
    "<=", ">=", "&&", "||", "??", "?.", "++", "--", "+=", "-=", "*=", "/=", "%=", "&=", "|=", "^=",
    "**", "<<", ">>"].map
    String.toList

/-- The longest punctuator at the start of a text. A question mark and a dot before a digit are
two. -/
def punctuator (chars : List Char) : List Char :=
  match longPunctuators.find? (·.isPrefixOf chars) with
  | some ['?', '.'] => if ((chars.drop 2).head?.any Char.isDigit) then ['?'] else ['?', '.']
  | some found => found
  | none => chars.take 1

end TestOutline.Syntax.Lexeme
