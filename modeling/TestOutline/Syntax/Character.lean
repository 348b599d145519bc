/-
**Characters of a source.** Which characters separate tokens, end lines and spell names.
-/

namespace TestOutline.Syntax

/-- Whether a character is a space of no width or of some width, other than the ASCII ones. -/
def isWideSpace (char : Char) : Bool :=
  let number := char.toNat
  number == 0xA0 || number == 0x1680 || (0x2000 ≤ number && number ≤ 0x200B) || number == 0x2028 ||
    number == 0x2029 || number == 0x202F || number == 0x205F || number == 0x2060 ||
      number == 0x3000 ||
    number == 0xFEFF

/-- Whether a character only separates tokens. -/
def isSpace (char : Char) : Bool :=
  char == ' ' || (0x09 ≤ char.toNat && char.toNat ≤ 0x0D) || isWideSpace char

/-- Whether a character is passed over while a place for a semicolon is sought: spaces that do not
forbid a break. -/
def isBreakableSpace (char : Char) : Bool :=
  let number := char.toNat
  char == ' ' || (0x09 ≤ number && number ≤ 0x0D) || number == 0x1680 ||
    (0x2000 ≤ number && number ≤ 0x2006) || (0x2008 ≤ number && number ≤ 0x200A) ||
      number == 0x2028 ||
    number == 0x2029 || number == 0x205F || number == 0x3000

/-- Whether a character ends a line comment. -/
def endsLineComment (char : Char) : Bool :=
  char == '\n' || char == '\r' || char.toNat == 0x2028 || char.toNat == 0x2029

/-- Whether a character may stand inside a name: all but controls, spaces and ASCII punctuation. -/
def isNameChar (char : Char) : Bool :=
  char.isAlphanum || char == '_' || char == '$' || (0x7F ≤ char.toNat && !isWideSpace char)

/-- Whether a character may start a name. -/
def isNameStart (char : Char) : Bool := isNameChar char && !char.isDigit

/-- Whether a character is a hexadecimal digit. -/
def isHexDigit (char : Char) : Bool :=
  char.isDigit || ('a' ≤ char && char ≤ 'f') || ('A' ≤ char && char ≤ 'F')

end TestOutline.Syntax
