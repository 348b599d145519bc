/-
**Quoted texts.** A text between quotes, with an escape for each code point that is not printable.
Single quotes are used unless the text holds one and no double quote.
-/

import TestOutline.Text.Encoding
import TestOutline.Text.Printable

namespace TestOutline

namespace Quoted

/-- The quote around a text. -/
def quoteOf (text : Text) : CodePoint :=
  if text.contains (Text.ofString "'") ∧ !text.contains (Text.ofString "\"") then .scalar '"'
  else .scalar '\''

/-- The escape of a code point by its number, in the fewest of two, four and eight digits. -/
def numberEscape (number : Nat) : Text :=
  if number < 0x100 then "\\x" ++ Text.ofHex 2 number
  else if number < 0x10000 then "\\u" ++ Text.ofHex 4 number
  else "\\U" ++ Text.ofHex 8 number

/-- A code point between quotes. -/
def escaped (quote point : CodePoint) : Text :=
  if point = quote ∨ point = .scalar '\\' then [.scalar '\\', point]
  else if point = .scalar '\n' then "\\n"
  else if point = .scalar '\r' then "\\r"
  else if point = .scalar '\t' then "\\t"
  else if point.isPrintable then [point]
  else numberEscape point.value

end Quoted

/-- The text between quotes. -/
def Text.quoted (text : Text) : Text :=
  let quote := Quoted.quoteOf text
  quote :: text.flatMap (Quoted.escaped quote) ++ [quote]

end TestOutline
