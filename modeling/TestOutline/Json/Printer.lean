/-
**Writing JSON.** Values over several lines, two blanks deeper at each level, in ASCII alone.

* `Json.quote` — what is no printable ASCII is written by its UTF-16 units.
-/

import TestOutline.Json.Value
import TestOutline.Number.Shortest
import TestOutline.Text.Encoding

namespace TestOutline.Json

/-- The escape of a UTF-16 unit. -/
def unitEscape (unit : Nat) : Text := "\\u" ++ Text.ofHex 4 unit

def quotePoint (point : CodePoint) : Text :=
  match point with
  | .scalar '"' => "\\\""
  | .scalar '\\' => "\\\\"
  | .scalar '\n' => "\\n"
  | .scalar '\r' => "\\r"
  | .scalar '\t' => "\\t"
  | .scalar '\x08' => "\\b"
  | .scalar '\x0c' => "\\f"
  | _ =>
    let number := point.value
    if 0x20 ≤ number ∧ number < 0x7F then [point]
    else if number < 0x10000 then unitEscape number
    else unitEscape (0xD800 + (number - 0x10000) / 0x400) ++
      unitEscape (0xDC00 + (number - 0x10000) % 0x400)

def quote (text : Text) : Text := "\"" ++ text.flatMap quotePoint ++ "\""

/-- The start of a line at a depth. -/
def lineStart (depth : Nat) : Text := .scalar '\n' :: List.replicate (2 * depth) (.scalar ' ')

mutual

/-- Writes a value at a depth. Numbers that are not finite are null. -/
def indented (depth : Nat) : Json → Text
  | .null => "null"
  | .bool value => if value then "true" else "false"
  | .int value => Text.ofInt value
  | .float value => if value.isFinite then value.text else "null"
  | .string value => quote value
  | .array [] => "[]"
  | .array (item :: items) =>
    "[" ++ lineStart (depth + 1) ++ indented (depth + 1) item ++ indentedItems (depth + 1) items ++
      lineStart depth ++ "]"
  | .object [] => "\x7b\x7d"
  | .object ((key, value) :: members) =>
    "\x7b" ++ lineStart (depth + 1) ++ quote key ++ ": " ++ indented (depth + 1) value ++
      indentedMembers (depth + 1) members ++ lineStart depth ++ "\x7d"

def indentedItems (depth : Nat) : List Json → Text
  | [] => []
  | item :: items => "," ++ lineStart depth ++ indented depth item ++ indentedItems depth items

def indentedMembers (depth : Nat) : List (Text × Json) → Text
  | [] => []
  | (key, value) :: members =>
    "," ++ lineStart depth ++ quote key ++ ": " ++ indented depth value ++
      indentedMembers depth members

end

/-- The text of a value over several lines. -/
def pretty (value : Json) : Text := indented 0 value

end TestOutline.Json
