/-
**Blank code points.** The spaces, line ends and separators that are dropped from the ends of a
text.

* `Text.strip` — a text without the blanks at its two ends.
-/

import TestOutline.Text.CodePoint

namespace TestOutline

/-- Whether a number is that of a blank: a space, a line end or a separator. -/
def isBlankNumber (number : Nat) : Bool :=
  (0x09 ≤ number && number ≤ 0x0D) || (0x1C ≤ number && number ≤ 0x20) || number == 0x85 ||
    number == 0xA0 || number == 0x1680 || (0x2000 ≤ number && number ≤ 0x200A) ||
      number == 0x2028 ||
    number == 0x2029 || number == 0x202F || number == 0x205F || number == 0x3000

/-- Whether a code point is blank. -/
def CodePoint.isBlank (point : CodePoint) : Bool := isBlankNumber point.value

namespace Text

/-- The text without the blanks at its start. -/
def stripStart (text : Text) : Text := text.dropWhile CodePoint.isBlank

/-- The text without the blanks at its end. -/
def stripEnd : Text → Text
  | [] => []
  | point :: rest =>
    match stripEnd rest with
    | [] => if point.isBlank then [] else [point]
    | kept => point :: kept

/-- The text without the blanks at its two ends. -/
def strip (text : Text) : Text := stripEnd (stripStart text)

/-- Whether every code point is blank. -/
def isBlank (text : Text) : Bool := text.all CodePoint.isBlank

theorem stripEnd_isPrefix (text : Text) : stripEnd text <+: text := by
  induction text with
  | nil => exact List.prefix_refl _
  | cons point rest ih =>
    unfold stripEnd
    split
    · split
      · exact List.nil_prefix
      · exact List.cons_prefix_cons.mpr ⟨rfl, List.nil_prefix⟩
    · exact List.cons_prefix_cons.mpr ⟨rfl, ih⟩

/-- A text without its blanks stands in the text. -/
theorem strip_isInfix (text : Text) : strip text <:+: text :=
  (stripEnd_isPrefix _).isInfix.trans (List.dropWhile_suffix _).isInfix

end Text

end TestOutline
