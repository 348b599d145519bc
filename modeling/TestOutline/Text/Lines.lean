/-
**Lines.** Only a line feed ends a line.

* `Text.unlines_lines` — joining the lines with line feeds gives the text back.
* `Text.lines_ne_nil` — there is always a line, if only an empty one.
-/

import TestOutline.Text.CodePoint

namespace TestOutline.Text

def lineFeed : CodePoint := .scalar '\n'

/-- The lines of a text, without their line feeds. -/
def lines : Text → List Text
  | [] => [[]]
  | point :: rest =>
    if point = lineFeed then [] :: lines rest
    else
      match lines rest with
      | [] => [[point]]
      | line :: others => (point :: line) :: others

/-- The lines put one after the other with line feeds between them. -/
def unlines : List Text → Text
  | [] => []
  | [line] => line
  | line :: others => line ++ lineFeed :: unlines others

/-- There is always a line, if only an empty one. -/
theorem lines_ne_nil (text : Text) : lines text ≠ [] := by
  cases text with
  | nil => simp [lines]
  | cons point rest =>
    unfold lines
    split
    · simp
    · split <;> simp

/-- Joining the lines with line feeds gives the text back. -/
theorem unlines_lines (text : Text) : unlines (lines text) = text := by
  induction text with
  | nil => rfl
  | cons point rest ih =>
    unfold lines
    split
    · next feed =>
      subst feed
      cases found : lines rest with
      | nil => exact absurd found (lines_ne_nil rest)
      | cons line others => rw [unlines, ← found, ih]; simp; simp
    · cases found : lines rest with
      | nil => exact absurd found (lines_ne_nil rest)
      | cons line others =>
        rw [found] at ih
        cases others with
        | nil => simp only [unlines] at ih ⊢; rw [ih]
        | cons next others => simp only [unlines, List.cons_append] at ih ⊢; rw [ih]

end TestOutline.Text
