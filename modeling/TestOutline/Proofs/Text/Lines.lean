/-
**Texts line by line.**

* `lines_of_no_feed`, `lines_append_lineFeed`: the lines of a text are those of its parts at a line
  end.
* `line_induction`: what is shown of a line, and of a line before a text, is shown of all texts.
* `join_lines`: the lines of a text, joined with line feeds, are the text.
* `Lies`: an offset of a text by its line and how far it is into it; `exists_lies`: there is a line
  for each offset.
* `Lies.take_eq`, `Lies.lt_iff`: what comes before an offset, and which of two offsets comes first.
-/

import Mathlib.Data.List.Infix
import TestOutline.Text.Lines

namespace TestOutline.Text

variable {text line : Text} {row column offset : Nat}

theorem join_cons {others : List Text} (others_ne : others ≠ []) (line : Text) :
    join [lineFeed] (line :: others) = line ++ lineFeed :: join [lineFeed] others := by
  rw [join, List.intercalate_cons_of_ne_nil others_ne, List.append_assoc]
  rfl

theorem join_append {lines others : List Text} (lines_ne : lines ≠ []) (others_ne : others ≠ []) :
    join [lineFeed] (lines ++ others) =
      join [lineFeed] lines ++ lineFeed :: join [lineFeed] others := by
  induction lines with
  | nil => exact absurd rfl lines_ne
  | cons line lines ih =>
    cases lines with
    | nil =>
      rw [List.singleton_append, join_cons others_ne]
      simp [join]
    | cons second lines =>
      rw [List.cons_append, join_cons (by simp), join_cons (by simp), ih (by simp),
        List.append_assoc]
      rfl

theorem lines_of_no_feed (noFeed : lineFeed ∉ text) : text.lines = [text] := by
  induction text with
  | nil => rfl
  | cons point rest ih =>
    rw [List.mem_cons, not_or] at noFeed
    rw [lines, if_neg (Ne.symm noFeed.1), ih noFeed.2]

/-- **A line end parts the lines before it from those behind it.** -/
theorem lines_append_lineFeed (left right : Text) :
    (left ++ lineFeed :: right).lines = left.lines ++ right.lines := by
  induction left with
  | nil => simp [lines]
  | cons point left ih =>
    rw [List.cons_append, lines, ih, lines]
    split
    · rfl
    · cases found : lines left with
      | nil => exact absurd found (lines_ne_nil left)
      | cons line others => rfl

/-- **A text is read line by line**: it is one line, or a line, a line end and a text. -/
@[elab_as_elim]
theorem line_induction {motive : Text → Prop} (last : ∀ line, lineFeed ∉ line → motive line)
    (more : ∀ line rest, lineFeed ∉ line → motive rest → motive (line ++ lineFeed :: rest))
    (text : Text) :
    motive text := by
  by_cases feeds : lineFeed ∈ text
  · obtain ⟨line, rest, rfl, noFeed⟩ := List.eq_append_cons_of_mem feeds
    exact more line rest noFeed (line_induction last more rest)
  · exact last text feeds
termination_by text.length
decreasing_by
  simp_all only [List.length_append, List.length_cons]
  omega

/-- Joining with line feeds puts lines one after the other. -/
theorem join_eq_unlines (lines : List Text) : join [lineFeed] lines = unlines lines := by
  fun_induction unlines lines with
  | case1 => rfl
  | case2 line => exact List.append_nil line
  | case3 line others several ih => rw [join_cons several, ih]

/-- **The lines of a text, joined with line feeds, are the text.** -/
theorem join_lines (text : Text) : join [lineFeed] text.lines = text := by
  rw [join_eq_unlines, unlines_lines]

theorem lineFeed_not_mem_of_mem_lines (member : line ∈ text.lines) : lineFeed ∉ line := by
  induction text using line_induction with
  | last one noFeed =>
    rw [lines_of_no_feed noFeed, List.mem_singleton] at member
    exact member ▸ noFeed
  | more one rest noFeed ih =>
    rw [lines_append_lineFeed, lines_of_no_feed noFeed, List.singleton_append,
      List.mem_cons] at member
    rcases member with rfl | later
    · exact noFeed
    · exact ih later

/-! ### Lines before a line -/

/-- Some lines, each with its line feed. -/
def ended (lines : List Text) : Text := lines.flatMap fun line => line ++ [lineFeed]

@[simp] theorem ended_nil : ended [] = [] := rfl

theorem ended_cons (line : Text) (others : List Text) :
    ended (line :: others) = line ++ lineFeed :: ended others := by
  rw [ended, List.flatMap_cons, List.append_assoc, ended]
  rfl

theorem length_ended_cons (line : Text) (others : List Text) :
    (ended (line :: others)).length = line.length + 1 + (ended others).length := by
  rw [ended_cons, List.length_append, List.length_cons]
  omega

theorem count_lineFeed_ended {lines : List Text} (noFeed : ∀ line ∈ lines, lineFeed ∉ line) :
    (ended lines).count lineFeed = lines.length := by
  induction lines with
  | nil => rfl
  | cons line others ih =>
    obtain ⟨here, later⟩ := List.forall_mem_cons.mp noFeed
    rw [ended_cons, List.count_append, List.count_cons_self, ih later, List.count_eq_zero.mpr here,
      Nat.zero_add, List.length_cons]

/-- A line and its line feed come before the next line. -/
theorem length_ended_take_succ {lines : List Text} (found : lines[row]? = some line) :
    (ended (lines.take (row + 1))).length = (ended (lines.take row)).length + line.length + 1 := by
  rw [List.take_add_one, found, ended, List.flatMap_append, List.length_append, ← ended]
  simp [Nat.add_assoc]

/-- The further lines come before a line, the more comes before it. -/
theorem length_ended_take_le {lines : List Text} {fewer more : Nat} (le : fewer ≤ more) :
    (ended (lines.take fewer)).length ≤ (ended (lines.take more)).length := by
  exact ((List.take_prefix_take_left le).flatMap _).length_le

/-- **A text at one of its lines**: the lines before it, each with its line feed, the line, and what
comes behind. -/
theorem exists_behind_line (found : text.lines[row]? = some line) :
    ∃ behind : Text, text = ended (text.lines.take row) ++ (line ++ behind) := by
  induction text using line_induction generalizing row with
  | last one noFeed =>
    rw [lines_of_no_feed noFeed] at found ⊢
    obtain ⟨inside, rfl⟩ := List.getElem?_eq_some_iff.mp found
    obtain rfl : row = 0 := by simpa using inside
    exact ⟨[], (List.append_nil _).symm⟩
  | more one rest noFeed ih =>
    rw [lines_append_lineFeed, lines_of_no_feed noFeed, List.singleton_append] at found ⊢
    cases row with
    | zero =>
      obtain rfl := Option.some.inj found
      exact ⟨lineFeed :: rest, rfl⟩
    | succ row =>
      obtain ⟨behind, parts⟩ := ih found
      refine ⟨behind, ?_⟩
      rw [List.take_succ_cons, ended_cons, List.append_assoc, List.cons_append, ← parts]

/-! ### Offsets in lines -/

/-- **An offset lies in a row** of a text so many code points into its line, or at the end of the
line. -/
structure Lies (text : Text) (offset row column : Nat) (line : Text) : Prop where
  found : text.lines[row]? = some line
  inside : column ≤ line.length
  offset_eq : offset = (ended (text.lines.take row)).length + column

/-- **Each offset of a text lies in a row.** -/
theorem exists_lies (inside : offset ≤ text.length) :
    ∃ row column line, Lies text offset row column line := by
  induction text using line_induction generalizing offset with
  | last line noFeed =>
    exact ⟨0, offset, line, by rw [lines_of_no_feed noFeed]; rfl, inside, by simp⟩
  | more line rest noFeed ih =>
    have lines_eq : (line ++ lineFeed :: rest).lines = line :: rest.lines := by
      rw [lines_append_lineFeed, lines_of_no_feed noFeed, List.singleton_append]
    rcases Nat.lt_or_ge line.length offset with later | here
    · rw [List.length_append, List.length_cons] at inside
      obtain ⟨row, column, found, lies⟩ := @ih (offset - (line.length + 1)) (by omega)
      refine ⟨row + 1, column, found, by rw [lines_eq]; exact lies.found, lies.inside, ?_⟩
      have same := lies.offset_eq
      rw [lines_eq, List.take_succ_cons, length_ended_cons]
      omega
    · exact ⟨0, offset, line, by rw [lines_eq]; rfl, here, by simp⟩

namespace Lies

variable (lies : Lies text offset row column line)

include lies

/-- **What comes before an offset** are the lines before its row, and so much of its line. -/
theorem take_eq : text.take offset = ended (text.lines.take row) ++ line.take column := by
  obtain ⟨behind, parts⟩ := exists_behind_line lies.found
  calc
    text.take offset = (ended (text.lines.take row) ++ (line ++ behind)).take offset := by
      rw [← parts]
    _ = ended (text.lines.take row) ++ (line ++ behind).take column := by
      rw [lies.offset_eq, List.take_length_add_append]
    _ = ended (text.lines.take row) ++ line.take column := by
      rw [List.take_append_of_le_length lies.inside]

theorem offset_le : offset ≤ text.length := by
  have lengths := congrArg List.length lies.take_eq
  have inside := lies.inside
  have same := lies.offset_eq
  simp only [List.length_take, List.length_append] at lengths
  omega

/-- As many line feeds come before an offset as lines come before its row. -/
theorem count_eq : (text.take offset).count lineFeed = row := by
  have short : row < text.lines.length := (List.getElem?_eq_some_iff.mp lies.found).1
  have feeds : (ended (text.lines.take row)).count lineFeed = (text.lines.take row).length :=
    count_lineFeed_ended fun line member =>
      lineFeed_not_mem_of_mem_lines (List.mem_of_mem_take member)
  have none : (line.take column).count lineFeed = 0 := List.count_eq_zero.mpr fun member =>
    lineFeed_not_mem_of_mem_lines (List.mem_of_getElem? lies.found) (List.mem_of_mem_take member)
  rw [lies.take_eq, List.count_append, feeds, none, List.length_take]
  omega

/-- What stands between the start of its line and an offset is so much of the line. -/
theorem slice_eq : text.slice (ended (text.lines.take row)).length offset = line.take column := by
  rw [slice, ← List.drop_take, lies.take_eq, List.drop_left]

/-- **Of two offsets that comes first** which lies in an earlier row, or in the same row in an
earlier column. -/
theorem lt_iff {other otherRow otherColumn : Nat} {otherLine : Text}
    (liesToo : Lies text other otherRow otherColumn otherLine) :
    offset < other ↔ row < otherRow ∨ row = otherRow ∧ column < otherColumn := by
  have ahead : ∀ {first second firstRow secondRow firstColumn secondColumn : Nat}
      {firstLine secondLine : Text},
      Lies text first firstRow firstColumn firstLine →
        Lies text second secondRow secondColumn secondLine →
        firstRow < secondRow → first < second := by
    intro first second firstRow secondRow firstColumn secondColumn firstLine secondLine
      lies liesToo before
    have next := length_ended_take_succ lies.found
    have further : (ended (text.lines.take (firstRow + 1))).length ≤
        (ended (text.lines.take secondRow)).length :=
      length_ended_take_le before
    have inside := lies.inside
    have same := lies.offset_eq
    have sameToo := liesToo.offset_eq
    omega
  have same := lies.offset_eq
  have sameToo := liesToo.offset_eq
  rcases Nat.lt_trichotomy row otherRow with before | rfl | behind
  · exact iff_of_true (ahead lies liesToo before) (.inl before)
  · omega
  · have later := ahead liesToo lies behind
    omega

end Lies

end TestOutline.Text
