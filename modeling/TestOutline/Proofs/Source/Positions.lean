/-
**The row and the column of an offset.**

A source keeps where its lines start, and finds the row of an offset by bisection. The rows and the
columns are those of the lines of its text.

* `lineStartsFrom_eq`, `getElem?_lineStarts`: where lines start, by what comes before them.
* `position_of_lies`: an offset has the row and the column at which it lies.
* `positions_characterised`: lines, rows and columns, and the way back from them to offsets.
-/

import Mathlib.Data.Set.Function
import TestOutline.Proofs.Source.Lines
import TestOutline.Proofs.Text.Lines

namespace TestOutline

/-! ### Where lines start -/

/-- Where some lines start, the first of them at an offset. -/
def startsFrom (start : Nat) : List Text → List Nat
  | [] => []
  | line :: rest => start :: startsFrom (start + line.length + 1) rest

/-- **Lines start where the table of a source says.** -/
theorem lineStartsFrom_eq (index : Nat) (chars : List Char) :
    index :: lineStartsFrom index chars = startsFrom index (Text.ofChars chars).lines := by
  induction chars generalizing index with
  | nil => rfl
  | cons char rest ih =>
    by_cases feed : char = '\n'
    · rw [lineStartsFrom, if_pos feed, ih, Text.ofChars_cons, Text.lines, if_pos (feed ▸ rfl),
        startsFrom]
      rfl
    · have noFeed : CodePoint.scalar char ≠ Text.lineFeed :=
        fun same => feed (CodePoint.scalar.inj same)
      rw [lineStartsFrom, if_neg feed, Text.ofChars_cons, Text.lines, if_neg noFeed]
      have others := ih (index + 1)
      cases found : (Text.ofChars rest).lines with
      | nil => exact absurd found (Text.lines_ne_nil _)
      | cons line lines =>
        rw [found, startsFrom] at others
        simp only [startsFrom, List.length_cons]
        rw [(List.cons.inj others).2, Nat.add_right_comm index 1, Nat.add_assoc index]

theorem getElem?_startsFrom (start row : Nat) (lines : List Text) :
    (startsFrom start lines)[row]? = lines[row]?.map fun _ =>
      start + (Text.ended (lines.take row)).length := by
  induction lines generalizing start row with
  | nil => rfl
  | cons line rest ih =>
    cases row with
    | zero => rfl
    | succ row =>
      rw [startsFrom, List.getElem?_cons_succ, List.getElem?_cons_succ, ih, List.take_succ_cons,
        Text.length_ended_cons]
      congr 1
      funext _
      omega

theorem length_startsFrom (start : Nat) (lines : List Text) :
    (startsFrom start lines).length = lines.length := by
  induction lines generalizing start with
  | nil => rfl
  | cons line rest ih => rw [startsFrom, List.length_cons, ih, List.length_cons]

namespace Source

variable {source : Source} {offset row column : Nat} {line : Text}

theorem lineStarts_eq_startsFrom (source : Source) :
    source.lineStarts = (startsFrom 0 source.text.lines).toArray := by
  rw [source.lineStarts_eq, lineStartsFrom_eq, text]

/-- **A line starts behind the lines before it.** -/
theorem getElem?_lineStarts (source : Source) (row : Nat) :
    source.lineStarts[row]? =
      source.text.lines[row]?.map fun _ => (Text.ended (source.text.lines.take row)).length := by
  rw [lineStarts_eq_startsFrom, List.getElem?_toArray, getElem?_startsFrom]
  simp only [Nat.zero_add]

theorem lineCount_eq (source : Source) : source.lineCount = source.text.lines.length := by
  rw [lineCount, lineStarts_eq_startsFrom, List.size_toArray, length_startsFrom]

section Lies

variable (lies : source.text.Lies offset row column line)

include lies

theorem lineStarts_of_lies :
    source.lineStarts[row]? = some (Text.ended (source.text.lines.take row)).length := by
  rw [getElem?_lineStarts, lies.found, Option.map_some]

/-- **An offset has the row and the column at which it lies.** -/
theorem position_of_lies : source.position offset = ⟨row, column⟩ := by
  have number : source.lineNumber offset = row + 1 := by
    rw [lineNumber_eq_count, lies.count_eq, Nat.add_comm]
  have start : source.lineStarts.getD row 0 = (Text.ended (source.text.lines.take row)).length := by
    rw [Array.getD_eq_getD_getElem?, lineStarts_of_lies lies, Option.getD_some]
  have same := lies.offset_eq
  simp only [position, number, Nat.add_one_ne_zero, if_false, Nat.add_sub_cancel, start,
    Position.mk.injEq]
  omega

/-- The way back from a row and a column leads to the offset. -/
theorem lineStart_of_lies : source.lineStart (row + 1) + column = offset := by
  have short : row < source.lineCount := by
    rw [lineCount_eq]
    exact (List.getElem?_eq_some_iff.mp lies.found).1
  have number : (min (max ((row : Int) + 1) 1) source.lineCount).toNat - 1 = row := by omega
  rw [lineStart, number, Array.getD_eq_getD_getElem?, lineStarts_of_lies lies, Option.getD_some,
    lies.offset_eq]

end Lies

end Source

/-- A place comes before another one: in an earlier row, or in the same row in an earlier column. -/
def Position.Before (first second : Position) : Prop :=
  first.row < second.row ∨ first.row = second.row ∧ first.column < second.column

/-- **The places of a text**: a row, and a column up to the end of its line. -/
def Text.places (text : Text) : Set Position :=
  {place | ∃ row column : Nat, ∃ line, text.lines[row]? = some line ∧ column ≤ line.length ∧
    place = ⟨row, column⟩}

namespace Source

variable {source : Source}

/-- The start of a row and a column in it lead to an offset that lies there. -/
theorem lies_of_place {row column : Nat} {line : Text} (found : source.text.lines[row]? = some line)
    (inside : column ≤ line.length) :
    source.text.Lies (source.lineStart (row + 1) + column) row column line := by
  have lies : source.text.Lies _ row column line := ⟨found, inside, rfl⟩
  rwa [lineStart_of_lies lies]

/-- **Places are in the order of the offsets.** -/
theorem position_before {first second : Nat} (ordered : first < second)
    (inside : second ≤ source.text.length) :
    (source.position first).Before (source.position second) := by
  obtain ⟨row, column, line, lies⟩ := Text.exists_lies (Nat.le_trans (Nat.le_of_lt ordered) inside)
  obtain ⟨otherRow, otherColumn, otherLine, liesToo⟩ := Text.exists_lies inside
  rw [position_of_lies lies, position_of_lies liesToo]
  rcases (lies.lt_iff liesToo).mp ordered with earlier | ⟨rfl, earlier⟩
  · exact .inl (Int.ofNat_lt.mpr earlier)
  · exact .inr ⟨rfl, Int.ofNat_lt.mpr earlier⟩

/-- The start of the row of an offset and its column lead back to it. -/
theorem lineStart_add_column {offset : Nat} (inside : offset ≤ source.text.length) :
    source.lineStart ((source.position offset).row + 1) + (source.position offset).column =
      offset := by
  obtain ⟨row, column, line, lies⟩ := Text.exists_lies inside
  rw [position_of_lies lies]
  exact congrArg Nat.cast (lineStart_of_lies lies)

/-- **Each place of a text is that of one offset.** -/
theorem bijOn_position (source : Source) : Set.BijOn (fun offset : Nat => source.position offset)
    {offset | offset ≤ source.text.length} source.text.places := by
  refine ⟨fun offset inside => ?_, fun first inFirst second inSecond same => ?_,
    fun place isPlace => ?_⟩
  · obtain ⟨row, column, line, lies⟩ := Text.exists_lies inside
    exact ⟨row, column, line, lies.found, lies.inside, position_of_lies lies⟩
  · have back := lineStart_add_column inFirst
    rw [show source.position first = source.position second from same,
      lineStart_add_column inSecond] at back
    exact (Int.ofNat_inj.mp back).symm
  · obtain ⟨row, column, line, found, inside, rfl⟩ := isPlace
    have lies := lies_of_place found inside
    exact ⟨_, lies.offset_le, position_of_lies lies⟩

/-- **Lines, rows and columns.** The lines of a text, joined with line feeds, are the text, and a
source counts them. The number of the line of an offset is one more than the line feeds before it.
Its row and its column are those of a line and of how far the offset is into it. Places are in the
order of the offsets, each place of the text is that of one offset, and the start of its line and
its column lead back to the offset. -/
theorem positions_characterised {text : Text} {source : Source} (made : ofText? text = .ok source) :
    (Text.join [Text.lineFeed] text.lines = text ∧ source.lineCount = text.lines.length) ∧
    (∀ offset ≤ text.length, source.lineNumber offset = 1 + (text.take offset).count Text.lineFeed ∧
      ∃ (row column start : Nat) (line : Text), source.position offset = ⟨row, column⟩ ∧
      row < source.lineCount ∧
        text.lines[row]? = some line ∧ column ≤ line.length ∧ source.lineStarts[row]? = some start ∧
        start + column = offset ∧ line.take column = text.slice start offset) ∧
    (∀ first second : Nat, first < second → second ≤ text.length →
      (source.position first).Before (source.position second)) ∧
    Set.BijOn (fun offset : Nat => source.position offset) {offset | offset ≤ text.length}
      text.places ∧
    (∀ offset ≤ text.length,
      source.lineStart ((source.position offset).row + 1) + (source.position offset).column =
        offset) ∧
    ∀ (row column : Nat) (line : Text), text.lines[row]? = some line → column ≤ line.length →
      source.lineStart (row + 1) + column ≤ text.length ∧
        source.position (source.lineStart (row + 1) + column : Nat) = ⟨row, column⟩ := by
  obtain rfl := text_of_ofText? made
  refine ⟨⟨Text.join_lines _, source.lineCount_eq⟩,
    fun offset inside => ⟨source.lineNumber_eq_count offset, ?_⟩,
    fun first second => position_before, source.bijOn_position, fun offset => lineStart_add_column,
    fun row column line found inside => ?_⟩
  · obtain ⟨row, column, line, lies⟩ := Text.exists_lies inside
    have short : row < source.lineCount :=
      source.lineCount_eq ▸ (List.getElem?_eq_some_iff.mp lies.found).1
    exact ⟨row, column, _, line, position_of_lies lies, short, lies.found, lies.inside,
      lineStarts_of_lies lies, lies.offset_eq.symm, lies.slice_eq.symm⟩
  · have lies := lies_of_place found inside
    exact ⟨lies.offset_le, position_of_lies lies⟩

/-- Three lines, of which the second one is empty, and a line feed at the end. -/
def unevenText : List Char := "ab\n\nc\n".toList

/-- A line feed lies at the end of its line, and the end of the text in an empty fourth line. -/
theorem positions_characterised_uneven : ∃ source, ofText? (Text.ofChars unevenText) = .ok source ∧
    source.lineCount = 4 ∧ source.position 2 = ⟨0, 2⟩ ∧ source.position 6 = ⟨3, 0⟩ := by
  obtain ⟨⟨_, counted⟩, _, _, _, _, back⟩ := positions_characterised (ofText?_ofChars unevenText)
  have first : (ofChars unevenText).lineStart ((0 : Nat) + 1) = 0 := by decide
  have fourth : (ofChars unevenText).lineStart ((3 : Nat) + 1) = 6 := by decide
  have atFeed := (back 0 2 "ab" rfl (by decide)).2
  have atEnd := (back 3 0 [] rfl (by decide)).2
  rw [first] at atFeed
  rw [fourth] at atEnd
  exact ⟨_, ofText?_ofChars unevenText, counted, atFeed, atEnd⟩

end Source

end TestOutline
