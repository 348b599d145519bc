/-
**The line of an offset, by counting.**

A source finds the line of an offset by bisection of the starts of its lines. Only a line feed ends
a line, so that the number of the line is one more than the line feeds before the offset.

* `countP_lineStartsFrom`: the lines that start up to an offset are the line feeds before it.
* `Source.lineNumber_eq`, `Source.lineNumber_eq_count`: the number of the line, in a source and in
  its text.
-/

import TestOutline.Source.Basic

namespace TestOutline

theorem Text.ofChars_append (left right : List Char) :
    ofChars (left ++ right) = ofChars left ++ ofChars right :=
  List.map_append

theorem Text.take_ofChars (chars : List Char) (count : Nat) :
    (ofChars chars).take count = ofChars (chars.take count) :=
  List.map_take.symm

theorem Text.count_lineFeed_ofChars (chars : List Char) :
    (ofChars chars).count lineFeed = chars.count '\n' := by
  induction chars with
  | nil => rfl
  | cons char rest ih =>
    rw [ofChars_cons, List.count_cons, List.count_cons, ih]
    congr 1
    simp [lineFeed]

/-! ### The starts of lines -/

/-- A line that starts behind some characters starts beyond the first of them. -/
theorem lt_of_mem_lineStartsFrom {index start : Nat} {chars : List Char}
    (member : start ∈ lineStartsFrom index chars) : index < start := by
  induction chars generalizing index with
  | nil => cases member
  | cons char rest ih =>
    unfold lineStartsFrom at member
    split at member
    · rcases List.mem_cons.mp member with rfl | later
      · omega
      · have := ih later
        omega
    · have := ih member
      omega

theorem pairwise_lineStartsFrom (index : Nat) (chars : List Char) :
    (lineStartsFrom index chars).Pairwise (· ≤ ·) := by
  induction chars generalizing index with
  | nil => exact List.Pairwise.nil
  | cons char rest ih =>
    unfold lineStartsFrom
    split
    · exact List.pairwise_cons.mpr
        ⟨fun later member => Nat.le_of_lt (lt_of_mem_lineStartsFrom member), ih _⟩
    · exact ih _

/-- **The lines that start up to an offset are the line feeds before it.** -/
theorem countP_lineStartsFrom (index offset : Nat) (chars : List Char) :
    (lineStartsFrom index chars).countP (fun start => decide (start ≤ offset)) =
      (chars.take (offset - index)).count '\n' := by
  induction chars generalizing index with
  | nil => simp [lineStartsFrom]
  | cons char rest ih =>
    by_cases before : index < offset
    · have step : offset - index = (offset - (index + 1)) + 1 := by omega
      rw [step, List.take_succ_cons, List.count_cons]
      unfold lineStartsFrom
      by_cases feed : char = '\n'
      · rw [if_pos feed, List.countP_cons_of_pos (by simp; omega), ih, if_pos (by simp [feed])]
      · rw [if_neg feed, ih, if_neg (by simpa using feed)]
        exact (Nat.add_zero _).symm
    · -- Nothing of the characters lies before the offset, and no line starts up to it.
      have nothing : (lineStartsFrom index (char :: rest)).countP
          (fun start => decide (start ≤ offset)) = 0 := by
        refine List.countP_eq_zero.mpr fun start member early => ?_
        have := lt_of_mem_lineStartsFrom member
        have := of_decide_eq_true early
        omega
      rw [nothing, Nat.sub_eq_zero_of_le (by omega), List.take_zero, List.count_nil]

/-! ### The number of a line -/

namespace Source

/-- **The number of a line is one more than the line feeds before an offset on it.** -/
theorem lineNumber_eq (source : Source) (offset : Nat) :
    source.lineNumber offset = 1 + (source.chars.take offset).count '\n' := by
  have sorted : source.lineStarts.toList.Pairwise (· ≤ ·) := by
    rw [source.lineStarts_eq]
    exact List.pairwise_cons.mpr ⟨fun _ _ => Nat.zero_le _, pairwise_lineStartsFrom _ _⟩
  have counted := countP_lineStartsFrom 0 offset source.chars
  rw [lineNumber, Bisect.upperBound_eq_countP sorted, source.lineStarts_eq]
  simp only [Int.ofNat_le]
  rw [List.countP_cons_of_pos (by simp), counted, Nat.sub_zero, Nat.add_comm]

/-- The number of a line, counted in the text. -/
theorem lineNumber_eq_count (source : Source) (offset : Nat) :
    source.lineNumber offset = 1 + (source.text.take offset).count Text.lineFeed := by
  rw [lineNumber_eq, text, Text.take_ofChars, Text.count_lineFeed_ofChars]

end Source

end TestOutline
