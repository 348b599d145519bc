/-
**What formatting keeps.**

Formatting takes blanks from the starts and the ends of lines, and from the ends of a text. Each
line is formatted by itself once the indentation that all lines share is known, so that a text is
followed from line end to line end.

* `Text.visible`: the code points of a text that are not blank; `visible_strip`, `visible_reformat`:
  they are kept.
* `Text.Next`: two visible code points with only a gap of blanks between them.
* `Next.strip`, `exists_next_reformat`: they stay apart if they were apart, and together if they
  were together.
-/

import Mathlib.Data.List.Basic
import TestOutline.Outline.Region
import TestOutline.Proofs.Text.Lines

namespace TestOutline

namespace Text

variable {text left right gap : Text} {point first second : CodePoint}

/-! ### Visible code points -/

/-- The code points of a text that are not blank. -/
def visible (text : Text) : Text := text.filter fun point => !point.isBlank

@[simp] theorem visible_append (left right : Text) :
    (left ++ right).visible = left.visible ++ right.visible :=
  List.filter_append left right

theorem visible_cons_of_blank (blank : point.isBlank = true) (text : Text) :
    visible (point :: text) = text.visible := by
  rw [visible, List.filter_cons_of_neg (by simp [blank]), visible]

theorem visible_cons_of_visible (shows : point.isBlank = false) (text : Text) :
    visible (point :: text) = point :: text.visible := by
  rw [visible, List.filter_cons_of_pos (by simp [shows]), visible]

theorem visible_eq_nil_iff : text.visible = [] ↔ text.isBlank = true := by
  rw [visible, List.filter_eq_nil_iff, isBlank, List.all_eq_true]
  simp

theorem isBlank_lineFeed : lineFeed.isBlank = true := by decide

theorem lineFeed_ne_of_visible (shows : point.isBlank = false) : point ≠ lineFeed := by
  rintro rfl
  cases shows

/-- A text with a visible code point is cut there. -/
theorem exists_of_visible_eq (same : text.visible = left ++ point :: right) :
    ∃ front back : Text, text = front ++ point :: back ∧ front.visible = left ∧
      back.visible = right := by
  obtain ⟨front, others, rfl, front_eq, others_eq⟩ := List.filter_eq_append_iff.mp same
  obtain ⟨blanks, back, rfl, blank, _, back_eq⟩ := List.filter_eq_cons_iff.mp others_eq
  refine ⟨front ++ blanks, back, by simp, ?_, back_eq⟩
  have nothing : visible blanks = [] := List.filter_eq_nil_iff.mpr blank
  rw [visible_append, nothing, List.append_nil]
  exact front_eq

theorem visible_stripStart (text : Text) : text.stripStart.visible = text.visible := by
  induction text with
  | nil => rfl
  | cons point rest ih =>
    cases blank : point.isBlank with
    | true => rw [stripStart, List.dropWhile_cons_of_pos blank, ← stripStart, ih,
        visible_cons_of_blank blank]
    | false => rw [stripStart, List.dropWhile_cons_of_neg (by simp [blank])]

theorem visible_stripEnd (text : Text) : text.stripEnd.visible = text.visible := by
  induction text with
  | nil => rfl
  | cons point rest ih =>
    cases blank : point.isBlank with
    | true =>
      rw [visible_cons_of_blank blank, ← ih, stripEnd]
      split
      · next nothing => rw [nothing, if_pos blank]
      · exact visible_cons_of_blank blank _
    | false =>
      rw [visible_cons_of_visible blank, ← ih, stripEnd]
      split
      · next nothing => rw [nothing, blank, if_neg (by decide), visible_cons_of_visible blank]
      · exact visible_cons_of_visible blank _

/-- **Dropping the blanks at its ends** keeps what is visible of a text. -/
theorem visible_strip (text : Text) : text.strip.visible = text.visible := by
  rw [strip, visible_stripEnd, visible_stripStart]

/-- Dropping blanks from the start of a text keeps what is visible of it. -/
theorem visible_drop {count : Nat} (blanks : isBlank (text.take count) = true) :
    visible (text.drop count) = text.visible := by
  have nothing := visible_eq_nil_iff.mpr blanks
  calc visible (text.drop count) = visible (text.take count) ++ visible (text.drop count) := by
        rw [nothing, List.nil_append]
    _ = text.visible := by rw [← visible_append, List.take_append_drop]

/-- The blanks at the start of a text are before its first visible code point. -/
theorem stripStart_append_visible (shows : point.isBlank = false) (left right : Text) :
    stripStart (left ++ point :: right) = stripStart left ++ point :: right := by
  rw [stripStart, List.dropWhile_append, List.dropWhile_cons_of_neg (by simp [shows]), stripStart]
  split
  · next nothing => rw [List.isEmpty_iff.mp nothing, List.nil_append]
  · rfl

/-- The blanks at the end of a text are behind its last visible code point. -/
theorem stripEnd_append_visible (shows : point.isBlank = false) (left right : Text) :
    stripEnd (left ++ point :: right) = left ++ point :: stripEnd right := by
  induction left with
  | nil =>
    rw [List.nil_append, stripEnd]
    split
    · next nothing => rw [nothing, shows, if_neg (by decide)]; rfl
    · rfl
  | cons other left ih =>
    rw [List.cons_append, stripEnd, ih]
    cases left <;> rfl

/-! ### Neighbours -/

/-- **Two visible code points come one after the other in a text**, with a gap of blanks between
them. It is told what is visible before the first and behind the second. -/
structure Next (text before : Text) (first : CodePoint) (gap : Text) (second : CodePoint)
    (after : Text) : Prop where
  cut : ∃ front back : Text, text = front ++ first :: (gap ++ second :: back) ∧
    front.visible = before ∧
    back.visible = after
  blank : gap.isBlank = true

/-- Of two different code points of a text one comes before the other. -/
theorem exists_of_append_cons_eq {front back : Text} (ne : first ≠ second)
    (parts : left ++ first :: right = front ++ second :: back) :
    (∃ middle, front = left ++ first :: middle ∧ right = middle ++ second :: back) ∨
      ∃ middle, left = front ++ second :: middle ∧ back = middle ++ first :: right := by
  rcases List.append_eq_append_iff.mp parts with ⟨middle, rfl, rest⟩ | ⟨middle, rfl, rest⟩
  · rcases List.cons_eq_append_iff.mp rest with ⟨rfl, same⟩ | ⟨middle, rfl, rfl⟩
    · exact absurd (List.cons.inj same).1.symm ne
    · exact .inl ⟨middle, rfl, rfl⟩
  · rcases List.cons_eq_append_iff.mp rest with ⟨rfl, same⟩ | ⟨middle, rfl, rfl⟩
    · exact absurd (List.cons.inj same).1 ne
    · exact .inr ⟨middle, rfl, rfl⟩

section Neighbours

variable {before after : Text} (next : Next text before first gap second after)

include next

theorem Next.append_left (left : Text) :
    Next (left ++ text) (left.visible ++ before) first gap second after := by
  obtain ⟨⟨front, back, rfl, rfl, rfl⟩, blank⟩ := next
  exact ⟨⟨left ++ front, back, by simp, visible_append left front, rfl⟩, blank⟩

theorem Next.append_right (right : Text) :
    Next (text ++ right) before first gap second (after ++ right.visible) := by
  obtain ⟨⟨front, back, rfl, rfl, rfl⟩, blank⟩ := next
  exact ⟨⟨front, back ++ right, by simp, rfl, visible_append back right⟩, blank⟩

variable (showsFirst : first.isBlank = false)

include showsFirst

/-- Blanks that are dropped from the start of a text come before the first of the two. -/
theorem Next.drop {count : Nat} (blanks : isBlank (text.take count) = true) :
    Next (text.drop count) before first gap second after := by
  obtain ⟨⟨front, back, rfl, rfl, rfl⟩, blank⟩ := next
  have few : count ≤ front.length := by
    by_contra many
    have member : first ∈ List.take count (front ++ first :: (gap ++ second :: back)) :=
      List.mem_take_iff_getElem.mpr ⟨front.length, by simp; omega, by simp⟩
    rw [List.all_eq_true.mp blanks first member] at showsFirst
    cases showsFirst
  rw [List.take_append_of_le_length few] at blanks
  exact ⟨⟨front.drop count, back, List.drop_append_of_le_length few, visible_drop blanks, rfl⟩,
    blank⟩

theorem Next.stripStart : Next text.stripStart before first gap second after := by
  obtain ⟨⟨front, back, rfl, rfl, rfl⟩, blank⟩ := next
  exact ⟨⟨front.stripStart, back, stripStart_append_visible showsFirst front _,
    visible_stripStart front, rfl⟩, blank⟩

omit showsFirst

variable (showsSecond : second.isBlank = false)

include showsSecond

theorem Next.stripEnd : Next text.stripEnd before first gap second after := by
  obtain ⟨⟨front, back, rfl, rfl, rfl⟩, blank⟩ := next
  refine ⟨⟨front, back.stripEnd, ?_, rfl, visible_stripEnd back⟩, blank⟩
  have parts : front ++ first :: (gap ++ second :: back) = (front ++ first :: gap) ++
      second :: back := by simp
  rw [parts, stripEnd_append_visible showsSecond]
  simp

include showsFirst

/-- **Dropping the blanks at the ends of a text** changes nothing between two visible code
points. -/
theorem Next.strip : Next text.strip before first gap second after :=
  (next.stripStart showsFirst).stripEnd showsSecond

end Neighbours

/-- **A line end comes before two neighbours, between them or behind them.** -/
theorem Next.part {before after : Text}
    (next : Next (left ++ lineFeed :: right) before first gap second after)
    (showsFirst : first.isBlank = false) (showsSecond : second.isBlank = false) :
    (∃ later, before = left.visible ++ later ∧ Next right later first gap second after) ∨
      gap ≠ [] ∧ left.visible = before ++ [first] ∧ right.visible = second :: after ∨
      ∃ earlier, after = earlier ++ right.visible ∧ Next left before first gap second earlier := by
  obtain ⟨⟨front, back, parts, rfl, rfl⟩, blank⟩ := next
  obtain ⟨middle, rfl, rfl⟩ | ⟨middle, rfl, rest⟩ :=
    exists_of_append_cons_eq (lineFeed_ne_of_visible showsFirst).symm parts
  · refine .inl ⟨visible middle, ?_, ⟨middle, back, rfl, rfl, rfl⟩, blank⟩
    rw [visible_append, visible_cons_of_blank isBlank_lineFeed]
  · obtain ⟨others, rfl, rfl⟩ | ⟨others, rfl, rfl⟩ :=
      exists_of_append_cons_eq (lineFeed_ne_of_visible showsSecond) rest
    · refine .inr (.inr ⟨visible others, ?_, ⟨front, others, rfl, rfl, rfl⟩, blank⟩)
      rw [visible_append, visible_cons_of_blank isBlank_lineFeed]
    · rw [← visible_eq_nil_iff, visible_append, visible_cons_of_blank isBlank_lineFeed,
        List.append_eq_nil_iff] at blank
      refine .inr (.inl ⟨by simp, ?_, ?_⟩)
      · rw [visible_append, visible_cons_of_visible showsFirst, blank.1]
      · rw [visible_append, visible_cons_of_visible showsSecond, blank.2, List.nil_append]

end Text

namespace Region

variable {text line left right : Text} {lines : List Text} {width : Nat}
  {point first second : CodePoint}

/-! ### Indentation -/

theorem isBlank_of_isIndent (indent : isIndent point = true) : point.isBlank = true := by
  rw [isIndent, Bool.or_eq_true, beq_iff_eq, beq_iff_eq] at indent
  rcases indent with rfl | rfl <;> decide

theorem isBlank_of_all_isIndent (indent : line.all isIndent = true) : line.isBlank = true :=
  List.all_eq_true.mpr fun point member =>
    isBlank_of_isIndent (List.all_eq_true.mp indent point member)

theorem commonStart_prefix_left (first other : Text) : commonStart first other <+: first := by
  induction first generalizing other with
  | nil => exact List.nil_prefix
  | cons point rest ih =>
    cases other with
    | nil => exact List.nil_prefix
    | cons second others =>
      rw [commonStart]
      split
      · exact List.cons_prefix_cons.mpr ⟨rfl, ih others⟩
      · exact List.nil_prefix

theorem commonStart_prefix_right (first other : Text) : commonStart first other <+: other := by
  induction first generalizing other with
  | nil => exact List.nil_prefix
  | cons point rest ih =>
    cases other with
    | nil => exact List.nil_prefix
    | cons second others =>
      rw [commonStart]
      split
      · next same => exact List.cons_prefix_cons.mpr ⟨same, ih others⟩
      · exact List.nil_prefix

/-- What some texts share is at the start of each of them. -/
theorem foldl_commonStart_isPrefix (texts : List Text) (first : Text) :
    texts.foldl commonStart first <+: first ∧
    ∀ other ∈ texts, texts.foldl commonStart first <+: other := by
  induction texts generalizing first with
  | nil => exact ⟨List.prefix_rfl, nofun⟩
  | cons next others ih =>
    obtain ⟨starts, each⟩ := ih (commonStart first next)
    refine ⟨starts.trans (commonStart_prefix_left first next), fun other member => ?_⟩
    rcases List.mem_cons.mp member with rfl | member
    · exact starts.trans (commonStart_prefix_right first other)
    · exact each other member

/-- **The shared indentation** is at the start of each line, or the line holds nothing else. -/
theorem take_margin_isIndent (member : line ∈ lines) :
    (line.take (margin lines).length).all isIndent = true := by
  by_cases indent : line.all isIndent = true
  · exact List.all_eq_true.mpr fun point inside =>
      List.all_eq_true.mp indent point (List.mem_of_mem_take inside)
  · have listed : line.takeWhile isIndent ∈ indents lines :=
      List.mem_map.mpr ⟨line, List.mem_filter.mpr ⟨member, by simpa using indent⟩, rfl⟩
    have shared : margin lines <+: line.takeWhile isIndent := by
      unfold margin
      cases found : indents lines with
      | nil =>
        rw [found] at listed
        cases listed
      | cons first rest =>
        rw [found] at listed
        rcases List.mem_cons.mp listed with same | later
        · rw [same]
          exact (foldl_commonStart_isPrefix rest first).1
        · exact (foldl_commonStart_isPrefix rest first).2 _ later
    have starts := List.prefix_iff_eq_take.mp <| shared.trans <| List.takeWhile_prefix isIndent
    rw [← starts]
    exact List.all_eq_true.mpr fun point inside =>
      List.all_eq_true.mp List.all_takeWhile point (shared.subset inside)

/-! ### Lines moved to the left -/

/-- A line moved to the left by some places and without blanks at its end. -/
def shiftLine (width : Nat) (line : Text) : Text :=
  Text.stripEnd (if line.all isIndent then [] else line.drop width)

/-- A text with its lines moved to the left by some places. -/
def shifted (width : Nat) (text : Text) : Text :=
  Text.join [Text.lineFeed] (text.lines.map (shiftLine width))

theorem reformat_eq (text : Text) : reformat text = shifted (margin text.lines).length text := by
  rw [reformat, dedent, List.map_map]
  rfl

theorem shifted_of_no_feed (noFeed : Text.lineFeed ∉ text) :
    shifted width text = shiftLine width text := by
  rw [shifted, Text.lines_of_no_feed noFeed]
  simp [Text.join]

theorem shifted_append_lineFeed (width : Nat) (left right : Text) :
    shifted width (left ++ Text.lineFeed :: right) = shifted width left ++
      Text.lineFeed :: shifted width right := by
  rw [shifted, Text.lines_append_lineFeed, List.map_append, Text.join_append]
  · rfl
  · simpa using Text.lines_ne_nil left
  · simpa using Text.lines_ne_nil right

/-- Each line of a text starts with so much indentation, or holds nothing else. -/
def IsIndented (width : Nat) (text : Text) : Prop :=
  ∀ line ∈ text.lines, (line.take width).all isIndent = true

theorem isIndented_append_lineFeed_iff :
    IsIndented width (left ++ Text.lineFeed :: right) ↔
      IsIndented width left ∧ IsIndented width right := by
  simp only [IsIndented, Text.lines_append_lineFeed, List.forall_mem_append]

theorem isIndented_of_no_feed_iff (noFeed : Text.lineFeed ∉ text) :
    IsIndented width text ↔ (text.take width).all isIndent = true := by
  simp only [IsIndented, Text.lines_of_no_feed noFeed, List.forall_mem_singleton]

theorem visible_shiftLine (indented : (line.take width).all isIndent = true) :
    (shiftLine width line).visible = line.visible := by
  rw [shiftLine, Text.visible_stripEnd]
  split
  · next indent => exact (Text.visible_eq_nil_iff.mpr (isBlank_of_all_isIndent indent)).symm
  · exact Text.visible_drop (isBlank_of_all_isIndent indented)

/-- **Moving lines to the left** keeps what is visible of a text. -/
theorem visible_shifted (text : Text) (indented : IsIndented width text) :
    (shifted width text).visible = text.visible := by
  induction text using Text.line_induction with
  | last line noFeed =>
    rw [shifted_of_no_feed noFeed,
      visible_shiftLine ((isIndented_of_no_feed_iff noFeed).mp indented)]
  | more line rest noFeed ih =>
    obtain ⟨indentedLine, indentedRest⟩ := isIndented_append_lineFeed_iff.mp indented
    rw [shifted_append_lineFeed, Text.visible_append, Text.visible_append,
      Text.visible_cons_of_blank Text.isBlank_lineFeed,
      Text.visible_cons_of_blank Text.isBlank_lineFeed, ih indentedRest, shifted_of_no_feed noFeed,
      visible_shiftLine ((isIndented_of_no_feed_iff noFeed).mp indentedLine)]

theorem isIndented_margin (text : Text) : IsIndented (margin text.lines).length text :=
  fun _ member => take_margin_isIndent member

/-- **Formatting keeps what is visible** of a text. -/
theorem visible_reformat (text : Text) : (reformat text).visible = text.visible := by
  rw [reformat_eq, visible_shifted text (isIndented_margin text)]

/-! ### Neighbours -/

section Neighbours

variable {gap before after : Text} (showsFirst : first.isBlank = false)
  (showsSecond : second.isBlank = false)

include showsFirst showsSecond

theorem next_shiftLine (next : Text.Next line before first gap second after)
    (indented : (line.take width).all isIndent = true) :
    Text.Next (shiftLine width line) before first gap second after := by
  have others : ¬ line.all isIndent = true := by
    intro indent
    obtain ⟨front, back, rfl, _, _⟩ := next.cut
    have blank := isBlank_of_isIndent (List.all_eq_true.mp indent first (by simp))
    rw [showsFirst] at blank
    cases blank
  rw [shiftLine, if_neg others]
  exact (next.drop showsFirst (isBlank_of_all_isIndent indented)).stripEnd showsSecond

/-- **Moving lines to the left** leaves what is together together and what is apart apart. -/
theorem exists_next_shifted (next : Text.Next text before first gap second after)
    (indented : IsIndented width text) :
    ∃ kept, Text.Next (shifted width text) before first kept second after ∧
      (kept = [] ↔ gap = []) := by
  induction text using Text.line_induction generalizing before with
  | last line noFeed =>
    refine ⟨gap, ?_, Iff.rfl⟩
    rw [shifted_of_no_feed noFeed]
    exact next_shiftLine showsFirst showsSecond
      next ((isIndented_of_no_feed_iff noFeed).mp indented)
  | more line rest noFeed ih =>
    obtain ⟨indentedLine, indentedRest⟩ := isIndented_append_lineFeed_iff.mp indented
    have sameLine := visible_shifted line indentedLine
    have sameRest := visible_shifted rest indentedRest
    rw [shifted_append_lineFeed]
    rcases next.part showsFirst showsSecond with
      ⟨later, rfl, nextRest⟩ | ⟨gap_ne, line_eq, rest_eq⟩ | ⟨earlier, rfl, nextLine⟩
    · obtain ⟨kept, found, same⟩ := ih nextRest indentedRest
      refine ⟨kept, ?_, same⟩
      have moved := (found.append_left [Text.lineFeed]).append_left (shifted width line)
      rwa [sameLine] at moved
    · -- The line end stays between the two, whatever is dropped around it.
      obtain ⟨front, blanks, shifted_line, front_eq, blanks_eq⟩ :=
        Text.exists_of_visible_eq (sameLine.trans line_eq)
      obtain ⟨more, back, shifted_rest, more_eq, back_eq⟩ :=
        @Text.exists_of_visible_eq (shifted width rest) [] after second (sameRest.trans rest_eq)
      refine ⟨blanks ++ Text.lineFeed :: more, ⟨⟨front, back, ?_, front_eq, back_eq⟩, ?_⟩,
        by simp [gap_ne]⟩
      · rw [shifted_line, shifted_rest]
        simp
      · rw [← Text.visible_eq_nil_iff, Text.visible_append,
          Text.visible_cons_of_blank Text.isBlank_lineFeed, blanks_eq, more_eq, List.nil_append]
    · refine ⟨gap, ?_, Iff.rfl⟩
      rw [shifted_of_no_feed noFeed]
      have moved := (next_shiftLine showsFirst showsSecond nextLine
        ((isIndented_of_no_feed_iff noFeed).mp indentedLine)).append_right
          (Text.lineFeed :: shifted width rest)
      rwa [Text.visible_cons_of_blank Text.isBlank_lineFeed, sameRest] at moved

/-- **Formatting** leaves what is together together and what is apart apart. -/
theorem exists_next_reformat (next : Text.Next text before first gap second after) :
    ∃ kept, Text.Next (reformat text) before first kept second after ∧ (kept = [] ↔ gap = []) := by
  rw [reformat_eq]
  exact exists_next_shifted showsFirst showsSecond next (isIndented_margin text)

end Neighbours

end Region

end TestOutline
