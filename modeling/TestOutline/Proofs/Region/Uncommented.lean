/-
**A region without its comments.**

A region is read from comment to comment. What is cut out reaches back to the start of a line and
forward over a line end where a comment stands alone on its line, and what is read next starts
there. Here it is told for each offset by itself whether it is dropped.

* `Text.leaving`: a text at the offsets that are not dropped.
* `IsLineStart`, `StandsAlone`: the line of an offset, and a comment that has lines of its own.
* `InComment`, `Cleared`, `Dropped`: the offsets that are dropped, with a comment or around it.
* `withoutComments_eq`: what is left of a region, by the offsets that are dropped.
-/

import Mathlib.Data.List.Basic
import TestOutline.Outline.Region

namespace TestOutline

/-! ### Texts at some of their offsets -/

namespace Text

variable {text : Text} {start middle stop : Nat} {point : CodePoint}

/-- The text from `start` to `stop` at the offsets that are not dropped. -/
def leaving (text : Text) (start stop : Nat) (dropped : Nat → Prop)
    [DecidablePred dropped] : Text :=
  (List.range' start (stop - start)).filterMap fun offset =>
    if dropped offset then none else text[offset]?

theorem mem_range'_sub {offset : Nat} :
    offset ∈ List.range' start (stop - start) ↔ start ≤ offset ∧ offset < stop := by
  rw [List.mem_range'_1]
  omega

section Leaving

variable {dropped other : Nat → Prop} [DecidablePred dropped] [DecidablePred other]

theorem leaving_congr
    (same : ∀ offset, start ≤ offset → offset < stop → (dropped offset ↔ other offset)) :
    text.leaving start stop dropped = text.leaving start stop other := by
  refine List.filterMap_congr fun offset member => ?_
  obtain ⟨late, early⟩ := mem_range'_sub.mp member
  simp only [same offset late early]

theorem leaving_append (start_le : start ≤ middle) (le_stop : middle ≤ stop) :
    text.leaving start stop dropped = text.leaving start middle dropped ++
      text.leaving middle stop dropped := by
  have parts : List.range' start (stop - start) =
      List.range' start (middle - start) ++ List.range' middle (stop - middle) := by
    have joined := @List.range'_append_1 start (middle - start) (stop - middle)
    rw [Nat.add_sub_cancel' start_le] at joined
    rw [joined]
    congr 1
    omega
  rw [leaving, parts, List.filterMap_append, leaving, leaving]

theorem mem_leaving_iff : point ∈ text.leaving start stop dropped ↔
    ∃ offset, (start ≤ offset ∧ offset < stop) ∧ ¬ dropped offset ∧ text[offset]? = some point := by
  simp only [leaving, List.mem_filterMap, mem_range'_sub, Option.ite_none_left_eq_some]

/-- Nothing is left where all is dropped, as far as the text goes. -/
theorem leaving_eq_nil_iff : text.leaving start stop dropped = [] ↔
    ∀ offset, start ≤ offset → offset < stop → dropped offset ∨ text.length ≤ offset := by
  simp only [leaving, List.filterMap_eq_nil_iff, mem_range'_sub, and_imp]
  refine forall_congr' fun offset => imp_congr_right fun _ => imp_congr_right fun _ => ?_
  rw [← List.getElem?_eq_none_iff]
  split
  · next isDropped => exact iff_of_true rfl (.inl isDropped)
  · next kept => exact (or_iff_right kept).symm

theorem slice_eq_filterMap (text : Text) (start stop : Nat) :
    text.slice start stop = (List.range' start (stop - start)).filterMap (text[·]?) := by
  unfold slice
  generalize stop - start = count
  induction count generalizing start with
  | zero => simp
  | succ count ih =>
    rw [List.range'_succ, List.filterMap_cons, ← ih (start + 1)]
    rcases Nat.lt_or_ge start text.length with inside | past
    · rw [List.drop_eq_getElem_cons inside, List.take_succ_cons, List.getElem?_eq_getElem inside]
    · rw [List.drop_eq_nil_of_le past, List.drop_eq_nil_of_le (by omega),
        List.getElem?_eq_none past]
      simp

/-- Where nothing is dropped, the text is left as it is. -/
theorem leaving_eq_slice (none : ∀ offset, start ≤ offset → offset < stop → ¬ dropped offset) :
    text.leaving start stop dropped = text.slice start stop := by
  rw [slice_eq_filterMap]
  refine List.filterMap_congr fun offset member => ?_
  obtain ⟨late, early⟩ := mem_range'_sub.mp member
  rw [if_neg (none offset late early)]

/-- Where a part is dropped and nothing before it, the text is left up to there, and what is left of
the rest. -/
theorem leaving_cut {first second : Nat} (late : start ≤ first) (ordered : first ≤ second)
    (early : second ≤ stop) (before : ∀ offset, start ≤ offset → offset < first → ¬ dropped offset)
    (part : ∀ offset, first ≤ offset → offset < second → dropped offset) :
    text.leaving start stop dropped = text.slice start first ++
      text.leaving second stop dropped := by
  rw [leaving_append late (Nat.le_trans ordered early), leaving_append ordered early,
    leaving_eq_slice before, leaving_eq_nil_iff.mpr fun offset behind ahead =>
      .inl (part offset behind ahead), List.nil_append]

/-- What is left at an offset stands between what is left before it and behind it. -/
theorem leaving_at {offset : Nat} (late : start ≤ offset) (early : offset < stop)
    (kept : ¬ dropped offset) (here : text[offset]? = some point) :
    text.leaving start stop dropped =
      text.leaving start offset dropped ++ point :: text.leaving (offset + 1) stop dropped := by
  have alone : text.leaving offset (offset + 1) dropped = [point] := by
    rw [leaving, Nat.add_sub_cancel_left, List.range'_one, List.filterMap_cons, if_neg kept, here]
    rfl
  rw [leaving_append late (Nat.le_of_lt early), leaving_append (Nat.le_succ offset) early, alone,
    List.singleton_append]

end Leaving

theorem mem_slice_iff :
    point ∈ text.slice start stop ↔
      ∃ offset, start ≤ offset ∧ offset < stop ∧ text[offset]? = some point := by
  simp only [slice_eq_filterMap, List.mem_filterMap, mem_range'_sub, and_assoc]

end Text

namespace Region

variable {text : Text} {start stop offset lineStart other : Nat} {comment : Nat × Nat}
  {comments rest : List (Nat × Nat)}

/-! ### Lines -/

/-- **A line starts at an offset** and holds another one, or ends there. -/
structure IsLineStart (text : Text) (lineStart offset : Nat) : Prop where
  le : lineStart ≤ offset
  starts : lineStart = 0 ∨ text[lineStart - 1]? = some Text.lineFeed
  noFeed : Text.lineFeed ∉ text.slice lineStart offset

theorem IsLineStart.eq (line : IsLineStart text lineStart offset)
    (again : IsLineStart text other offset) :
    lineStart = other := by
  have ordered : ∀ {first second : Nat}, IsLineStart text first offset →
      IsLineStart text second offset →
      second ≤ first := by
    intro first second line again
    by_contra later
    rcases again.starts with zero | feed
    · omega
    · have le := again.le
      exact line.noFeed (Text.mem_slice_iff.mpr ⟨second - 1, by omega, by omega, feed⟩)
  exact Nat.le_antisymm (ordered again line) (ordered line again)

/-- What stands before an offset ends with what its line has there. -/
theorem exists_line (inside : offset ≤ text.length) :
    ∃ before line : Text, text.take offset = before ++ line ∧
      Text.lineFeed ∉ line ∧ (before = [] ∨ ∃ front, before = front ++ [Text.lineFeed]) ∧
      lineStartBefore text offset = before.length := by
  let back := (text.take offset).reverse
  have parts : text.take offset =
      (back.dropWhile (· != Text.lineFeed)).reverse ++
        (back.takeWhile (· != Text.lineFeed)).reverse := by
    rw [← List.reverse_append, List.takeWhile_append_dropWhile, List.reverse_reverse]
  refine ⟨_, _, parts, fun member => ?_, ?_, ?_⟩
  · have other := List.all_eq_true.mp List.all_takeWhile _ (List.mem_reverse.mp member)
    simp at other
  · cases found : back.dropWhile (· != Text.lineFeed) with
    | nil => exact .inl rfl
    | cons point others =>
      have first := List.head?_dropWhile_not (· != Text.lineFeed) back
      rw [found] at first
      have feed : point = Text.lineFeed := by simpa using first
      exact .inr ⟨others.reverse, by rw [feed, List.reverse_cons]⟩
  · have lengths := congrArg List.length parts
    rw [List.length_take, List.length_append, List.length_reverse, List.length_reverse] at lengths
    show offset - (back.takeWhile (· != Text.lineFeed)).length = _
    rw [List.length_reverse]
    omega

/-- The start of a line is found by going back to a line end. -/
theorem isLineStart_lineStartBefore (inside : offset ≤ text.length) :
    IsLineStart text (lineStartBefore text offset) offset := by
  obtain ⟨before, line, parts, noFeed, ends, place⟩ := exists_line inside
  have lengths := congrArg List.length parts
  rw [List.length_take, List.length_append] at lengths
  have here : ∀ index < offset, text[index]? = (before ++ line)[index]? := by
    intro index early
    rw [← parts, List.getElem?_take_of_lt early]
  rw [place]
  refine ⟨by omega, ?_, fun member => ?_⟩
  · obtain rfl | ⟨front, rfl⟩ := ends
    · exact .inl rfl
    · rw [List.length_append, List.length_singleton] at lengths ⊢
      refine .inr ?_
      rw [here _ (by omega)]
      simp
  · obtain ⟨index, late, early, feed⟩ := Text.mem_slice_iff.mp member
    rw [here index early, List.getElem?_append_right late] at feed
    exact noFeed (List.mem_of_getElem? feed)

/-! ### Offsets that are dropped -/

/-- A comment lies in a region. -/
def Within (start stop : Nat) (comment : Nat × Nat) : Prop := start ≤ comment.1 ∧ comment.2 ≤ stop

/-- **A comment stands alone on its lines**, as far as a region shows it: its first line starts in
the region, only blanks come before it there, and its last line or the region ends behind it. -/
structure StandsAlone (text : Text) (start stop : Nat) (comments : List (Nat × Nat))
    (comment : Nat × Nat) (lineStart : Nat) : Prop where
  line : IsLineStart text lineStart comment.1
  inside : start ≤ lineStart
  indented : (text.slice lineStart comment.1).isBlank = true
  /-- No other comment reaches into the line. -/
  free : ∀ other ∈ comments, Within start stop other → other.2 ≤ lineStart ∨ comment.1 ≤ other.1
  ends : comment.2 = stop ∨ text[comment.2]? = some Text.lineFeed

/-- An offset is in a comment that lies in a region. -/
def InComment (start stop : Nat) (comments : List (Nat × Nat)) (offset : Nat) : Prop :=
  ∃ comment ∈ comments, Within start stop comment ∧ comment.1 ≤ offset ∧ offset < comment.2

/-- **An offset is cleared with a comment** that stands alone on its lines: it is in the indentation
before the comment, or the line end behind it. -/
def Cleared (text : Text) (start stop : Nat) (comments : List (Nat × Nat)) (offset : Nat) : Prop :=
  ∃ comment ∈ comments, Within start stop comment ∧ ∃ lineStart ≤ comment.1,
    StandsAlone text start stop comments comment lineStart ∧
      (lineStart ≤ offset ∧ offset < comment.1 ∨ offset = comment.2)

/-- An offset of a region is dropped with a comment. -/
def Dropped (text : Text) (start stop : Nat) (comments : List (Nat × Nat)) (offset : Nat) : Prop :=
  InComment start stop comments offset ∨ Cleared text start stop comments offset

instance : DecidablePred (Within start stop) := fun _ => inferInstanceAs (Decidable (_ ∧ _))

instance (text : Text) (lineStart offset : Nat) : Decidable (IsLineStart text lineStart offset) :=
  decidable_of_iff
    (lineStart ≤ offset ∧ (lineStart = 0 ∨ text[lineStart - 1]? = some Text.lineFeed) ∧
      Text.lineFeed ∉ text.slice lineStart offset)
    ⟨fun ⟨le, starts, noFeed⟩ => ⟨le, starts, noFeed⟩,
      fun line => ⟨line.le, line.starts, line.noFeed⟩⟩

instance : Decidable (StandsAlone text start stop comments comment lineStart) :=
  decidable_of_iff (IsLineStart text lineStart comment.1 ∧ start ≤ lineStart ∧
      (text.slice lineStart comment.1).isBlank = true ∧
      (∀ other ∈ comments, Within start stop other → other.2 ≤ lineStart ∨ comment.1 ≤ other.1) ∧
      (comment.2 = stop ∨ text[comment.2]? = some Text.lineFeed))
    ⟨fun ⟨line, inside, indented, free, ends⟩ => ⟨line, inside, indented, free, ends⟩,
      fun alone => ⟨alone.line, alone.inside, alone.indented, alone.free, alone.ends⟩⟩

instance : DecidablePred (InComment start stop comments) := fun offset =>
  inferInstanceAs (Decidable (∃ comment ∈ comments, Within start stop comment ∧
    comment.1 ≤ offset ∧ offset < comment.2))

instance : DecidablePred (Cleared text start stop comments) := fun offset =>
  inferInstanceAs
    (Decidable (∃ comment ∈ comments, Within start stop comment ∧ ∃ lineStart ≤ comment.1,
    StandsAlone text start stop comments comment lineStart ∧
      (lineStart ≤ offset ∧ offset < comment.1 ∨ offset = comment.2)))

instance : DecidablePred (Dropped text start stop comments) :=
  fun _ => inferInstanceAs (Decidable (_ ∨ _))

/-! ### One comment -/

/-- **The ranges of comments**: in order and apart. A comment does not start with a line end. -/
structure CommentRanges (text : Text) (comments : List (Nat × Nat)) : Prop where
  ascending : comments.Pairwise fun comment later => comment.2 ≤ later.1
  nonempty : ∀ comment ∈ comments, comment.1 < comment.2
  starts : ∀ comment ∈ comments, ∃ point, text[comment.1]? = some point ∧ point ≠ Text.lineFeed

theorem CommentRanges.tail (ranges : CommentRanges text (comment :: rest)) :
    CommentRanges text rest where
  ascending := (List.pairwise_cons.mp ranges.ascending).2
  nonempty other member := ranges.nonempty other (List.mem_cons_of_mem comment member)
  starts other member := ranges.starts other (List.mem_cons_of_mem comment member)

/-- A comment that does not lie in the region drops nothing. -/
theorem dropped_of_not_within (outside : ¬ Within start stop comment) :
    Dropped text start stop (comment :: rest) offset ↔ Dropped text start stop rest offset := by
  have alone : ∀ other lineStart, StandsAlone text start stop (comment :: rest) other lineStart ↔
      StandsAlone text start stop rest other lineStart := by
    refine fun other lineStart => ⟨fun alone => ?_, fun alone => ?_⟩
    · exact ⟨alone.line, alone.inside, alone.indented,
        fun third member => alone.free third (List.mem_cons_of_mem comment member), alone.ends⟩
    · refine ⟨alone.line, alone.inside, alone.indented, fun third member within => ?_, alone.ends⟩
      rcases List.mem_cons.mp member with rfl | member
      · exact absurd within outside
      · exact alone.free third member within
  simp only [Dropped, InComment, Cleared, List.exists_mem_cons_iff, outside, alone, false_and,
    false_or]

theorem CommentRanges.line (ranges : CommentRanges text comments) (member : comment ∈ comments) :
    IsLineStart text (lineStartBefore text comment.1) comment.1 := by
  obtain ⟨point, here, _⟩ := ranges.starts comment member
  exact isLineStart_lineStartBefore (Nat.le_of_lt (List.getElem?_eq_some_iff.mp here).1)

/-- **A gap is cut out of a region for a comment**, and the region is read on behind it. No line has
started there since, but for the one behind the line end that is cut out. -/
structure Cuts (text : Text) (start stop : Nat) (comment gap : Nat × Nat) : Prop where
  start_le : start ≤ gap.1
  reaches : gap.1 ≤ comment.1
  le_stop : gap.2 ≤ stop
  ends : gap.2 = comment.2 ∨ gap.2 = comment.2 + 1 ∧ text[comment.2]? = some Text.lineFeed

section Step

variable (ranges : CommentRanges text (comment :: rest)) (within : Within start stop comment)

include ranges

/-- The first comment stands alone where it is found to, and its line starts where it is found
to. -/
theorem standsAlone_iff : StandsAlone text start stop (comment :: rest) comment lineStart ↔
    standsAlone text start stop comment = true ∧ lineStart = lineStartBefore text comment.1 := by
  have line := ranges.line List.mem_cons_self
  have found : standsAlone text start stop comment = true ↔
      (start ≤ lineStartBefore text comment.1 ∧
      (text.slice (lineStartBefore text comment.1) comment.1).isBlank = true) ∧
        (comment.2 = stop ∨ text[comment.2]? = some Text.lineFeed) := by
    simp only [standsAlone, Bool.and_eq_true, Bool.or_eq_true, decide_eq_true_eq, beq_iff_eq]
  rw [found]
  constructor
  · intro alone
    obtain rfl := alone.line.eq line
    exact ⟨⟨⟨alone.inside, alone.indented⟩, alone.ends⟩, rfl⟩
  · rintro ⟨⟨⟨inside, indented⟩, ends⟩, rfl⟩
    refine ⟨line, inside, indented, fun other member _ => ?_, ends⟩
    rcases List.mem_cons.mp member with rfl | member
    · exact .inr (Nat.le_refl _)
    · have nonempty := ranges.nonempty comment List.mem_cons_self
      have later := (List.pairwise_cons.mp ranges.ascending).1 other member
      exact .inr (by omega)

/-- **What is cut out for a comment** is what the comment drops. -/
theorem mem_cut_iff (before : offset < stop) :
    (cut text start stop comment).1 ≤ offset ∧ offset < (cut text start stop comment).2 ↔
      comment.1 ≤ offset ∧ offset < comment.2 ∨
        ∃ lineStart ≤ comment.1, StandsAlone text start stop (comment :: rest) comment lineStart ∧
          (lineStart ≤ offset ∧ offset < comment.1 ∨ offset = comment.2) := by
  have nonempty := ranges.nonempty comment List.mem_cons_self
  have line := ranges.line List.mem_cons_self
  simp only [standsAlone_iff ranges]
  by_cases alone : standsAlone text start stop comment = true
  · rw [cut, if_pos alone]
    dsimp only
    constructor
    · rintro ⟨behind, ahead⟩
      by_cases inComment : comment.1 ≤ offset ∧ offset < comment.2
      · exact .inl inComment
      · exact .inr ⟨_, line.le, ⟨alone, rfl⟩, by omega⟩
    · have le := line.le
      rintro (inComment | ⟨lineStart, _, ⟨_, rfl⟩, indents | ends⟩) <;> omega
  · rw [cut, if_neg alone]
    exact ⟨.inl, Or.rec id fun ⟨_, _, ⟨found, _⟩, _⟩ => absurd found alone⟩

include within

theorem cuts_cut : Cuts text start stop comment (cut text start stop comment) := by
  have nonempty := ranges.nonempty comment List.mem_cons_self
  obtain ⟨late, early⟩ := within
  by_cases alone : standsAlone text start stop comment = true
  · have spec := (standsAlone_iff ranges).mpr ⟨alone, rfl⟩
    rw [cut, if_pos alone]
    refine ⟨spec.inside, spec.line.le, Nat.min_le_right _ _, ?_⟩
    rcases Nat.lt_or_ge comment.2 stop with before | after
    · exact .inr ⟨Nat.min_eq_left before, spec.ends.resolve_left (Nat.ne_of_lt before)⟩
    · exact .inl (by dsimp only; omega)
  · rw [cut, if_neg alone]
    exact ⟨late, Nat.le_refl _, early, .inl rfl⟩

/-- The region is read on where the next comments lie. -/
theorem cut_le {later : Nat × Nat} (member : later ∈ rest) :
    (cut text start stop comment).2 ≤ later.1 := by
  have behind := (List.pairwise_cons.mp ranges.ascending).1 later member
  rcases (cuts_cut ranges within).ends with same | ⟨next, feed⟩
  · omega
  · obtain ⟨point, here, noFeed⟩ := ranges.starts later (List.mem_cons_of_mem comment member)
    rcases Nat.lt_or_eq_of_le behind with beyond | same
    · omega
    · rw [← same, feed] at here
      exact absurd (Option.some.inj here).symm noFeed

/-- A later comment lies in the region if it lies in what is read on. -/
theorem within_rest_iff {later : Nat × Nat} (member : later ∈ rest) :
    Within start stop later ↔ Within (cut text start stop comment).2 stop later := by
  obtain ⟨startsBefore, reaches, _, ends⟩ := cuts_cut ranges within
  have nonempty := ranges.nonempty comment List.mem_cons_self
  have beyond := cut_le ranges within member
  exact ⟨fun inside => ⟨beyond, inside.2⟩, fun inside => ⟨by omega, inside.2⟩⟩

/-- A later comment stands alone in the region where it stands alone in what is read on. -/
theorem standsAlone_rest_iff {later : Nat × Nat} (member : later ∈ rest) :
    StandsAlone text start stop (comment :: rest) later lineStart ↔
      StandsAlone text (cut text start stop comment).2 stop rest later lineStart := by
  obtain ⟨startsBefore, reaches, _, ends⟩ := cuts_cut ranges within
  have nonempty := ranges.nonempty comment List.mem_cons_self
  have behind := (List.pairwise_cons.mp ranges.ascending).1 later member
  constructor
  · intro alone
    refine ⟨alone.line, ?_, alone.indented, fun other otherMember inside => alone.free other
      (List.mem_cons_of_mem comment otherMember)
        ((within_rest_iff ranges within otherMember).mpr inside), alone.ends⟩
    have free := alone.free comment List.mem_cons_self within
    rcases ends with same | ⟨next, feed⟩
    · omega
    · -- The line of a later comment does not start at the line end behind this one, which it would
      -- hold.
      have beyond := cut_le ranges within member
      have notThere : lineStart ≠ comment.2 := by
        rintro rfl
        exact alone.line.noFeed (Text.mem_slice_iff.mpr ⟨_, Nat.le_refl _, by omega, feed⟩)
      omega
  · intro alone
    have inside := alone.inside
    refine ⟨alone.line,
      by omega, alone.indented, fun other otherMember otherWithin => ?_, alone.ends⟩
    rcases List.mem_cons.mp otherMember with rfl | otherMember
    · exact .inl (by omega)
    · exact alone.free other otherMember
        ((within_rest_iff ranges within otherMember).mp otherWithin)

/-- **What a region drops** is what is cut out for its first comment, and what is dropped of the
region that is read on. -/
theorem dropped_cons_iff (inside : offset < stop) :
    Dropped text start stop (comment :: rest) offset ↔
      (cut text start stop comment).1 ≤ offset ∧ offset < (cut text start stop comment).2 ∨
        Dropped text (cut text start stop comment).2 stop rest offset := by
  rw [mem_cut_iff ranges inside]
  have inComment : InComment start stop rest offset ↔
      InComment (cut text start stop comment).2 stop rest offset := by
    refine exists_congr fun later => and_congr_right fun member => ?_
    rw [within_rest_iff ranges within member]
  have cleared : (∃ later ∈ rest, Within start stop later ∧ ∃ lineStart ≤ later.1,
      StandsAlone text start stop (comment :: rest) later lineStart ∧
        (lineStart ≤ offset ∧ offset < later.1 ∨ offset = later.2)) ↔
      Cleared text (cut text start stop comment).2 stop rest offset := by
    refine exists_congr fun later => and_congr_right fun member => ?_
    simp only [within_rest_iff ranges within member, standsAlone_rest_iff ranges within member]
  rw [Dropped, Dropped, ← inComment, ← cleared, InComment, Cleared, List.exists_mem_cons_iff,
    List.exists_mem_cons_iff, and_iff_right within, and_iff_right within, or_or_or_comm]
  rfl

end Step

/-! ### The whole region -/

theorem Dropped.start_le (dropped : Dropped text start stop comments offset)
    (ranges : CommentRanges text comments) :
    start ≤ offset := by
  obtain ⟨comment, _, within, late, _⟩ | ⟨comment, member, within, lineStart, _, alone,
      indents | rfl⟩ := dropped
  · exact Nat.le_trans within.1 late
  · exact Nat.le_trans alone.inside indents.1
  · exact Nat.le_trans within.1 (Nat.le_of_lt (ranges.nonempty comment member))

/-- **What is left of a region without its comments** is the text at the offsets that are not
dropped. -/
theorem withoutComments_eq (ranges : CommentRanges text comments) (start stop : Nat) :
    withoutComments text start stop comments =
      text.leaving start stop (Dropped text start stop comments) := by
  induction comments generalizing start with
  | nil =>
    refine (Text.leaving_eq_slice fun offset _ _ dropped => ?_).symm
    simp [Dropped, InComment, Cleared] at dropped
  | cons comment rest ih =>
    unfold withoutComments
    split
    · next outside =>
      have outside : ¬ Within start stop comment := by
        rintro ⟨late, early⟩
        omega
      rw [ih ranges.tail]
      exact Text.leaving_congr fun offset _ _ => (dropped_of_not_within outside).symm
    · next inside =>
      rw [not_or, Nat.not_lt, Nat.not_lt] at inside
      obtain ⟨late, before, early, ends⟩ := cuts_cut ranges inside
      have nonempty := ranges.nonempty comment List.mem_cons_self
      have dropped {offset : Nat} (before : offset < stop) := dropped_cons_iff ranges inside before
      simp only [ih ranges.tail]
      rw [Text.leaving_cut late (by omega) early]
      · congr 1
        refine Text.leaving_congr fun offset behind beforeStop => ?_
        rw [dropped beforeStop]
        refine ⟨.inr, Or.rec (fun inCut => ?_) id⟩
        omega
      · intro offset _ ahead isDropped
        rcases (dropped (by omega)).mp isDropped with inCut | later
        · omega
        · have := later.start_le ranges.tail
          omega
      · exact fun offset behind ahead => (dropped (by omega)).mpr (.inl ⟨behind, ahead⟩)

end Region

end TestOutline
