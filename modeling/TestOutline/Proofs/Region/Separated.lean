/-
**What a comment kept apart.**

In a source a comment keeps apart what stands before it and behind it, as a blank does. Without its
comments a region keeps two code points apart by the blanks that stood between them, and by nothing
else. The blanks that are dropped with a comment on lines of its own are not all of them: the line
end before the first of its lines stays, or it was dropped with a comment that ends there.

* `Follows`: two visible code points with nothing but comments and blanks between them.
* `Follows.exists_next`: they are neighbours in what is left of the region, and after formatting and
  trimming.
* `Follows.dropped_iff`: all between them is dropped only if it is all in comments.
* `neighbours_characterised`: when they are kept apart.
-/

import TestOutline.Proofs.Region.Contents

namespace TestOutline.Region

variable {text : Text} {start stop place next : Nat} {comments : List (Nat × Nat)}
  {first second : CodePoint}

/-- **One visible code point follows another one in a region**, with nothing but comments and blanks
between them. -/
structure Follows (text : Text) (start stop : Nat) (comments : List (Nat × Nat)) (place : Nat)
    (first : CodePoint) (next : Nat) (second : CodePoint) : Prop where
  start_le : start ≤ place
  before : place < next
  lt_stop : next < stop
  here : text[place]? = some first
  there : text[next]? = some second
  shows : first.isBlank = false
  showsNext : second.isBlank = false
  free : ¬ InComment start stop comments place
  freeNext : ¬ InComment start stop comments next
  between : ∀ offset, place < offset → offset < next →
    InComment start stop comments offset ∨ ∃ point, text[offset]? = some point ∧
      point.isBlank = true

/-- A visible code point outside the comments is not dropped. -/
theorem not_dropped_of_visible {offset : Nat} {point : CodePoint} (early : offset < stop)
    (here : text[offset]? = some point) (shows : point.isBlank = false)
    (free : ¬ InComment start stop comments offset) :
    ¬ Dropped text start stop comments offset := by
  rintro (inComment | cleared)
  · exact free inComment
  · rw [cleared.blank early here] at shows
    cases shows

section Follows

variable (follows : Follows text start stop comments place first next second)

include follows

/-! ### Neighbours in what is left -/

/-- **What is left between the two** is a gap of blanks. -/
theorem Follows.next_leaving :
    Text.Next (text.leaving start stop (Dropped text start stop comments))
      (Text.visible (text.leaving start place (InComment start stop comments))) first
      (text.leaving (place + 1) next (Dropped text start stop comments)) second
      (Text.visible (text.leaving (next + 1) stop (InComment start stop comments))) := by
  have before := follows.before
  have early := follows.lt_stop
  refine ⟨⟨text.leaving start place (Dropped text start stop comments),
    text.leaving (next + 1) stop (Dropped text start stop comments), ?_,
    visible_leaving_dropped (by omega), visible_leaving_dropped (Nat.le_refl stop)⟩, ?_⟩
  · rw [Text.leaving_at follows.start_le (by omega)
        (not_dropped_of_visible (by omega) follows.here follows.shows follows.free) follows.here,
      Text.leaving_at before early
        (not_dropped_of_visible early follows.there follows.showsNext follows.freeNext)
        follows.there]
  · refine List.all_eq_true.mpr fun point member => ?_
    obtain ⟨offset, ⟨behind, ahead⟩, kept, found⟩ := Text.mem_leaving_iff.mp member
    rcases follows.between offset behind ahead with inComment | ⟨other, here, blank⟩
    · exact absurd (.inl inComment) kept
    · rw [found] at here
      rwa [Option.some.inj here]

/-- **Formatting and trimming** leave them neighbours, kept apart as they were. -/
theorem Follows.exists_next (ranges : CommentRanges text comments) {options : Options}
    (without : options.includeComments = false) (trimmed : Bool) :
    ∃ gap, Text.Next (Region.text options text comments start stop trimmed)
      (Text.visible (text.leaving start place (InComment start stop comments))) first gap second
      (Text.visible (text.leaving (next + 1) stop (InComment start stop comments))) ∧
      (gap = [] ↔ text.leaving (place + 1) next (Dropped text start stop comments) = []) := by
  have formatted : ∃ gap, Text.Next (untrimmed options text comments start stop)
      (Text.visible (text.leaving start place (InComment start stop comments))) first gap second
      (Text.visible (text.leaving (next + 1) stop (InComment start stop comments))) ∧
      (gap = [] ↔ text.leaving (place + 1) next (Dropped text start stop comments) = []) := by
    simp only [untrimmed, without, Bool.false_eq_true, if_false, withoutComments_eq ranges]
    by_cases preserved : options.preserveFormatting = true
    · rw [if_pos preserved]
      exact ⟨_, follows.next_leaving, Iff.rfl⟩
    · rw [if_neg preserved]
      exact exists_next_reformat follows.shows follows.showsNext follows.next_leaving
  obtain ⟨gap, neighbours, same⟩ := formatted
  refine ⟨gap, ?_, same⟩
  cases trimmed with
  | false => exact neighbours
  | true => exact neighbours.strip follows.shows follows.showsNext

/-- They are together if all between them is dropped. -/
theorem Follows.leaving_eq_nil_iff :
    text.leaving (place + 1) next (Dropped text start stop comments) = [] ↔
      ∀ offset, place < offset → offset < next → Dropped text start stop comments offset := by
  have inside := (List.getElem?_eq_some_iff.mp follows.there).1
  rw [Text.leaving_eq_nil_iff]
  refine forall_congr' fun offset =>
    imp_congr_right fun _ => imp_congr_right fun early => or_iff_left ?_
  omega

/-! ### What is dropped between them -/

/-- **All between them is dropped only if it is all in comments**, where no comment ends with a line
end. -/
theorem Follows.dropped_iff (ranges : CommentRanges text comments)
    (noFeed : ∀ comment ∈ comments, text[comment.2 - 1]? ≠ some Text.lineFeed) :
    (∀ offset, place < offset → offset < next → Dropped text start stop comments offset) ↔
      ∀ offset, place < offset → offset < next → InComment start stop comments offset := by
  refine ⟨fun dropped offset => ?_,
    fun inComment offset behind ahead => .inl (inComment offset behind ahead)⟩
  -- By induction on the offset: what comes before it is in comments, so that no line end is left to
  -- start a line there.
  induction offset using Nat.strongRecOn with
  | ind offset ih =>
    intro behind ahead
    refine (dropped offset behind ahead).resolve_right ?_
    rintro ⟨comment, member, within, lineStart, le, alone, cleared⟩
    have nonempty := ranges.nonempty comment member
    have ordered : place < comment.1 := by
      rcases cleared with indents | same
      · omega
      · by_contra late
        exact follows.free ⟨comment, member, within, by omega, by omega⟩
    have lineBehind : place < lineStart := by
      by_contra late
      have blank := List.all_eq_true.mp alone.indented first
        (Text.mem_slice_iff.mpr ⟨place, by omega, ordered, follows.here⟩)
      rw [follows.shows] at blank
      cases blank
    have feed : text[lineStart - 1]? = some Text.lineFeed := by
      rcases alone.line.starts with zero | feed
      · omega
      · exact feed
    have notFirst : place ≠ lineStart - 1 := by
      rintro same
      rw [← same, follows.here] at feed
      exact Text.lineFeed_ne_of_visible follows.shows (Option.some.inj feed)
    obtain ⟨other, otherMember, otherWithin, starts, ends⟩ :=
      ih (lineStart - 1) (by omega) (by omega) (by omega)
    rcases alone.free other otherMember otherWithin with reached | later
    · have last : other.2 = lineStart := by omega
      rw [← last] at feed
      exact noFeed other otherMember feed
    · omega

end Follows

/-- **Two visible code points with nothing but comments and blanks between them** are neighbours in
a region without its comments. They are together if all between them is dropped, which is all in
comments unless a comment ends with a line end; else blanks keep them apart. -/
theorem neighbours_characterised (ranges : CommentRanges text comments) {options : Options}
    (without : options.includeComments = false) (trimmed : Bool)
    (follows : Follows text start stop comments place first next second) :
    ∃ gap, Text.Next (Region.text options text comments start stop trimmed)
      (Text.visible (text.leaving start place (InComment start stop comments))) first gap second
      (Text.visible (text.leaving (next + 1) stop (InComment start stop comments))) ∧
      (gap = [] ↔ ∀ offset, place < offset → offset < next →
        Dropped text start stop comments offset) ∧
      ((∀ comment ∈ comments, text[comment.2 - 1]? ≠ some Text.lineFeed) →
        (gap = [] ↔ ∀ offset, place < offset → offset < next →
          InComment start stop comments offset)) := by
  obtain ⟨gap, neighbours, same⟩ := follows.exists_next ranges without trimmed
  have together := same.trans follows.leaving_eq_nil_iff
  exact ⟨gap, neighbours, together,
    fun noFeed => together.trans (follows.dropped_iff ranges noFeed)⟩

/-- A statement with a comment and a blank between its words. -/
def spacedReturn : Text := "return/* c */ x"

/-- The blank keeps the words apart. -/
theorem neighbours_characterised_spaced : ∃ gap, Text.Next
    (Region.text { Options.usual with includeComments := false } spacedReturn [(6, 13)] 0 15 true)
    "retur" (.scalar 'n') gap (.scalar 'x') [] ∧ gap ≠ [] := by
  have ranges : CommentRanges spacedReturn [(6, 13)] :=
    ⟨by decide, by decide, List.forall_mem_singleton.mpr ⟨.scalar '/', by decide, by decide⟩⟩
  have follows : Follows spacedReturn 0 15 [(6, 13)] 5 (.scalar 'n') 14 (.scalar 'x') := by
    refine ⟨by decide, by decide, by decide, by decide, by decide, by decide, by decide, by decide,
      by decide, fun offset behind ahead => ?_⟩
    by_cases inside : offset < 13
    · exact .inl ⟨(6, 13), by decide, by decide, behind, inside⟩
    · have last : offset = 13 := by omega
      exact .inr ⟨.scalar ' ', by rw [last]; decide, by decide⟩
  have without : Options.includeComments { Options.usual with includeComments := false } = false :=
    rfl
  obtain ⟨gap, neighbours, together, _⟩ := neighbours_characterised ranges without true follows
  refine ⟨gap, neighbours, fun nothing => ?_⟩
  exact absurd (together.mp nothing 13 (by decide) (by decide)) (by decide)

/-- A statement with a comment between its words, and no blank. -/
def closeReturn : Text := "return/* c */x"

/-- **A comment without blanks around it keeps nothing apart**: the words that it stood between
become one. -/
theorem not_kept_apart : CommentRanges closeReturn [(6, 13)] ∧
    Follows closeReturn 0 14 [(6, 13)] 5 (.scalar 'n') 13 (.scalar 'x') ∧
    Region.text { Options.usual with includeComments := false } closeReturn [(6, 13)] 0 14 true =
      "returnx" ∧
    ¬ ∃ before gap after, gap ≠ [] ∧ Text.Next
      (Region.text { Options.usual with includeComments := false } closeReturn [(6, 13)] 0 14 true)
      before (.scalar 'n') gap (.scalar 'x') after := by
  have result : Region.text { Options.usual with includeComments := false } closeReturn [(6, 13)] 0
      14 true =
      "returnx" := by decide
  refine ⟨⟨by decide, by decide, List.forall_mem_singleton.mpr ⟨.scalar '/', by decide, by decide⟩⟩,
    ⟨by decide, by decide, by decide, by decide, by decide, by decide, by decide, by decide,
      by decide,
      fun offset behind ahead => .inl ⟨(6, 13), by decide, by decide, behind, ahead⟩⟩, result, ?_⟩
  rintro ⟨before, gap, after, apart, next⟩
  obtain ⟨front, back, parts, _⟩ := next.cut
  rw [result] at parts
  obtain ⟨point, member⟩ := List.exists_mem_of_ne_nil gap apart
  have inside : point ∈ ("returnx" : Text) := by
    rw [parts]
    simp [member]
  have shows : ∀ point ∈ ("returnx" : Text), point.isBlank = false := by decide
  have blank := List.all_eq_true.mp next.blank point member
  rw [shows point inside] at blank
  cases blank

end TestOutline.Region
