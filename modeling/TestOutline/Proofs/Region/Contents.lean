/-
**What a region shows.**

With its comments a region is the text between its two offsets, without them the text at the offsets
that are not dropped. Beyond the comments only blanks are dropped, and formatting and trimming drop
nothing else.

* `Cleared.blank`: what is cleared around a comment is blank.
* `visible_leaving_dropped`: what is visible outside the comments is left.
* `text_characterised`: what is visible of a region under the options, and the region as it is if it
  is not formatted.
-/

import TestOutline.Proofs.Region.Reformatted
import TestOutline.Proofs.Region.Uncommented

namespace TestOutline.Region

variable {text : Text} {start stop offset : Nat} {comments : List (Nat × Nat)} {point : CodePoint}

/-! ### What is dropped beyond the comments -/

/-- **Around a comment only blanks are cleared.** -/
theorem Cleared.blank (cleared : Cleared text start stop comments offset) (early : offset < stop)
    (here : text[offset]? = some point) : point.isBlank = true := by
  obtain ⟨comment, _, _, lineStart, _, alone, indents | rfl⟩ := cleared
  · exact List.all_eq_true.mp alone.indented point
      (Text.mem_slice_iff.mpr ⟨offset, indents.1, indents.2, here⟩)
  · rcases alone.ends with same | feed
    · omega
    · rw [here] at feed
      rw [Option.some.inj feed]
      exact Text.isBlank_lineFeed

/-- **What is visible outside the comments is left** of each part of a region. -/
theorem visible_leaving_dropped {first last : Nat} (early : last ≤ stop) :
    (text.leaving first last (Dropped text start stop comments)).visible =
      (text.leaving first last (InComment start stop comments)).visible := by
  unfold Text.visible Text.leaving
  rw [List.filter_filterMap, List.filter_filterMap]
  refine List.filterMap_congr fun offset member => ?_
  obtain ⟨_, before⟩ := Text.mem_range'_sub.mp member
  by_cases inComment : InComment start stop comments offset
  · rw [if_pos (show Dropped text start stop comments offset from .inl inComment), if_pos inComment]
  · rw [if_neg inComment]
    split
    · next dropped =>
      cases here : text[offset]? with
      | none => rfl
      | some point =>
        have cleared := dropped.resolve_left inComment
        simp [Option.filter, cleared.blank (by omega) here]
    · rfl

/-! ### A region under options -/

/-- **Formatting and trimming** keep what is visible of a region. -/
theorem visible_text (options : Options) (text : Text) (comments : List (Nat × Nat))
    (start stop : Nat)
    (trimmed : Bool) : (Region.text options text comments start stop trimmed).visible =
      Text.visible (if options.includeComments then text.slice start stop
        else withoutComments text start stop comments) := by
  have formatted : (untrimmed options text comments start stop).visible =
      Text.visible (if options.includeComments then text.slice start stop
        else withoutComments text start stop comments) := by
    by_cases preserved : options.preserveFormatting = true
    · rw [untrimmed, if_pos preserved]
    · rw [untrimmed, if_neg preserved, visible_reformat]
  unfold Region.text
  split
  · rw [Text.visible_strip, formatted]
  · exact formatted

/-- **A region loses no code and keeps no comment.** What is visible of it is what is visible
between its two offsets, with the comments in it or without. If it is neither formatted nor trimmed,
all that is dropped beyond the comments is the indentation before a comment that stands alone on its
lines and the line end behind it. -/
theorem text_characterised (ranges : CommentRanges text comments) (options : Options)
    (start stop : Nat) :
    (∀ trimmed, (Region.text options text comments start stop trimmed).visible =
      Text.visible (if options.includeComments then text.slice start stop
        else text.leaving start stop (InComment start stop comments))) ∧
    (options.preserveFormatting = true → Region.text options text comments start stop false =
      if options.includeComments then text.slice start stop
      else text.leaving start stop fun offset =>
        InComment start stop comments offset ∨ Cleared text start stop comments offset) := by
  constructor
  · intro trimmed
    rw [visible_text, withoutComments_eq ranges]
    split
    · rfl
    · exact visible_leaving_dropped (Nat.le_refl stop)
  · intro preserved
    show untrimmed options text comments start stop = _
    rw [untrimmed, if_pos preserved, withoutComments_eq ranges]
    rfl

/-- Two calls, with a comment on a line of its own and one behind code. -/
def notedCalls : Text := "a();\n  // one\n  b(); /* two */\n"

/-- The first comment goes with its line, the second by itself. -/
theorem text_characterised_calls : CommentRanges notedCalls [(7, 13), (21, 30)] ∧
    (∀ trimmed, Text.visible (Region.text { Options.usual with includeComments := false } notedCalls
      [(7, 13), (21, 30)] 0 31 trimmed) = "a();b();") ∧
    Region.text { Options.usual with includeComments := false } notedCalls [(7, 13), (21, 30)] 0
      31 false =
      "a();\n  b(); \n" := by
  have ranges : CommentRanges notedCalls [(7, 13), (21, 30)] :=
    ⟨by decide, by decide, List.forall_mem_cons.mpr ⟨⟨.scalar '/', by decide, by decide⟩,
      List.forall_mem_cons.mpr ⟨⟨.scalar '/', by decide, by decide⟩, nofun⟩⟩⟩
  obtain ⟨visible, plain⟩ :=
    text_characterised ranges { Options.usual with includeComments := false } 0 31
  refine ⟨ranges, fun trimmed => ?_, ?_⟩
  · rw [visible trimmed]
    decide
  · rw [plain rfl]
    decide

end TestOutline.Region
