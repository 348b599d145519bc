/-
**Blanks in the place of a marker.**

A part of a text, an opening marker and what stands behind it are set against the same with blanks
in the place of the marker. Before the marker no pair opens.

* `Text.blanked`: blanks in the place of a text.
* `ClosesOver`: blanks would make a closing marker of what stands on both sides of them;
  `closesOver_of_closing`.
* `exists_isFirst_overwritten`: with a closing marker behind, the first pair closes there with and
  without the opening one.
* `exists_isFirst_blanked_iff`: without one, a pair can only come from blanks that make a closing
  marker.
-/

import TestOutline.Proofs.Metadata.Places
import TestOutline.Proofs.Source.Lines

namespace TestOutline

/-! ### Blanks -/

/-- Blanks in the place of a text, on the same lines. -/
def Text.blanked (text : Text) : Text :=
  text.map fun point => if point = lineFeed then point else .scalar ' '

theorem Text.length_blanked (text : Text) : text.blanked.length = text.length := List.length_map _

theorem Text.isBlank_blanked (text : Text) : text.blanked.isBlank = true := by
  have lineFeed : lineFeed.isBlank = true := by decide
  have space : (CodePoint.scalar ' ').isBlank = true := by decide
  refine List.all_eq_true.mpr fun point member => ?_
  obtain ⟨old, _, rfl⟩ := List.mem_map.mp member
  split
  · next same => rw [same, lineFeed]
  · exact space

theorem Text.isBlank_append_iff {left right : Text} :
    isBlank (left ++ right) = true ↔ left.isBlank = true ∧ right.isBlank = true := by
  rw [isBlank, List.all_append, Bool.and_eq_true, isBlank, isBlank]

/-- Lines end where they did. -/
theorem Text.count_take_blanked (text : Text) (count : Nat) :
    (text.blanked.take count).count lineFeed = (text.take count).count lineFeed := by
  rw [blanked, ← List.map_take, List.count_eq_countP, List.count_eq_countP, List.countP_map]
  refine List.countP_congr fun point _ => ?_
  rw [Function.comp_apply]
  split
  · exact Iff.rfl
  · next other =>
    have space : CodePoint.scalar ' ' ≠ lineFeed := by decide
    simp [other, space]

/-- What can be encoded can be with blanks in it. -/
theorem Source.exists_ofText?_blanked {before mark behind : Text} {source : Source}
    (read : ofText? (before ++ (mark ++ behind)) = .ok source) :
    ∃ blank, ofText? (before ++ (mark.blanked ++ behind)) = .ok blank := by
  have parts := text_of_ofText? read
  obtain ⟨front, others, _, rfl, rest⟩ := List.map_eq_append_iff.mp parts
  obtain ⟨middle, back, _, rfl, rfl⟩ := List.map_eq_append_iff.mp rest
  let blanks := middle.map fun char => if char = '\n' then char else ' '
  have same : Text.blanked (middle.map .scalar) = Text.ofChars blanks := by
    rw [Text.blanked, Text.ofChars, List.map_map, List.map_map]
    refine List.map_congr_left fun char _ => ?_
    simp only [Function.comp_apply, Text.lineFeed, CodePoint.scalar.injEq]
    split <;> rfl
  refine ⟨ofChars (front ++ (blanks ++ back)), ?_⟩
  rw [same, ← ofText?_ofChars, Text.ofChars_append, Text.ofChars_append]
  rfl

namespace Marker

variable {scope : Scope} {mark behind part back middle blanks : Text}
  {start stop place length size : Nat}

theorem IsOpening.blanked_ne_nil (opens : IsOpening scope mark) : mark.blanked ≠ [] := by
  obtain ⟨rest, rfl, _⟩ := opens.exists_eq_cons
  exact List.cons_ne_nil _ _

/-! ### Markers and blanks -/

theorem drop_behind (part middle behind : Text) (place : Nat) :
    (part ++ (middle ++ behind)).drop (part.length + middle.length + place) =
      behind.drop place := by
  rw [← List.append_assoc, ← List.length_append, List.drop_length_add_append]

theorem mem_of_append_eq_cons {point : CodePoint} {rest : Text} (blanks_ne : blanks ≠ [])
    (parts : blanks ++ back = point :: rest) : point ∈ blanks := by
  obtain ⟨first, others, rfl⟩ := List.exists_cons_of_ne_nil blanks_ne
  obtain ⟨rfl, _⟩ := List.cons.inj parts
  exact List.mem_cons_self

/-- No closing marker starts at a blank. -/
theorem closingLength?_of_blank (blank : blanks.isBlank = true) (blanks_ne : blanks ≠ []) :
    closingLength? scope (blanks ++ back) = none := by
  refine Option.eq_none_iff_forall_ne_some.mpr fun size closes => ?_
  obtain ⟨mark, _, isClosing, parts, _⟩ := closingLength?_eq_some_iff.mp closes
  obtain ⟨rest, rfl, _⟩ := isClosing.exists_mark
  exact mark_not_mem_of_isBlank blank (mem_of_append_eq_cons blanks_ne parts)

/-- No opening marker starts at a blank. -/
theorem openingLength?_of_blank (blank : blanks.isBlank = true) (blanks_ne : blanks ≠ []) :
    openingLength? scope (blanks ++ back) = none := by
  refine Option.eq_none_iff_forall_ne_some.mpr fun size opens => ?_
  obtain ⟨mark, _, isOpening, parts, _⟩ := openingLength?_eq_some_iff.mp opens
  obtain ⟨rest, rfl, _⟩ := isOpening.exists_eq_cons
  exact slash_not_mem_of_isBlank blank (mem_of_append_eq_cons blanks_ne parts)

/-- A closing marker that starts no earlier than some blanks starts behind them. -/
theorem closing_behind_blanks (blank : blanks.isBlank = true)
    (closes : closingLength? scope ((part ++ (blanks ++ behind)).drop place) = some size)
    (late : part.length ≤ place) :
    ∃ later, place = part.length + blanks.length + later ∧
      closingLength? scope (behind.drop later) = some size := by
  rcases Nat.lt_or_ge place (part.length + blanks.length) with inside | further
  · obtain ⟨gap, rfl⟩ := Nat.exists_eq_add_of_le late
    rw [List.drop_length_add_append, List.drop_append_of_le_length (by omega)] at closes
    have blankToo : Text.isBlank (blanks.drop gap) = true :=
      List.all_eq_true.mpr fun point member =>
        List.all_eq_true.mp blank point (List.mem_of_mem_drop member)
    rw [closingLength?_of_blank blankToo
      (List.ne_nil_of_length_pos (by rw [List.length_drop]; omega))] at closes
    cases closes
  · obtain ⟨later, rfl⟩ := Nat.exists_eq_add_of_le further
    rw [drop_behind] at closes
    exact ⟨later, rfl, closes⟩

section Mark

variable (opens : IsOpening scope mark) (ends : behind.head?.any continuesLabel = false)

include opens ends

theorem openingLength?_at_mark (part : Text) :
    openingLength? scope ((part ++ (mark ++ behind)).drop part.length) = some mark.length := by
  rw [List.drop_left]
  exact openingLength?_eq_some_iff.mpr ⟨mark, behind, opens, rfl, ends, rfl⟩

/-- A closing marker that starts no earlier than an opening one starts behind it. -/
theorem closing_behind_mark
    (closes : closingLength? scope ((part ++ (mark ++ behind)).drop place) = some size)
    (late : part.length ≤ place) :
    ∃ later, place = part.length + mark.length + later ∧
      closingLength? scope (behind.drop later) = some size := by
  obtain ⟨later, rfl⟩ := Nat.exists_eq_add_of_le
    (opening_le_closing (openingLength?_at_mark opens ends part) closes late)
  rw [drop_behind] at closes
  exact ⟨later, rfl, closes⟩

end Mark

/-- A pair that closes before the blanks opens before the marker as well. -/
theorem openingLength?_of_blanks
    (opens : openingLength? scope ((part ++ (blanks ++ behind)).drop start) = some length)
    (closes : closingLength? scope ((part ++ (blanks ++ behind)).drop place) = some size)
    (ordered : start ≤ place) (early : place < part.length) (more : Text) :
    openingLength? scope ((part ++ more).drop start) = some length :=
  openingLength?_drop_of_append more opens
    (Nat.lt_of_le_of_lt (opening_le_closing opens closes ordered) early)

/-! ### A closing marker behind -/

/-- With blanks in the place of the marker no pair closes before them. -/
theorem blanks_le_closing
    (later : ∀ pair, IsFirst scope (part ++ (mark ++ behind)) pair →
      part.length ≤ pair.openingStart)
    {closingSize : Nat} (closed : closingLength? scope (behind.drop place) = some size)
    (opensEarlier : openingLength? scope ((part ++ (blanks ++ behind)).drop start) = some length)
    (closes : closingLength? scope ((part ++ (blanks ++ behind)).drop stop) = some closingSize)
    (ordered : start ≤ stop) : part.length ≤ stop := by
  refine Nat.le_of_not_lt fun early => ?_
  have opensToo := openingLength?_of_blanks opensEarlier closes ordered early (mark ++ behind)
  have closesHere : closingLength? scope
      ((part ++ (mark ++ behind)).drop (part.length + mark.length + place)) =
      some size := by
    rw [drop_behind]
    exact closed
  obtain ⟨pair, first, before, _⟩ := exists_isFirst opensToo closesHere (by omega)
  have := later pair first
  omega

section Closed

variable (opens : IsOpening scope mark) (ends : behind.head?.any continuesLabel = false)
  (later : ∀ pair, IsFirst scope (part ++ (mark ++ behind)) pair → part.length ≤ pair.openingStart)

include opens ends later

/-- **With a closing marker behind it, the marker opens the first pair.** -/
theorem exists_isFirst_at_mark (closes : closingLength? scope (behind.drop place) = some size) :
    ∃ pair gap, IsFirst scope (part ++ (mark ++ behind)) pair ∧ pair.openingStart = part.length ∧
      pair.openingStop = part.length + mark.length ∧
      pair.closingStart = part.length + mark.length + gap ∧
      closingLength? scope (behind.drop gap) = some (pair.closingStop - pair.closingStart) := by
  have opensHere := openingLength?_at_mark opens ends part
  have closesHere : closingLength? scope
      ((part ++ (mark ++ behind)).drop (part.length + mark.length + place)) =
      some size := by
    rw [drop_behind]
    exact closes
  obtain ⟨pair, first, early, _⟩ := exists_isFirst opensHere closesHere (by omega)
  have start : pair.openingStart = part.length := Nat.le_antisymm early (later pair first)
  have stop : pair.openingStop = part.length + mark.length := by
    have size := first.opens
    rw [start, opensHere] at size
    have := Option.some.inj size
    have := first.openingStart_le
    omega
  have ordered := first.openingStop_le
  obtain ⟨gap, closing, closesBehind⟩ := closing_behind_mark opens ends first.closes (by omega)
  exact ⟨pair, gap, first, start, stop, closing, closesBehind⟩

/-- **With a closing marker behind it, the first pair closes in the same place** whether or not the
marker is there, if another marker opens before. -/
theorem exists_isFirst_overwritten (blank : blanks.isBlank = true) (blanks_ne : blanks ≠ [])
    (sameLength : blanks.length = mark.length)
    (unclosed : ∀ place, ClosesAt scope behind place →
      ∃ earlier < place, OpensAt scope behind earlier)
    (closed : ClosesAt scope behind place) :
    ∃ pair other, IsFirst scope (part ++ (mark ++ behind)) pair ∧
      IsFirst scope (part ++ (blanks ++ behind)) other ∧
      pair.openingStart = part.length ∧ part.length + mark.length ≤ pair.closingStart ∧
      other.openingStart ≠ part.length ∧ other.closingStart = pair.closingStart ∧
      other.closingStop = pair.closingStop := by
  obtain ⟨size, closes⟩ := Option.isSome_iff_exists.mp closed
  obtain ⟨pair, gap, first, start, stop, closing, closesBehind⟩ :=
    exists_isFirst_at_mark opens ends later closes
  obtain ⟨earlier, before, opened⟩ := unclosed gap (by rw [ClosesAt, closesBehind]; rfl)
  obtain ⟨length, opensBehind⟩ := Option.isSome_iff_exists.mp opened
  have opensOther : openingLength? scope
      ((part ++ (blanks ++ behind)).drop (part.length + blanks.length + earlier)) =
      some length := by
    rw [drop_behind]
    exact opensBehind
  have closesOther : closingLength? scope
      ((part ++ (blanks ++ behind)).drop (part.length + blanks.length + gap)) =
      some (pair.closingStop - pair.closingStart) := by
    rw [drop_behind]
    exact closesBehind
  obtain ⟨other, firstOther, _, early⟩ := exists_isFirst opensOther closesOther (by omega)
  have ordered := Nat.le_trans firstOther.openingStart_le firstOther.openingStop_le
  have late := blanks_le_closing later closesBehind firstOther.opens firstOther.closes ordered
  obtain ⟨otherGap, otherClosing, closesToo⟩ := closing_behind_blanks blank firstOther.closes late
  -- Neither pair closes before the other: each takes the first closing marker behind.
  have same : otherGap = gap := by
    refine Nat.le_antisymm (by omega) (Nat.le_of_not_lt fun sooner => ?_)
    have never := first.closes_first (part.length + mark.length + otherGap) (by omega) (by omega)
    rw [drop_behind, closesToo] at never
    cases never
  subst same
  rw [closesBehind] at closesToo
  have sizes := Option.some.inj closesToo
  have := first.closingStart_le
  have := firstOther.closingStart_le
  refine ⟨pair, other, first, firstOther, start, by omega, fun atBlanks => ?_, by omega, by omega⟩
  have opensElsewhere := firstOther.opens
  rw [atBlanks, List.drop_left, openingLength?_of_blank blank blanks_ne] at opensElsewhere
  cases opensElsewhere

end Closed

/-! ### No closing marker behind -/

/-- Only blanks stand between the name of the end of metadata, at a place in one text, and the end
of a comment in the text behind it. -/
def ClosesOver (scope : Scope) (before behind : Text) (place : Nat) : Prop :=
  ∃ first last more, before.drop place = endLabel scope ++ first ∧ behind = last ++ ("*/" ++ more) ∧
    Text.isBlank first = true ∧ Text.isBlank last = true

/-- The name of the end of metadata holds no blank, and neither does the end of a comment. -/
theorem isBlank_of_mem_endLabel (scope : Scope) {point : CodePoint}
    (member : point ∈ endLabel scope) :
    point.isBlank = false := by
  have none : (endLabel scope).all (fun point => !point.isBlank) = true := by cases scope <;> decide
  simpa using List.all_eq_true.mp none point member

/-- What does not start with a blank does not start with blanks. -/
theorem eq_nil_of_append_eq_blanks {left right : Text}
    (notBlank : ∀ point ∈ left, point.isBlank = false) (blank : blanks.isBlank = true)
    (blanks_ne : blanks ≠ []) (same : left ++ right = blanks ++ back) : left = [] := by
  cases left with
  | nil => rfl
  | cons point rest =>
    obtain ⟨first, others, rfl⟩ := List.exists_cons_of_ne_nil blanks_ne
    obtain ⟨rfl, _⟩ := List.cons.inj same
    have isBlank := List.all_eq_true.mp blank point List.mem_cons_self
    rw [notBlank point List.mem_cons_self] at isBlank
    cases isBlank

/-- **A closing marker over blanks** has its name before them and the end of its comment behind
them. -/
theorem parts_of_closing_over_blanks (blank : blanks.isBlank = true) (blanks_ne : blanks ≠ [])
    (closes : closingLength? scope (part ++ (blanks ++ behind)) = some size)
    (spans : part.length < size) :
    ∃ first last more, part = endLabel scope ++ first ∧ behind = last ++ ("*/" ++ more) ∧
      Text.isBlank first = true ∧
      Text.isBlank last = true := by
  obtain ⟨_, back, ⟨inner, innerBlank, rfl⟩, same, rfl⟩ := closingLength?_eq_some_iff.mp closes
  rw [List.append_assoc, List.append_assoc] at same
  have endBlank : ∀ point ∈ ("*/" : Text), point.isBlank = false := by decide
  -- The name does not go on over the blanks.
  obtain ⟨first, rfl, seam⟩ : ∃ first, part = endLabel scope ++ first ∧
      first ++ (blanks ++ behind) = inner ++ ("*/" ++ back) := by
    rcases List.append_eq_append_iff.mp same with ⟨name, named, seam⟩ | ⟨first, parts, seam⟩
    · obtain rfl := eq_nil_of_append_eq_blanks (fun point member => isBlank_of_mem_endLabel scope
        (named ▸ List.mem_append_right part member)) blank blanks_ne seam.symm
      exact ⟨[], by rw [named, List.append_nil, List.append_nil], by simpa using seam⟩
    · exact ⟨first, parts, seam.symm⟩
  rcases List.append_eq_append_iff.mp seam with ⟨between, rfl, tail⟩ | ⟨between, rfl, tail⟩
  · obtain ⟨firstBlank, betweenBlank⟩ := Text.isBlank_append_iff.mp innerBlank
    rcases List.append_eq_append_iff.mp tail with ⟨last, rfl, ending⟩ | ⟨last, parts, ending⟩
    · exact ⟨first, last, back, rfl, ending, firstBlank,
        (Text.isBlank_append_iff.mp betweenBlank).2⟩
    · -- The end of the comment does not start with blanks.
      cases last with
      | nil => exact ⟨first, [], back, rfl, ending.symm, firstBlank, rfl⟩
      | cons point last =>
        have lastBlank := (Text.isBlank_append_iff.mp (parts ▸ blank)).2
        cases eq_nil_of_append_eq_blanks endBlank lastBlank (List.cons_ne_nil _ _) ending
  · -- The end of the comment would start before the blanks, but it does not go on over them.
    rcases List.append_eq_append_iff.mp tail with ⟨more, rfl, _⟩ | ⟨more, ended, ending⟩
    · simp only [List.length_append] at spans
      omega
    · obtain rfl := eq_nil_of_append_eq_blanks (fun point member =>
        endBlank point (ended ▸ List.mem_append_right _ member)) blank blanks_ne ending.symm
      rw [List.append_nil] at ended
      subst ended
      simp only [List.length_append] at spans
      omega

theorem closesOver_of_closing (blank : blanks.isBlank = true) (blanks_ne : blanks ≠ [])
    (closes : closingLength? scope ((part ++ (blanks ++ behind)).drop place) = some size)
    (inside : place < part.length) (spans : part.length < place + size) :
    ClosesOver scope part behind place := by
  rw [List.drop_append_of_le_length (Nat.le_of_lt inside)] at closes
  exact parts_of_closing_over_blanks blank blanks_ne closes (by rw [List.length_drop]; omega)

/-- What closes over blanks stands before them. -/
theorem ClosesOver.lt_length (spans : ClosesOver scope part behind place) :
    place < part.length := by
  obtain ⟨first, _, _, named, _⟩ := spans
  obtain ⟨rest, parts, _⟩ := exists_endLabel_eq_cons scope
  have lengths := congrArg List.length named
  rw [List.length_drop, parts, List.cons_append, List.length_cons] at lengths
  omega

theorem ClosesOver.exists_closing (spans : ClosesOver scope part behind place)
    (blank : blanks.isBlank = true) :
    ∃ size, closingLength? scope ((part ++ (blanks ++ behind)).drop place) = some size := by
  have inside := spans.lt_length
  obtain ⟨first, last, more, named, rfl, firstBlank, lastBlank⟩ := spans
  refine ⟨_, closingLength?_eq_some_iff.mpr ⟨endLabel scope ++ (first ++ (blanks ++ last)) ++ "*/",
    more, ⟨_, ?_, rfl⟩, ?_, rfl⟩⟩
  · exact Text.isBlank_append_iff.mpr ⟨firstBlank, Text.isBlank_append_iff.mpr ⟨blank, lastBlank⟩⟩
  · rw [List.drop_append_of_le_length (Nat.le_of_lt inside), named]
    simp only [List.append_assoc]

section Open

variable (opens : IsOpening scope mark) (ends : behind.head?.any continuesLabel = false)
  (later : ∀ pair, IsFirst scope (part ++ (mark ++ behind)) pair → part.length ≤ pair.openingStart)
  (neverCloses : ∀ place, ¬ ClosesAt scope behind place)

include opens ends later neverCloses

/-- **Without a closing marker behind it, there is no pair any more.** -/
theorem not_isFirst_of_open (pair : Pair) : ¬ IsFirst scope (part ++ (mark ++ behind)) pair := by
  intro first
  have late := later pair first
  have ordered := Nat.le_trans first.openingStart_le first.openingStop_le
  obtain ⟨place, _, closes⟩ :=
    closing_behind_mark opens ends first.closes (Nat.le_trans late ordered)
  exact neverCloses place (by rw [ClosesAt, closes]; rfl)

/-- **Without a closing marker behind them, blanks in the place of the marker make a pair** where
they complete an earlier marker, and nowhere else. -/
theorem exists_isFirst_blanked_iff (blank : blanks.isBlank = true) (blanks_ne : blanks ≠ []) :
    (∃ other, IsFirst scope (part ++ (blanks ++ behind)) other) ↔
      ∃ earlier place, earlier < place ∧ OpensAt scope (part ++ (mark ++ behind)) earlier ∧
        ClosesOver scope part behind place := by
  constructor
  · rintro ⟨other, first⟩
    have ordered := Nat.le_trans first.openingStart_le first.openingStop_le
    rcases Nat.lt_or_ge other.closingStart part.length with early | late
    · have opensToo :=
        openingLength?_of_blanks first.opens first.closes ordered early (mark ++ behind)
      have ahead := opening_le_closing first.opens first.closes ordered
      have size := openingLength_pos first.opens
      refine ⟨other.openingStart, other.closingStart, by omega, by rw [OpensAt, opensToo]; rfl,
        closesOver_of_closing blank blanks_ne first.closes early
          (Nat.lt_of_not_le fun inside => ?_)⟩
      have closesToo := closingLength?_drop_of_append (mark ++ behind) first.closes inside
      obtain ⟨pair, firstToo, _⟩ := exists_isFirst opensToo closesToo ordered
      exact not_isFirst_of_open opens ends later neverCloses pair firstToo
    · obtain ⟨place, _, closes⟩ := closing_behind_blanks blank first.closes late
      exact absurd (by rw [ClosesAt, closes]; rfl) (neverCloses place)
  · rintro ⟨earlier, place, ordered, opened, spans⟩
    obtain ⟨length, opensEarlier⟩ := Option.isSome_iff_exists.mp opened
    obtain ⟨size, closes⟩ := spans.exists_closing blank
    have inside := spans.lt_length
    obtain ⟨first, _, _, named, _⟩ := spans
    have ahead : earlier + length ≤ place := by
      have namedHere : (part ++ (mark ++ behind)).drop place = endLabel scope ++
          (first ++ (mark ++ behind)) := by
        rw [List.drop_append_of_le_length (Nat.le_of_lt inside), named, List.append_assoc]
      exact opening_le_endLabel opensEarlier namedHere (Nat.le_of_lt ordered)
    have opensToo := openingLength?_drop_of_append (blanks ++ behind) opensEarlier (by omega)
    obtain ⟨other, firstOther, _⟩ := exists_isFirst opensToo closes (Nat.le_of_lt ordered)
    exact ⟨other, firstOther⟩

end Open

end Marker

end TestOutline
