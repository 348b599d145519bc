/-
**Metadata that is opened and not closed.**

An opening marker is overwritten by blanks; before its scope closes again, if ever, it opens again,
or the text ends. If no closing marker comes behind it, it is as good as absent, unless the blanks
make a closing marker of what stands on both sides of them. If one does, it belongs to the
overwritten marker, and then to another one.

The text is cut where the last pair before the marker ends. Up to there nothing depends on the
marker, and behind it the first pair of either text decides: with a closing marker behind, both
first pairs close there and the rest is the same; without one, only blanks can give a first pair.

* `Unterminated`: an opening marker in a text, as described; `CompletesEarlier`: blanks in its place
  complete an earlier one.
* `Finished`, `exists_finished`: the cut before the marker.
* `Unterminated.pairs_of_open`, `Unterminated.pairs_of_closed`: the pairs without the marker.
* `scan_overwritten`: what is found without the marker.
-/

import TestOutline.Proofs.Metadata.Append
import TestOutline.Proofs.Metadata.Blanked
import TestOutline.Proofs.Returns

namespace TestOutline

namespace Marker

variable {scope : Scope} {before mark behind back : Text} {place : Nat}

/-- **An opening marker outside the pairs of a text** that its scope opens again before it closes,
if it closes at all. -/
structure Unterminated (scope : Scope) (before mark behind : Text) : Prop where
  opens : IsOpening scope mark
  ends : behind.head?.any continuesLabel = false
  outside : ∀ pair ∈ pairs scope (before ++ (mark ++ behind)),
    pair.openingStart < before.length → pair.closingStop ≤ before.length
  unclosed : ∀ place, ClosesAt scope behind place → ∃ earlier < place, OpensAt scope behind earlier

/-- **Blanks in the place of a marker complete an earlier one** that starts behind all pairs: they
make a closing marker for it. -/
def CompletesEarlier (scope : Scope) (before mark behind : Text) : Prop :=
  ∃ earlier place, earlier < place ∧
    (∀ pair ∈ pairs scope (before ++ (mark ++ behind)), pair.closingStop ≤ earlier) ∧
    OpensAt scope (before ++ (mark ++ behind)) earlier ∧ ClosesOver scope before behind place

/-! ### What is done with -/

/-- **The pairs before a marker are done with**: `front` is the text up to the last of them, and
behind it no pair opens before the marker, which starts the text `back`. -/
structure Finished (scope : Scope) (offset : Nat) (before back : Text) (done : List Pair)
    (front rest : Text) :
    Prop where
  parts : before = front ++ rest
  pairs_eq : ∀ more, pairsFrom scope offset (before ++ more) =
    done ++ pairsFrom scope (offset + front.length) (rest ++ more)
  inside : ∀ pair ∈ done, pair.closingStop ≤ offset + front.length
  reached : front = [] ∨ ∃ pair ∈ done, pair.closingStop = offset + front.length
  later : ∀ pair, IsFirst scope (rest ++ back) pair → rest.length ≤ pair.openingStart

/-- A pair before those that are done with is done with as well. -/
theorem Finished.cons {offset : Nat} {pair : Pair} {done : List Pair} {front rest : Text}
    (found : firstPair? scope (before ++ back) = some pair)
    (stop : pair.closingStop ≤ before.length)
    (finished : Finished scope (offset + pair.closingStop) (before.drop pair.closingStop) back done
      front rest) :
    Finished scope offset before back (pair.shift offset :: done)
      (before.take pair.closingStop ++ front) rest := by
  have lengths : (before.take pair.closingStop ++ front).length =
      pair.closingStop + front.length := by
    rw [List.length_append, List.length_take, Nat.min_eq_left stop]
  refine ⟨?_, fun more => ?_, fun one member => ?_, .inr ?_, finished.later⟩
  · rw [List.append_assoc, ← finished.parts, List.take_append_drop]
  · rw [pairsFrom_of_some offset (firstPair?_of_append found stop),
      List.drop_append_of_le_length stop, finished.pairs_eq, lengths, Nat.add_assoc,
      List.cons_append]
  · rw [lengths]
    rcases List.mem_cons.mp member with rfl | member
    · rw [Pair.closingStop_shift]
      omega
    · have := finished.inside one member
      omega
  · rw [lengths]
    rcases finished.reached with rfl | ⟨one, member, reaches⟩
    · exact ⟨_, List.mem_cons_self, by rw [Pair.closingStop_shift, List.length_nil, Nat.add_zero]⟩
    · exact ⟨one, List.mem_cons_of_mem _ member, by omega⟩

/-- **Before a marker outside all pairs something is done with**, be it nothing. -/
theorem exists_finished (offset : Nat) (before : Text)
    (outside : ∀ pair ∈ pairsFrom scope offset (before ++ back),
    pair.openingStart < offset + before.length → pair.closingStop ≤ offset + before.length) :
    ∃ done front rest, Finished scope offset before back done front rest := by
  have nothing (later : ∀ pair, IsFirst scope (before ++ back) pair →
      before.length ≤ pair.openingStart) :
      ∃ done front rest, Finished scope offset before back done front rest :=
    ⟨[], [], before, rfl, fun _ => rfl, by simp, .inl rfl, later⟩
  cases found : firstPair? scope (before ++ back) with
  | none =>
    refine nothing fun pair first => ?_
    rw [firstPair?_eq_some_iff.mpr first] at found
    cases found
  | some pair =>
    rcases Nat.lt_or_ge pair.openingStart before.length with early | late
    · rw [pairsFrom_of_some offset found] at outside
      have stop : pair.closingStop ≤ before.length :=
        Nat.le_of_add_le_add_left
          (outside (pair.shift offset) List.mem_cons_self (Nat.add_lt_add_left early offset))
      have positive := (closingStop_mem found).1
      obtain ⟨done, front, rest, finished⟩ := exists_finished (offset + pair.closingStop)
        (before.drop pair.closingStop)
        fun later member opens => by
          rw [← List.drop_append_of_le_length stop] at member
          have inside := outside later (List.mem_cons_of_mem _ member)
          rw [List.length_drop] at opens ⊢
          omega
      exact ⟨_, _, _, finished.cons found stop⟩
    · refine nothing fun other first => ?_
      rw [firstPair?_eq_some_iff.mpr first] at found
      cases found
      exact late
termination_by before.length
decreasing_by
  rw [List.length_drop]
  omega

/-! ### Pairs -/

/-- Blanks complete an earlier marker behind what is done with. -/
theorem Finished.completesEarlier_iff {done : List Pair} {front rest : Text}
    (finished : Finished scope 0 before (mark ++ behind) done front rest)
    (noMore : pairs scope (before ++ (mark ++ behind)) = done) :
    CompletesEarlier scope before mark behind ↔ ∃ earlier place, earlier < place ∧
      OpensAt scope (rest ++ (mark ++ behind)) earlier ∧ ClosesOver scope rest behind place := by
  obtain ⟨rfl, _, inside, reached, _⟩ := finished
  have opensAt : ∀ place, OpensAt scope (front ++ rest ++ (mark ++ behind)) (front.length + place) ↔
      OpensAt scope (rest ++ (mark ++ behind)) place := by
    intro place
    rw [OpensAt, OpensAt, List.append_assoc, List.drop_length_add_append]
  have closesOver : ∀ place, ClosesOver scope (front ++ rest) behind (front.length + place) ↔
      ClosesOver scope rest behind place := by
    intro place
    rw [ClosesOver, ClosesOver, List.drop_length_add_append]
  rw [CompletesEarlier, noMore]
  constructor
  · rintro ⟨earlier, place, ordered, behindPairs, opened, spans⟩
    have late : front.length ≤ earlier := by
      rcases reached with rfl | ⟨pair, member, stop⟩
      · exact Nat.zero_le _
      · have := behindPairs pair member
        omega
    obtain ⟨earlier, rfl⟩ := Nat.exists_eq_add_of_le late
    obtain ⟨place, rfl⟩ := Nat.exists_eq_add_of_le (Nat.le_trans late (Nat.le_of_lt ordered))
    exact ⟨earlier, place, by omega, (opensAt _).mp opened, (closesOver _).mp spans⟩
  · rintro ⟨earlier, place, ordered, opened, spans⟩
    refine ⟨front.length + earlier, front.length + place,
      by omega, fun pair member => ?_, (opensAt _).mpr opened, (closesOver _).mpr spans⟩
    have := inside pair member
    omega

namespace Unterminated

variable (unterminated : Unterminated scope before mark behind)

include unterminated

theorem exists_finished :
    ∃ done front rest, Finished scope 0 before (mark ++ behind) done front rest :=
  Marker.exists_finished 0 before (by simpa [pairs] using unterminated.outside)

/-- **Without a closing marker behind it, the pairs are the same without the marker**, and all of
them stand before it, unless blanks complete an earlier one. -/
theorem pairs_of_open (neverCloses : ∀ place, ¬ ClosesAt scope behind place) :
    (pairs scope (before ++ (mark.blanked ++ behind)) = pairs scope (before ++ (mark ++ behind)) ↔
      ¬ CompletesEarlier scope before mark behind) ∧
    ∀ pair ∈ pairs scope (before ++ (mark ++ behind)), pair.closingStop ≤ before.length := by
  obtain ⟨done, front, rest, finished⟩ := unterminated.exists_finished
  have opens := unterminated.opens
  have noMore : pairs scope (before ++ (mark ++ behind)) = done := by
    rw [pairs, finished.pairs_eq, (pairsFrom_eq_nil_iff _).mpr, List.append_nil]
    rintro ⟨pair, first⟩
    exact not_isFirst_of_open opens unterminated.ends finished.later neverCloses pair first
  refine ⟨?_, fun pair member => ?_⟩
  · rw [noMore, finished.completesEarlier_iff noMore,
      ← exists_isFirst_blanked_iff opens unterminated.ends
      finished.later neverCloses mark.isBlank_blanked opens.blanked_ne_nil,
        ← pairsFrom_eq_nil_iff (0 + front.length),
      pairs, finished.pairs_eq, List.append_right_eq_self]
  · have inside := finished.inside pair (noMore ▸ member)
    rw [finished.parts, List.length_append]
    omega

/-- **With a closing marker behind it, one pair changes** without the marker: it opens elsewhere. -/
theorem pairs_of_closed (closed : ClosesAt scope behind place) : ∃ done pair other later,
    pairs scope (before ++ (mark ++ behind)) = done ++ pair :: later ∧
      pairs scope (before ++ (mark.blanked ++ behind)) = done ++ other :: later ∧
      pair.openingStart = before.length ∧ other.openingStart ≠ before.length ∧
      other.closingStart = pair.closingStart ∧ other.closingStop = pair.closingStop ∧
      (∀ one ∈ done, one.closingStop ≤ before.length) ∧
      ∀ one ∈ later, before.length + mark.length ≤ one.openingStart := by
  obtain ⟨done, front, rest, finished⟩ := unterminated.exists_finished
  obtain ⟨pair, other, first, firstOther, start, late, elsewhere, closingStart, closingStop⟩ :=
    exists_isFirst_overwritten unterminated.opens unterminated.ends finished.later
      mark.isBlank_blanked
      unterminated.opens.blanked_ne_nil mark.length_blanked unterminated.unclosed closed
  have lengths : before.length = front.length + rest.length := by
    rw [finished.parts, List.length_append]
  have stop := first.closingStart_le
  -- What comes behind the closing marker is the same with blanks.
  obtain ⟨gap, ends⟩ : ∃ gap, pair.closingStop = rest.length + mark.length + gap :=
    Nat.exists_eq_add_of_le (Nat.le_trans late stop)
  have remaining : ∀ middle : Text, middle.length = mark.length →
      (rest ++ (middle ++ behind)).drop pair.closingStop = behind.drop gap := by
    intro middle same
    rw [ends, ← same, drop_behind]
  refine ⟨done, pair.shift front.length, other.shift front.length,
    pairsFrom scope (front.length + pair.closingStop) (behind.drop gap), ?_, ?_, ?_, ?_, ?_, ?_,
    fun one member => ?_, fun one member => ?_⟩
  · rw [pairs, finished.pairs_eq, Nat.zero_add,
      pairsFrom_of_some _ (firstPair?_eq_some_iff.mpr first), remaining _ rfl]
  · rw [pairs, finished.pairs_eq, Nat.zero_add,
      pairsFrom_of_some _ (firstPair?_eq_some_iff.mpr firstOther), closingStop,
      remaining _ mark.length_blanked]
  · rw [lengths, ← start]
    rfl
  · simp only [Pair.shift]
    omega
  · rw [Pair.shift, Pair.shift, closingStart]
  · rw [Pair.closingStop_shift, Pair.closingStop_shift, closingStop]
  · have inside := finished.inside one member
    omega
  · have inside := le_openingStart_of_mem member
    omega

end Unterminated

end Marker

namespace Metadata

open Marker (ClosesAt CompletesEarlier Unterminated)

variable {scope : Scope} {before mark behind : Text}

theorem lineAt_blanked (before mark behind : Text) (offset : Nat) :
    lineAt (before ++ (mark.blanked ++ behind)) offset =
      lineAt (before ++ (mark ++ behind)) offset := by
  rw [lineAt, lineAt]
  simp only [List.take_append, List.count_append, Text.count_take_blanked, Text.length_blanked]

/-- What a pair on one side of a marker comes to does not change with blanks in the place of the
marker. -/
theorem ofPair_blanked (options : Options) {source blank : Source}
    (text : source.text = before ++ (mark ++ behind))
    (blankText : blank.text = before ++ (mark.blanked ++ behind)) {pair : Marker.Pair}
    (apart : pair.closingStart ≤ before.length ∨ before.length + mark.length ≤ pair.openingStop) :
    ofPair options blank scope pair = ofPair options source scope pair := by
  have held : blank.text.slice pair.openingStop pair.closingStart =
      source.text.slice pair.openingStop pair.closingStart := by
    rw [text, blankText]
    rcases apart with inside | late
    · rw [Text.slice_append_left inside, Text.slice_append_left inside]
    · obtain ⟨gap, starts⟩ := Nat.exists_eq_add_of_le late
      have dropped : ∀ middle : Text, middle.length = mark.length →
          (before ++ (middle ++ behind)).drop pair.openingStop = behind.drop gap := by
        intro middle same
        rw [starts, ← same, Marker.drop_behind]
      rw [Text.slice, Text.slice, dropped _ mark.length_blanked, dropped _ rfl]
  rw [ofPair_eq, ofPair_eq, held, text, blankText, lineAt_blanked, lineAt_blanked]

/-- **What is found without an opening marker that its scope does not close before it opens again.**
Without a closing marker behind it, what is found is the same, unless blanks in the place of the
marker complete an earlier one. With a closing marker behind it, what is found at one pair changes,
and nothing else: the closing marker then belongs to another opening one. -/
theorem scan_overwritten (options : Options) {source : Source}
    (read : Source.ofText? (before ++ (mark ++ behind)) = .ok source)
    (unterminated : Unterminated scope before mark behind) :
    ∃ blank, Source.ofText? (before ++ (mark.blanked ++ behind)) = .ok blank ∧
      ((∀ place, ¬ ClosesAt scope behind place) →
        (Marker.pairs scope blank.text = Marker.pairs scope source.text ↔
          ¬ CompletesEarlier scope before mark behind) ∧
        (¬ CompletesEarlier scope before mark behind →
          scanScope options blank scope = scanScope options source scope)) ∧
      ((∃ place, ClosesAt scope behind place) → ∃ done pair other later,
        Marker.pairs scope source.text = done ++ pair :: later ∧
        Marker.pairs scope blank.text = done ++ other :: later ∧
        pair.openingStart = before.length ∧ other.openingStart ≠ before.length ∧
        other.closingStart = pair.closingStart ∧ other.closingStop = pair.closingStop ∧
        ∀ one ∈ done ++ later, ofPair options blank scope one =
          ofPair options source scope one) := by
  obtain ⟨blank, readBlank⟩ := Source.exists_ofText?_blanked read
  have text := Source.text_of_ofText? read
  have blankText := Source.text_of_ofText? readBlank
  refine ⟨blank, readBlank, fun neverCloses => ?_, fun ⟨place, closed⟩ => ?_⟩
  · obtain ⟨same, inside⟩ := unterminated.pairs_of_open neverCloses
    rw [text, blankText]
    refine ⟨same, fun alone => ?_⟩
    rw [scanScope, scanScope, text, blankText, same.mpr alone]
    refine ofPairs_congr fun pair member => ofPair_blanked options text blankText (.inl ?_)
    have := inside pair member
    have := Marker.inside_of_mem_pairsFrom member
    omega
  · obtain ⟨done, pair, other, later, pairs, blankPairs, start, elsewhere, closingStart,
        closingStop, inside, behindAll⟩ := unterminated.pairs_of_closed closed
    refine ⟨done, pair, other, later,
      by rw [text, pairs], by rw [blankText, blankPairs], start, elsewhere, closingStart,
      closingStop, fun one member => ofPair_blanked options text blankText ?_⟩
    have whole : one ∈ Marker.pairs scope (before ++ (mark ++ behind)) := by
      rw [pairs]
      rcases List.mem_append.mp member with early | late
      · exact List.mem_append_left _ early
      · exact List.mem_append_right _ (List.mem_cons_of_mem _ late)
    have ordered := Marker.inside_of_mem_pairsFrom whole
    rcases List.mem_append.mp member with early | late
    · have := inside one early
      exact .inl (by omega)
    · have := behindAll one late
      exact .inr (by omega)

/-- A whole block of metadata. -/
def wholeComment : Text := "/* @apicize-file-metadata [] @apicize-file-metadata-end */"

/-- A marker before a block opens, and closes with the block. -/
theorem unterminated_before_block (before : Text)
    (outside : ∀ pair ∈ Marker.pairs .file (before ++ (Marker.opening .file ++ wholeComment)),
      pair.openingStart < before.length → pair.closingStop ≤ before.length) :
    Unterminated .file before (Marker.opening .file) wholeComment := by
  refine ⟨Marker.isOpening_opening .file, by decide +kernel, outside, fun place closes => ?_⟩
  have everywhere : ∀ place < wholeComment.length, ClosesAt .file wholeComment place →
      ∃ earlier < place, Marker.OpensAt .file wholeComment earlier := by
    decide +kernel
  exact everywhere place closes.lt_length closes

/-- A marker between two blocks closes with the second one, which another marker opens where that
one is overwritten. -/
theorem scan_overwritten_between_blocks : ∃ source blank done pair other later,
    Source.ofText? (wholeComment ++ (Marker.opening .file ++ wholeComment)) = .ok source ∧
      Unterminated .file wholeComment (Marker.opening .file) wholeComment ∧
      Source.ofText? (wholeComment ++ ((Marker.opening .file).blanked ++ wholeComment)) =
        .ok blank ∧
      Marker.pairs .file source.text = done ++ pair :: later ∧
      Marker.pairs .file blank.text = done ++ other :: later ∧
      pair.openingStart = wholeComment.length ∧ other.openingStart ≠ wholeComment.length ∧
      other.closingStop = pair.closingStop := by
  have unterminated := unterminated_before_block wholeComment (by decide +kernel)
  obtain ⟨source, read⟩ : Returns
      (Source.ofText? (wholeComment ++ (Marker.opening .file ++ wholeComment))) :=
    returns_of_isOk (by decide +kernel)
  obtain ⟨blank, readBlank, _, oneChanges⟩ := scan_overwritten .usual read unterminated
  obtain ⟨done, pair, other, later, pairs, blankPairs, start, elsewhere, _, stop, _⟩ :=
    oneChanges ⟨29, by decide +kernel⟩
  exact ⟨source, blank, done, pair, other, later, read, unterminated, readBlank, pairs, blankPairs,
    start, elsewhere, stop⟩

/-- A block that is ended but for the end of its comment. -/
def endedComment : Text := "/* @apicize-file-metadata [] @apicize-file-metadata-end "

/-- The number of blocks about the file in a text. -/
def fileBlockCount (text : Text) : Except Nat Nat :=
  match Source.ofText? text with
  | .error _ => .ok 0
  | .ok source => (scanScope .usual source .file).map fun found => (blocksOf found).length

theorem not_same_of_fileBlockCount {text other : Text}
    (differ : fileBlockCount other ≠ fileBlockCount text) (read : (Source.ofText? text).isOk = true)
    (readOther : (Source.ofText? other).isOk = true) :
    ¬ ∀ source blank, Source.ofText? text = .ok source → Source.ofText? other = .ok blank →
      scanScope .usual blank .file = scanScope .usual source .file := by
  intro same
  obtain ⟨source, read⟩ := returns_of_isOk read
  obtain ⟨blank, readOther⟩ := returns_of_isOk readOther
  refine differ ?_
  rw [fileBlockCount, fileBlockCount, read, readOther]
  simp only
  rw [same source blank read readOther]

/-- **An unterminated marker is not as good as absent**: it may cost the block behind it, and where
no closing marker comes behind it, it may stand in the middle of one. -/
theorem unterminated_not_absent :
    (Unterminated .file [] (Marker.opening .file) wholeComment ∧
      ¬ ∀ source blank, Source.ofText? (Marker.opening .file ++ wholeComment) = .ok source →
        Source.ofText? ((Marker.opening .file).blanked ++ wholeComment) = .ok blank →
          scanScope .usual blank .file = scanScope .usual source .file) ∧
    Unterminated .file endedComment (Marker.opening .file) "*/" ∧
    (∀ place, ¬ ClosesAt .file "*/" place) ∧
      ¬ ∀ source blank, Source.ofText? (endedComment ++ (Marker.opening .file ++ "*/")) =
        .ok source →
        Source.ofText? (endedComment ++ ((Marker.opening .file).blanked ++ "*/")) = .ok blank →
          scanScope .usual blank .file = scanScope .usual source .file := by
  have nowhere : ∀ place, ¬ ClosesAt .file "*/" place := fun place closes =>
    have inside : ∀ place < 2, ¬ ClosesAt .file "*/" place := by decide +kernel
    inside place closes.lt_length closes
  refine ⟨⟨unterminated_before_block [] (by decide +kernel), not_same_of_fileBlockCount ?_ ?_ ?_⟩,
    ⟨Marker.isOpening_opening .file, by decide +kernel, by decide +kernel, fun place closes =>
      absurd closes (nowhere place)⟩, nowhere, not_same_of_fileBlockCount ?_ ?_ ?_⟩
  all_goals decide +kernel

end Metadata

end TestOutline
