/-
**The pairs of a text, by what they are.**

A scan goes from one pair to the next with a cursor. What it finds can be told without the cursor:
pairs of an opening marker and the first closing one behind it, one pair behind the other, such that
no opening marker is left over. One is left over outside all pairs, unless it stands behind all of
them and is never closed. There is only one such list.

* `OpensBetween`, `ClosesBetween`: a marker stands between two offsets of a text.
* `IsPair`: an opening marker with the first closing one behind it; where it opens says where it
  closes (`IsPair.unique`).
* `Pairing`: a list of pairs that leaves no opening marker over. `pairing_pairsFrom`,
  `Pairing.unique`: the pairs of a text are such a list, and there is no other one.
* `scan_characterised`: what is found at the pairs, one outcome for each.
-/

import TestOutline.Proofs.Metadata.Finding
import TestOutline.Proofs.Metadata.Places
import TestOutline.Proofs.Returns

namespace TestOutline

namespace Marker

variable {scope : Scope} {text : Text} {start stop offset : Nat} {pair : Pair}

/-! ### Markers between offsets -/

/-- **An opening marker stands between two offsets**, and its name does not go on behind them. -/
def OpensBetween (scope : Scope) (text : Text) (start stop : Nat) : Prop :=
  ∃ before mark behind, text = before ++ (mark ++ behind) ∧ IsOpening scope mark ∧
    behind.head?.any continuesLabel = false ∧ start = before.length ∧
    stop = before.length + mark.length

/-- **A closing marker stands between two offsets.** -/
def ClosesBetween (scope : Scope) (text : Text) (start stop : Nat) : Prop :=
  ∃ before mark behind, text = before ++ (mark ++ behind) ∧ IsClosing scope mark ∧
    start = before.length ∧ stop = before.length + mark.length

theorem opensBetween_iff : OpensBetween scope text start stop ↔
    start ≤ stop ∧ openingLength? scope (text.drop start) = some (stop - start) := by
  constructor
  · rintro ⟨before, mark, behind, rfl, isOpening, ends, rfl, rfl⟩
    refine ⟨Nat.le_add_right _ _,
      openingLength?_eq_some_iff.mpr ⟨mark, behind, isOpening, ?_, ends, ?_⟩⟩
    · rw [List.drop_left]
    · rw [Nat.add_sub_cancel_left]
  · rintro ⟨ordered, found⟩
    obtain ⟨mark, behind, isOpening, here, ends, size⟩ := openingLength?_eq_some_iff.mp found
    obtain ⟨rest, same, _⟩ := isOpening.exists_eq_cons
    obtain ⟨before, parts, place⟩ := Text.exists_eq_append_of_drop (by simp [same]) here
    exact ⟨before, mark, behind, parts, isOpening, ends, place, by omega⟩

theorem closesBetween_iff : ClosesBetween scope text start stop ↔
    start ≤ stop ∧ closingLength? scope (text.drop start) = some (stop - start) := by
  constructor
  · rintro ⟨before, mark, behind, rfl, isClosing, rfl, rfl⟩
    refine ⟨Nat.le_add_right _ _, closingLength?_eq_some_iff.mpr ⟨mark, behind, isClosing, ?_, ?_⟩⟩
    · rw [List.drop_left]
    · rw [Nat.add_sub_cancel_left]
  · rintro ⟨ordered, found⟩
    obtain ⟨mark, behind, isClosing, here, size⟩ := closingLength?_eq_some_iff.mp found
    obtain ⟨rest, same, _⟩ := isClosing.exists_mark
    obtain ⟨before, parts, place⟩ := Text.exists_eq_append_of_drop (by simp [same]) here
    exact ⟨before, mark, behind, parts, isClosing, place, by omega⟩

/-- Where a marker starts says where it stops. -/
theorem OpensBetween.stop_eq {other : Nat} (opens : OpensBetween scope text start stop)
    (again : OpensBetween scope text start other) : stop = other := by
  rw [opensBetween_iff] at opens again
  have same := opens.2.symm.trans again.2
  have := Option.some.inj same
  omega

theorem ClosesBetween.stop_eq {other : Nat} (closes : ClosesBetween scope text start stop)
    (again : ClosesBetween scope text start other) : stop = other := by
  rw [closesBetween_iff] at closes again
  have same := closes.2.symm.trans again.2
  have := Option.some.inj same
  omega

/-! ### One pair -/

/-- **A pair**: an opening marker, and the first closing one behind it. -/
structure IsPair (scope : Scope) (text : Text) (pair : Pair) : Prop where
  opens : OpensBetween scope text pair.openingStart pair.openingStop
  closes : ClosesBetween scope text pair.closingStart pair.closingStop
  closes_behind : pair.openingStop ≤ pair.closingStart
  closes_first : ∀ start stop, ClosesBetween scope text start stop → pair.openingStop ≤ start →
    pair.closingStart ≤ start

/-- **Where a pair opens says where it closes.** -/
theorem IsPair.unique {other : Pair} (isPair : IsPair scope text pair)
    (isOther : IsPair scope text other) (same : pair.openingStart = other.openingStart) :
    pair = other := by
  have opened : pair.openingStop = other.openingStop := isPair.opens.stop_eq (same ▸ isOther.opens)
  have closed : pair.closingStart = other.closingStart := Nat.le_antisymm
    (isPair.closes_first _ _ isOther.closes (opened ▸ isOther.closes_behind))
    (isOther.closes_first _ _ isPair.closes (opened ▸ isPair.closes_behind))
  have ended : pair.closingStop = other.closingStop :=
    isPair.closes.stop_eq (closed ▸ isOther.closes)
  cases pair
  cases other
  simp only [Pair.mk.injEq]
  exact ⟨same, opened, closed, ended⟩

/-- A pair covers some of its text. -/
theorem IsPair.start_lt_stop (isPair : IsPair scope text pair) :
    pair.openingStart < pair.closingStop := by
  have opens := opensBetween_iff.mp isPair.opens
  have closes := closesBetween_iff.mp isPair.closes
  have behind := isPair.closes_behind
  have positive := openingLength_pos opens.2
  omega

/-- The first pair behind an offset is a pair of the whole text. -/
theorem IsFirst.isPair (first : IsFirst scope (text.drop offset) pair) :
    IsPair scope text (pair.shift offset) := by
  have opened := first.opens
  have closed := first.closes
  rw [List.drop_drop] at opened closed
  refine ⟨opensBetween_iff.mpr ⟨Nat.add_le_add_left first.openingStart_le _, ?_⟩,
    closesBetween_iff.mpr ⟨Nat.add_le_add_left first.closingStart_le _, ?_⟩,
    Nat.add_le_add_left first.openingStop_le _, fun start stop closes behind =>
      Nat.le_of_not_lt fun before => ?_⟩
  · simpa only [Pair.shift, Nat.add_sub_add_left] using opened
  · simpa only [Pair.shift, Nat.add_sub_add_left] using closed
  · -- A closing marker before the one that was found would have been found.
    have closes := (closesBetween_iff.mp closes).2
    simp only [Pair.shift] at before behind
    have never := first.closes_first (start - offset) (by omega) (by omega)
    rw [List.drop_drop, Nat.add_sub_cancel' (by omega), closes] at never
    cases never

/-! ### All pairs -/

/-- **Pairs behind an offset that leave no opening marker over**: they stand one behind the other,
and an opening marker that starts in none of them stands behind all of them and is never closed. -/
structure Pairing (scope : Scope) (text : Text) (offset : Nat) (pairs : List Pair) : Prop where
  isPair : ∀ pair ∈ pairs, IsPair scope text pair
  behind : ∀ pair ∈ pairs, offset ≤ pair.openingStart
  apart : pairs.Pairwise fun left right => left.closingStop ≤ right.openingStart
  complete : ∀ start stop, OpensBetween scope text start stop → offset ≤ start →
    (∃ pair ∈ pairs, pair.openingStart ≤ start ∧ start < pair.closingStop) ∨
      ((∀ pair ∈ pairs, pair.closingStop ≤ start) ∧
        ∀ closingStart closingStop, ClosesBetween scope text closingStart closingStop →
          closingStart < stop)

/-- Where no first pair is found, no opening marker is closed. -/
theorem pairing_nil (missing : firstPair? scope (text.drop offset) = none) :
    Pairing scope text offset [] := by
  refine ⟨by simp, by simp, List.Pairwise.nil, fun start stop opens late => .inr ⟨by simp, ?_⟩⟩
  intro closingStart closingStop closes
  refine Nat.lt_of_not_le fun behind => ?_
  obtain ⟨ordered, opens⟩ := opensBetween_iff.mp opens
  have opensLater : openingLength? scope ((text.drop offset).drop (start - offset)) =
      some (stop - start) := by
    rw [List.drop_drop, Nat.add_sub_cancel' late, opens]
  have closesLater : closingLength? scope ((text.drop offset).drop (closingStart - offset)) =
      some (closingStop - closingStart) := by
    rw [List.drop_drop, Nat.add_sub_cancel' (by omega), (closesBetween_iff.mp closes).2]
  obtain ⟨pair, first, _⟩ := exists_isFirst opensLater closesLater (by omega)
  rw [firstPair?_eq_some_iff.mpr first] at missing
  cases missing

/-- The first pair is put before those behind it. -/
theorem Pairing.cons {rest : List Pair} (first : IsFirst scope (text.drop offset) pair)
    (pairing : Pairing scope text (offset + pair.closingStop) rest) :
    Pairing scope text offset (pair.shift offset :: rest) := by
  have isPair := first.isPair
  have nonempty := isPair.start_lt_stop
  refine ⟨List.forall_mem_cons.mpr ⟨isPair, pairing.isPair⟩,
    List.forall_mem_cons.mpr ⟨Nat.le_add_right _ _, fun other member => ?_⟩,
    List.pairwise_cons.mpr ⟨fun other member => pairing.behind other member, pairing.apart⟩,
    fun start stop opens late => ?_⟩
  · have := pairing.behind other member
    omega
  · rcases Nat.lt_or_ge start (offset + pair.closingStop) with early | later
    · refine .inl ⟨_, List.mem_cons_self, Nat.le_of_not_lt fun before => ?_, early⟩
      -- An opening marker before the first one would have been found.
      have opens := (opensBetween_iff.mp opens).2
      simp only [Pair.shift] at before
      have never := first.opens_first (start - offset) (by omega)
      rw [List.drop_drop, Nat.add_sub_cancel' late, opens] at never
      cases never
    · rcases pairing.complete start stop opens later with ⟨other, member, around⟩ | ⟨all, never⟩
      · exact .inl ⟨other, List.mem_cons_of_mem _ member, around⟩
      · exact .inr ⟨List.forall_mem_cons.mpr ⟨later, all⟩, never⟩

/-- **The pairs that a scan finds leave no opening marker over.** -/
theorem pairing_pairsFrom (scope : Scope) (text : Text) (offset : Nat) :
    Pairing scope text offset (pairsFrom scope offset (text.drop offset)) := by
  cases found : firstPair? scope (text.drop offset) with
  | none =>
    rw [pairsFrom_of_none offset found]
    exact pairing_nil found
  | some pair =>
    have inside := closingStop_mem found
    rw [pairsFrom_of_some offset found, List.drop_drop]
    exact .cons (firstPair?_eq_some_iff.mp found)
      (pairing_pairsFrom scope text (offset + pair.closingStop))
termination_by text.length - offset
decreasing_by
  rw [List.length_drop] at inside
  omega

/-- Behind the first pair the others leave nothing over. -/
theorem Pairing.tail {rest : List Pair} (pairing : Pairing scope text offset (pair :: rest)) :
    Pairing scope text pair.closingStop rest := by
  obtain ⟨ahead, apart⟩ := List.pairwise_cons.mp pairing.apart
  refine ⟨fun other member => pairing.isPair other (List.mem_cons_of_mem _ member), ahead, apart,
    fun start stop opens late => ?_⟩
  have starts := (pairing.isPair pair List.mem_cons_self).start_lt_stop
  have reached := pairing.behind pair List.mem_cons_self
  rcases pairing.complete start stop opens (by omega) with ⟨other, member, around⟩ | ⟨all, never⟩
  · rcases List.mem_cons.mp member with rfl | member
    · omega
    · exact .inl ⟨other, member, around⟩
  · exact .inr ⟨fun other member => all other (List.mem_cons_of_mem _ member), never⟩

/-- A list of pairs starts no later than any pair. -/
theorem Pairing.exists_cons_le {pairs : List Pair} (pairing : Pairing scope text offset pairs)
    (isPair : IsPair scope text pair) (late : offset ≤ pair.openingStart) :
    ∃ first rest, pairs = first :: rest ∧ first.openingStart ≤ pair.openingStart := by
  rcases pairing.complete _ _ isPair.opens late with ⟨around, member, starts, _⟩ | ⟨_, never⟩
  · cases pairs with
    | nil => cases member
    | cons first rest =>
      refine ⟨first, rest, rfl, ?_⟩
      rcases List.mem_cons.mp member with rfl | member
      · exact starts
      · have ahead := (List.pairwise_cons.mp pairing.apart).1 around member
        have nonempty := (pairing.isPair first List.mem_cons_self).start_lt_stop
        omega
  · have closed := never _ _ isPair.closes
    have behind := isPair.closes_behind
    omega

/-- **There is one list of pairs only that leaves no opening marker over.** -/
theorem Pairing.unique {left right : List Pair} (first : Pairing scope text offset left)
    (second : Pairing scope text offset right) : left = right := by
  induction left generalizing offset right with
  | nil =>
    cases right with
    | nil => rfl
    | cons pair rest =>
      obtain ⟨_, _, same, _⟩ := first.exists_cons_le (second.isPair pair List.mem_cons_self)
        (second.behind pair List.mem_cons_self)
      cases same
  | cons pair rest ih =>
    have isPair := first.isPair pair List.mem_cons_self
    obtain ⟨other, others, rfl, before⟩ :=
      second.exists_cons_le isPair (first.behind pair List.mem_cons_self)
    have isOther := second.isPair other List.mem_cons_self
    obtain ⟨_, _, same, after⟩ :=
      first.exists_cons_le isOther (second.behind other List.mem_cons_self)
    obtain ⟨rfl, rfl⟩ := List.cons.inj same
    obtain rfl := isPair.unique isOther (Nat.le_antisymm after before)
    rw [ih first.tail second.tail]

/-- **The pairs of a text are the list of pairs that leaves no opening marker over.** -/
theorem pairing_iff {found : List Pair} :
    Pairing scope text 0 found ↔ found = pairs scope text := by
  have pairing := pairing_pairsFrom scope text 0
  rw [List.drop_zero] at pairing
  constructor
  · exact fun other => other.unique pairing
  · rintro rfl
    exact pairing

end Marker

namespace Metadata

open Marker (Pairing)

variable {options : Options} {source : Source} {scope : Scope} {pair : Marker.Pair}

/-! ### One outcome for each pair -/

/-- What stands between the markers of a pair, without the blanks around it. -/
def contentOf (text : Text) (pair : Marker.Pair) : Text :=
  Text.strip (text.slice pair.openingStop pair.closingStart)

/-- A text holds what the options want of metadata: a JSON value, and an object or an array if it
has to be one. -/
def Holds (options : Options) (content : Text) (payload : Json) : Prop :=
  Json.parse content = .ok payload ∧ (options.validateJson = true → payload.isContainer = true)

/-- **What a pair comes to**: a block if the pair holds what the options want, and else a report
that names the line where the pair opens. -/
structure ComesTo (options : Options) (text : Text) (scope : Scope) (pair : Marker.Pair)
    (one : Except Text MetadataBlock) : Prop where
  isBlock_iff : (∃ block, one = .ok block) ↔ ∃ payload, Holds options (contentOf text pair) payload
  block : ∀ block, one = .ok block → block.scope = scope ∧
    Holds options (contentOf text pair) block.payload ∧
    block.startOffset = pair.openingStart ∧ block.endOffset = pair.closingStop ∧
    block.startLine = lineAt text pair.openingStart ∧ block.endLine = lineAt text pair.closingStart
  report : ∀ report, one = .error report →
    ∃ fault : Fault, report = fault.message scope (lineAt text pair.openingStart)

theorem payloadOf_eq_ok_iff {content : Text} {payload : Json} :
    payloadOf options content = .ok (.ok payload) ↔ Holds options content payload := by
  unfold payloadOf Holds
  cases Json.parse content with
  | error refusal => cases refusal <;> simp
  | ok held =>
    simp only
    split
    · next refused =>
      refine iff_of_false (by simp) ?_
      rintro ⟨⟨⟩, contained⟩
      simp [contained refused.1] at refused
    · next fine =>
      simp only [Except.ok.injEq]
      refine ⟨?_, And.left⟩
      rintro rfl
      exact ⟨rfl, fun wanted => by simpa [wanted] using fine⟩

/-- **A pair comes to a block or to a report.** -/
theorem comesTo_of_ofPair {one : Except Text MetadataBlock}
    (found : ofPair options source scope pair = .ok one) :
    ComesTo options source.text scope pair one := by
  rw [ofPair_eq] at found
  cases held :
    payloadOf options (Text.strip (source.text.slice pair.openingStop pair.closingStart)) with
  | error digits =>
    rw [held] at found
    cases found
  | ok outcome =>
    rw [held] at found
    cases found
    cases outcome with
    | error fault =>
      refine ⟨iff_of_false (by simp [finding]) ?_, by simp [finding], ?_⟩
      · rintro ⟨payload, holds⟩
        have fine := payloadOf_eq_ok_iff.mpr holds
        rw [contentOf, held] at fine
        cases fine
      · rintro report ⟨⟩
        exact ⟨fault, rfl⟩
    | ok payload =>
      have holds : Holds options (contentOf source.text pair) payload := payloadOf_eq_ok_iff.mp held
      refine ⟨iff_of_true ⟨_, rfl⟩ ⟨payload, holds⟩, ?_, by simp [finding]⟩
      rintro block ⟨⟩
      exact ⟨rfl, holds, rfl, rfl, rfl, rfl⟩

/-- Lines are counted up along a text. -/
theorem lineAt_mono (text : Text) {start stop : Nat} (ordered : start ≤ stop) :
    lineAt text start ≤ lineAt text stop :=
  Nat.add_le_add_left ((List.take_sublist_take_left ordered).count_le _) 1

/-- **What a scan of a scope finds.** The text has one list of pairs that leaves no opening marker
over; they cover parts of it that do not overlap, one behind the other. Each pair comes to one
outcome, a block if it holds what the options want and else a report of the line where it opens. No
block ends before the line on which it starts. -/
theorem scan_characterised {found : List (Except Text MetadataBlock)}
    (scanned : scanScope options source scope = .ok found) :
    ∃ pairs : List Marker.Pair, (∀ others, Pairing scope source.text 0 others ↔ others = pairs) ∧
      (∀ pair ∈ pairs, pair.openingStart < pair.closingStop) ∧
      List.Forall₂ (ComesTo options source.text scope) pairs found ∧
      ∀ block ∈ blocksOf found, block.startLine ≤ block.endLine := by
  have pairing := Marker.pairing_iff.mpr (rfl : Marker.pairs scope source.text = _)
  refine ⟨Marker.pairs scope source.text, fun others => Marker.pairing_iff,
    fun pair member => (pairing.isPair pair member).start_lt_stop,
    (ofPairs_eq_ok_iff.mp scanned).imp fun pair one => comesTo_of_ofPair, fun block member => ?_⟩
  obtain ⟨pair, listed, come⟩ := exists_pair_of_mem_blocksOf scanned member
  obtain ⟨_, _, _, _, starts, ends⟩ := (comesTo_of_ofPair come).block block rfl
  have inside := Marker.inside_of_mem_pairsFrom listed
  rw [starts, ends]
  exact Int.ofNat_le.mpr (lineAt_mono source.text (Nat.le_trans inside.1 inside.2.1))

/-- Requests that hold an object, no JSON and a number, and one that is never closed. -/
def mixedText : Text :=
  "/* @apicize-request-metadata \x7b\x7d @apicize-request-metadata-end */\n" ++
  "/* @apicize-request-metadata \x7b @apicize-request-metadata-end */\n" ++
  "/* @apicize-request-metadata 1 @apicize-request-metadata-end */\n" ++
  "/* @apicize-request-metadata [] */"

/-- Three pairs come to a block and two reports. -/
theorem scan_characterised_mixed : ∃ source found, Source.ofText? mixedText = .ok source ∧
    scanScope .usual source .request = .ok found ∧ (blocksOf found).length = 1 ∧
    (reportsOf found).length = 2 ∧
      ∃ pairs, Pairing .request source.text 0 pairs ∧
        List.Forall₂ (ComesTo .usual source.text .request) pairs found := by
  obtain ⟨source, read⟩ : Returns (Source.ofText? mixedText) := returns_of_isOk (by decide +kernel)
  have counts : (Source.ofText? mixedText).map
      (fun source => (scanScope .usual source .request).map fun found =>
      ((blocksOf found).length, (reportsOf found).length)) = .ok (.ok (1, 2)) := by
    decide +kernel
  rw [read, Except.map] at counts
  cases scanned : scanScope .usual source .request with
  | error digits =>
    rw [scanned] at counts
    cases counts
  | ok found =>
    rw [scanned] at counts
    obtain ⟨blocks, reports⟩ := Prod.mk.inj (Except.ok.inj (Except.ok.inj counts))
    obtain ⟨pairs, pairing, _, outcomes, _⟩ := scan_characterised scanned
    exact ⟨source, found, read, scanned, blocks, reports, pairs, (pairing pairs).mpr rfl, outcomes⟩

end Metadata

end TestOutline
