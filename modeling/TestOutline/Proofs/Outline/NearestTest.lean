/-
**The test that is attached to a request.**

Two searches look for the test of a request, one among the candidates and one in the text. One ends
at a line and the other at an offset, and they end at the same place. The nearest candidate decides:
candidates come in the order of their starts, and those on later lines start later.

* `lineNumber_le_iff`: a window in lines is a window in offsets.
* `IsNearest`: the nearest test behind an offset; `find?_testsInOrder_iff`: it comes first among
  those that start behind the offset, and there is one where any test starts there.
* `nextTest?_eq`: the nearest one is taken or none.
* `attachTest_characterised`: which text a request gets.
-/

import Mathlib.Data.List.Basic
import TestOutline.Proofs.Metadata.Finding
import TestOutline.Proofs.Outline.Assembly
import TestOutline.Proofs.Outline.Outcome

namespace TestOutline

/-! ### Windows -/

namespace Source

/-- Lines start in ascending order. -/
theorem lineStarts_sorted (source : Source) : source.lineStarts.toList.Pairwise (· ≤ ·) := by
  rw [source.lineStarts_eq]
  exact List.pairwise_cons.mpr ⟨fun _ _ => Nat.zero_le _, pairwise_lineStartsFrom _ _⟩

theorem lineStarts_zero (source : Source) : source.lineStarts[0]? = some 0 := by
  rw [source.lineStarts_eq]
  rfl

theorem lineCount_pos (source : Source) : 0 < source.lineCount := by
  rw [lineCount, source.lineStarts_eq]
  exact Nat.succ_pos _

/-- **An offset lies up to a line where it lies before the start of the next one.** -/
theorem lineNumber_le_iff_lt {source : Source} {number offset : Nat}
    (inside : number < source.lineCount) :
    source.lineNumber offset ≤ number ↔ offset < source.lineStarts[number] := by
  have spec := Bisect.lt_upperBound_iff source.lineStarts_sorted offset inside
  rw [← Nat.not_lt, lineNumber, spec]
  omega

theorem lineNumber_le_lineCount (source : Source) (offset : Int) :
    source.lineNumber offset ≤ source.lineCount :=
  (Bisect.partitionPoint_mem _ 0 source.lineStarts.size (Nat.zero_le _)).2

/-- **A window in lines is a window in offsets.** -/
theorem lineNumber_le_iff {source : Source} {offset : Nat} (inside : offset < source.length)
    (line window : Int) :
    (source.lineNumber offset : Int) ≤ line + window ↔
      offset < TestCode.windowEnd source line window := by
  have bound := source.lineNumber_le_lineCount offset
  unfold TestCode.windowEnd
  split
  · next past => exact iff_of_true (by omega) inside
  · next short =>
    rcases Int.lt_or_le 0 (line + window) with positive | none
    · -- The line behind the window is one of the source.
      have number : (min (max (line + window + 1) 1) source.lineCount).toNat - 1 =
          (line + window).toNat := by omega
      have within : (line + window).toNat < source.lineCount := by omega
      have entry : source.lineStarts.getD (line + window).toNat 0 =
          source.lineStarts[(line + window).toNat] := by
        rw [Array.getD_eq_getD_getElem?, Array.getElem?_eq_getElem within]
        rfl
      rw [lineStart, number, entry, ← lineNumber_le_iff_lt within]
      omega
    · -- No line comes before the first one.
      have counted := source.lineCount_pos
      have number : (min (max (line + window + 1) 1) source.lineCount).toNat - 1 = 0 := by omega
      have first : source.lineStarts.getD 0 0 = 0 := by
        rw [Array.getD_eq_getD_getElem?, source.lineStarts_zero]
        rfl
      have counts := source.lineNumber_eq offset
      rw [lineStart, number, first]
      omega

end Source

namespace Outline

variable {candidates tests : List Candidate} {test : Candidate} {offset : Int}

/-! ### The nearest test -/

/-- A candidate is a test that starts behind an offset. -/
def StartsBehind (offset : Int) (candidate : Candidate) : Prop :=
  candidate.isTest = true ∧ offset ≤ candidate.startOffset

/-- **The nearest test behind an offset**: of those that start behind it the one that starts first,
and of several that do the first in the list. -/
def IsNearest (candidates : List Candidate) (offset : Int) (test : Candidate) : Prop :=
  ∃ before behind, candidates = before ++ test :: behind ∧ StartsBehind offset test ∧
    (∀ other ∈ before, StartsBehind offset other → test.startOffset < other.startOffset) ∧
    ∀ other ∈ behind, StartsBehind offset other → test.startOffset ≤ other.startOffset

theorem IsNearest.mem (nearest : IsNearest candidates offset test) : test ∈ candidates := by
  obtain ⟨before, behind, rfl, _⟩ := nearest
  simp

theorem IsNearest.startsBehind (nearest : IsNearest candidates offset test) :
    StartsBehind offset test := by
  obtain ⟨_, _, _, starts, _⟩ := nearest
  exact starts

/-- **There is one nearest test.** -/
theorem IsNearest.unique {other : Candidate} (nearest : IsNearest candidates offset test)
    (again : IsNearest candidates offset other) : test = other := by
  obtain ⟨before, behind, parts, starts, first, others⟩ := nearest
  obtain ⟨front, back, same, startsToo, firstToo, othersToo⟩ := again
  rw [parts] at same
  rcases List.append_eq_append_iff.mp same with ⟨middle, rfl, rest⟩ | ⟨middle, rfl, rest⟩
  · cases middle with
    | nil => exact (List.cons.inj rest).1
    | cons point middle =>
      obtain ⟨rfl, rfl⟩ := List.cons.inj rest
      have later := firstToo test (by simp) starts
      have sooner := others other (by simp) startsToo
      omega
  · cases middle with
    | nil => exact (List.cons.inj rest).1.symm
    | cons point middle =>
      obtain ⟨rfl, rfl⟩ := List.cons.inj rest
      have later := first other (by simp) startsToo
      have sooner := othersToo test (by simp) starts
      omega

theorem mem_testsInOrder :
    test ∈ testsInOrder candidates ↔ test ∈ candidates ∧ test.isTest = true := by
  rw [testsInOrder, List.mem_mergeSort, List.mem_filter]

theorem testsInOrder_sorted (candidates : List Candidate) :
    (testsInOrder candidates).Pairwise fun left right => left.startOffset ≤ right.startOffset := by
  have sorted := List.pairwise_mergeSort Candidate.starts_trans Candidate.starts_total
    (candidates.filter Candidate.isTest)
  rw [testsInOrder]
  simpa only [decide_eq_true_eq] using sorted

/-- One more test comes before those that start no earlier, and the order of the others is the
same. -/
theorem testsInOrder_cons (isTest : test.isTest = true) (candidates : List Candidate) :
    ∃ sooner later, testsInOrder (test :: candidates) = sooner ++ test :: later ∧
      testsInOrder candidates = sooner ++ later ∧
      ∀ other ∈ sooner, other.startOffset < test.startOffset := by
  obtain ⟨sooner, later, whole, others, before⟩ := List.mergeSort_cons Candidate.starts_trans
    Candidate.starts_total test
    (candidates.filter Candidate.isTest)
  refine ⟨sooner, later, ?_, others, fun other member => ?_⟩
  · rw [testsInOrder, List.filter_cons_of_pos isTest, whole]
  · simpa using before other member

/-- **The first test in order behind an offset is the nearest one.** -/
theorem isNearest_of_find?
    (found : (testsInOrder candidates).find? (fun test => offset ≤ test.startOffset) = some test) :
    IsNearest candidates offset test := by
  induction candidates with
  | nil => simp [testsInOrder] at found
  | cons candidate rest ih =>
    by_cases isTest : candidate.isTest = true
    · obtain ⟨sooner, later, whole, others, before⟩ := testsInOrder_cons isTest rest
      have sorted := testsInOrder_sorted (candidate :: rest)
      rw [whole] at found sorted
      rw [others] at ih
      rw [List.find?_append] at found ih
      cases early : sooner.find? fun test => offset ≤ test.startOffset with
      | some first =>
        rw [early, Option.some_or] at found ih
        obtain rfl := Option.some.inj found
        obtain ⟨front, back, parts, starts, firstOne, lastOnes⟩ := ih rfl
        refine ⟨candidate :: front, back,
          by rw [parts, List.cons_append], starts, fun other member behind => ?_, lastOnes⟩
        rcases List.mem_cons.mp member with rfl | member
        · exact before _ (List.mem_of_find?_eq_some early)
        · exact firstOne other member behind
      | none =>
        rw [early, Option.none_or] at found ih
        by_cases behind : offset ≤ candidate.startOffset
        · rw [List.find?_cons_of_pos (by simpa using behind)] at found
          obtain rfl := Option.some.inj found
          refine ⟨[], rest, rfl, ⟨isTest, behind⟩, by simp, fun other member starts => ?_⟩
          -- Another test that starts behind the offset is not among those that come sooner.
          have listed : other ∈ sooner ++ later := others ▸ mem_testsInOrder.mpr ⟨member, starts.1⟩
          rcases List.mem_append.mp listed with inSooner | inLater
          · have := List.find?_eq_none.mp early other inSooner
            simp only [decide_eq_true_eq] at this
            exact absurd starts.2 this
          · exact (List.pairwise_cons.mp (List.pairwise_append.mp sorted).2.1).1 other inLater
        · rw [List.find?_cons_of_neg (by simpa using behind)] at found
          obtain ⟨front, back, parts, starts, firstOne, lastOnes⟩ := ih found
          refine ⟨candidate :: front, back,
            by rw [parts, List.cons_append], starts, fun other member starts => ?_, lastOnes⟩
          rcases List.mem_cons.mp member with rfl | member
          · exact absurd starts.2 behind
          · exact firstOne other member starts
    · have same : testsInOrder (candidate :: rest) = testsInOrder rest := by
        rw [testsInOrder, List.filter_cons_of_neg isTest, testsInOrder]
      obtain ⟨front, back, parts, starts, firstOne, lastOnes⟩ := ih (same ▸ found)
      refine ⟨candidate :: front, back,
        by rw [parts, List.cons_append], starts, fun other member starts => ?_, lastOnes⟩
      rcases List.mem_cons.mp member with rfl | member
      · exact absurd starts.1 isTest
      · exact firstOne other member starts

theorem find?_testsInOrder_iff :
    (testsInOrder candidates).find? (fun test => offset ≤ test.startOffset) = some test ↔
      IsNearest candidates offset test := by
  refine ⟨isNearest_of_find?, fun nearest => ?_⟩
  have starts := nearest.startsBehind
  cases found : (testsInOrder candidates).find? fun test => offset ≤ test.startOffset with
  | none =>
    have listed : test ∈ testsInOrder candidates := mem_testsInOrder.mpr ⟨nearest.mem, starts.1⟩
    have := List.find?_eq_none.mp found test listed
    simp only [decide_eq_true_eq] at this
    exact absurd starts.2 this
  | some other => rw [(isNearest_of_find? found).unique nearest]

/-! ### The nearest test or none -/

/-- **A candidate is placed in a source**: it starts there, on the line that it names, and has a
text. -/
structure PlacedIn (source : Source) (candidate : Candidate) : Prop where
  starts : candidate.startOffset < source.length
  line : candidate.line = source.lineNumber candidate.startOffset
  text : candidate.fullText ≠ []

/-- Where a later hit that passes makes an earlier one pass, the first hit decides. -/
theorem find?_and_eq_filter {α : Type} {hits passes : α → Bool} {list : List α}
    (closed : list.Pairwise fun left right =>
      hits left = true → passes right = true → passes left = true) :
    list.find? (fun one => hits one && passes one) = (list.find? hits).filter passes := by
  induction list with
  | nil => rfl
  | cons one rest ih =>
    obtain ⟨ahead, closed⟩ := List.pairwise_cons.mp closed
    cases hit : hits one with
    | false => rw [List.find?_cons_of_neg (by simp [hit]), List.find?_cons_of_neg (by simp [hit]),
        ih closed]
    | true =>
      rw [List.find?_cons_of_pos (p := hits) hit]
      cases passed : passes one with
      | true => rw [List.find?_cons_of_pos (by simp [hit, passed]), Option.filter_some_pos passed]
      | false =>
        rw [List.find?_cons_of_neg (by simp [passed]), Option.filter_some_neg (by simp [passed]),
          List.find?_eq_none]
        intro other member both
        rw [Bool.and_eq_true] at both
        have := ahead other member hit both.2
        rw [passed] at this
        cases this

/-- A placed candidate behind the start of a source lies in a window of lines where it starts in
that of offsets. -/
theorem PlacedIn.line_le_iff {source : Source} (placed : PlacedIn source test)
    (late : 0 ≤ test.startOffset) (line window : Int) : test.line ≤ line + window ↔
      test.startOffset < TestCode.windowEnd source line window := by
  obtain ⟨start, same⟩ := Int.eq_ofNat_of_zero_le late
  have starts := placed.starts
  rw [same] at starts
  rw [placed.line, same, Source.lineNumber_le_iff (by omega)]
  omega

/-- **The nearest test is taken or none**: no other one lies in a window that it does not lie in. -/
theorem nextTest?_eq {source : Source}
    (placed : ∀ candidate ∈ candidates, PlacedIn source candidate) (late : 0 ≤ offset)
    (line window : Int) :
    nextTest? (testsInOrder candidates) offset (line + window) =
      ((testsInOrder candidates).find? fun test => offset ≤ test.startOffset).filter
        fun test => decide (test.line ≤ line + window) := by
  refine find?_and_eq_filter
    ((testsInOrder_sorted candidates).imp_of_mem fun {left right} inLeft inRight ordered => ?_)
  simp only [decide_eq_true_eq]
  intro behind passes
  rw [(placed _ (mem_testsInOrder.mp inLeft).1).line_le_iff (by omega)]
  rw [(placed _ (mem_testsInOrder.mp inRight).1).line_le_iff (by omega)] at passes
  omega

/-- A block that a scan finds ends at an offset of the source, and has no test yet. -/
theorem request_of_scan {options : Options} {source : Source} {found : MetadataOutline}
    {block : MetadataBlock} (scanned : Metadata.scan options source = .ok found)
    (member : block ∈ found.requestMetadata) :
    0 ≤ block.endOffset ∧ block.testCode = none := by
  obtain ⟨listed, requests, same⟩ := Metadata.requests_of_scan scanned
  rw [same] at member
  obtain ⟨pair, _, come⟩ := Metadata.exists_pair_of_mem_blocksOf requests member
  obtain ⟨payload, ⟨⟩⟩ := Metadata.block_of_ofPair come
  exact ⟨Int.natCast_nonneg _, rfl⟩

/-- **The test that a request gets.** A window in lines is a window in offsets. The nearest test
behind the request is taken if it starts in that window; otherwise the text is searched, and the
request stays without a test where nothing is found there. -/
theorem attachTest_characterised {options : Options} {source : Source} {found : MetadataOutline}
    {block : MetadataBlock} (scanned : Metadata.scan options source = .ok found)
    (member : block ∈ found.requestMetadata) :
    (∀ (window : Int) (offset : Nat), offset < source.length →
      ((source.lineNumber offset : Int) ≤ block.endLine + window ↔
        offset < TestCode.windowEnd source block.endLine window)) ∧
    ∀ candidates, (∀ candidate ∈ candidates, PlacedIn source candidate) →
      (∀ test, IsNearest candidates block.endOffset test →
        test.startOffset < TestCode.windowEnd source block.endLine options.lookaheadLines →
          attachTest options source (testsInOrder candidates) block =
            { block with testCode := some test.fullText }) ∧
      ((∀ test, IsNearest candidates block.endOffset test →
        ¬ test.startOffset < TestCode.windowEnd source block.endLine options.lookaheadLines) →
          block.testCode = none ∧ attachTest options source (testsInOrder candidates) block =
            { block with
              testCode :=
                source.testCode? block.endLine block.endOffset options.lookaheadLines }) := by
  obtain ⟨late, untested⟩ := request_of_scan scanned member
  refine ⟨fun window offset inside => Source.lineNumber_le_iff inside _ _,
    fun candidates placed => ⟨?_, ?_⟩⟩
  · intro test nearest inWindow
    have starts := nearest.startsBehind.2
    have placedTest := placed test nearest.mem
    have next : nextTest? (testsInOrder candidates) block.endOffset
        (block.endLine + options.lookaheadLines) =
        some test := by
      rw [nextTest?_eq placed late, find?_testsInOrder_iff.mpr nearest, Option.filter_some_pos]
      exact decide_eq_true ((placedTest.line_le_iff (by omega) _ _).mpr inWindow)
    rw [attachTest, next]
    simp only
    rw [if_neg (by simpa using placedTest.text)]
  · intro outside
    have next : nextTest? (testsInOrder candidates) block.endOffset
        (block.endLine + options.lookaheadLines) = none := by
      rw [nextTest?_eq placed late]
      cases first : (testsInOrder candidates).find? fun test =>
        block.endOffset ≤ test.startOffset with
      | none => rfl
      | some test =>
        have nearest := find?_testsInOrder_iff.mp first
        have starts := nearest.startsBehind.2
        refine Option.filter_some_neg ?_
        rw [decide_eq_false_iff_not, (placed test nearest.mem).line_le_iff (by omega)]
        exact outside test nearest
    refine ⟨untested, ?_⟩
    rw [attachTest, next]
    rfl

/-- A request with two tests behind it. -/
def requestText : String :=
  "/* @apicize-request-metadata [] @apicize-request-metadata-end */it(a)\nit(b)"

/-- A test that starts at an offset, on a line, and has a text. -/
def testAt (start line : Nat) (fullText : String) : Candidate :=
  ⟨.block .test, "", "", fullText, start, start + fullText.length, line, false, ""⟩

/-- Of two tests behind a request the nearest one is attached, wherever it stands in the list. -/
theorem attachTest_characterised_two : ∃ found block,
    Metadata.scan .usual (Source.ofChars requestText.toList) = .ok found ∧
      block ∈ found.requestMetadata ∧
      (attachTest .usual (Source.ofChars requestText.toList)
        (testsInOrder [testAt 70 2 "it(b)", testAt 64 1 "it(a)"]) block).testCode =
          some (Text.ofString "it(a)") := by
  obtain ⟨found, scanned⟩ : Returns (Metadata.scan .usual (Source.ofChars requestText.toList)) :=
    returns_of_isOk (by decide +kernel)
  have places : (Metadata.scan .usual (Source.ofChars requestText.toList)).map (fun found =>
      found.requestMetadata.map fun block => (block.endLine, block.endOffset)) = .ok [(1, 64)] := by
    decide +kernel
  rw [scanned, Except.map] at places
  obtain ⟨block, same, place⟩ := List.map_eq_singleton_iff.mp (Except.ok.inj places)
  obtain ⟨line, offset⟩ := Prod.mk.inj place
  have member : block ∈ found.requestMetadata := by simp [same]
  refine ⟨found, block, scanned, member, ?_⟩
  obtain ⟨_, attached⟩ := attachTest_characterised scanned member
  have placed : ∀ candidate ∈ [testAt 70 2 "it(b)", testAt 64 1 "it(a)"],
      PlacedIn (Source.ofChars requestText.toList) candidate := by
    simp only [List.forall_mem_cons]
    refine ⟨⟨by decide +kernel, by decide +kernel, by decide +kernel⟩,
      ⟨by decide +kernel, by decide +kernel, by decide +kernel⟩, by simp⟩
  rw [(attached _ placed).1 (testAt 64 1 "it(a)") ?_ ?_]
  · rfl
  · refine ⟨[testAt 70 2 "it(b)"], [], rfl, ⟨by decide, ?_⟩, ?_, by simp⟩
    · rw [offset]
      decide
    · simp only [List.forall_mem_singleton]
      exact fun _ => by decide
  · rw [line]
    decide +kernel

end Outline

end TestOutline
