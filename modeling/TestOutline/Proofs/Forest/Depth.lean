/-
**Depth where ranges do not cross.**

The depth of a place is written from the depth of its parent, one place at a time. Where no two
candidates cross it can be counted in the list itself, whatever order the list has.

* `surrounding`: the number of suites of a list that lie strictly around a candidate.
* `Lists.mem_lineage`: the places above a place are all suites around it. The parent is the
  innermost of them, so that the others lie around the parent, and so on upwards.
* `Lists.depth_eq`: the depth is their number.
* `Lists.laminar_link`: the order of the walk, all depths, and what is said about blocks that lie
  too deep.
-/

import TestOutline.Proofs.Forest.Laminar
import TestOutline.Proofs.Forest.WellFormed
import TestOutline.Proofs.Messages

namespace TestOutline.Forest

/-- The number of suites of a list that lie strictly around a candidate. -/
def surrounding (candidates : List Candidate) (inner : Candidate) : Nat :=
  candidates.countP fun outer => outer.isSuite && outer.contains inner

/-- The suites and tests of a list that lie in more suites than a limit allows, in the order of
their starts. -/
def tooDeep (candidates : List Candidate) (limit : Int) : List Candidate :=
  (candidates.filter fun candidate =>
    !candidate.isHook && limit < surrounding candidates candidate).mergeSort
    fun left right => left.startOffset ≤ right.startOffset

/-- Candidates that start at different places are told apart by their starts. -/
theorem eq_of_starts_eq {candidates : List Candidate}
    (increasing : candidates.Pairwise fun left right => left.startOffset < right.startOffset)
    {left right : Candidate} (leftMember : left ∈ candidates) (rightMember : right ∈ candidates)
    (same : left.startOffset = right.startOffset) : left = right := by
  have nodup : (candidates.map Candidate.startOffset).Nodup :=
    List.pairwise_map.mpr (increasing.imp fun before => Int.ne_of_lt before)
  exact List.inj_on_of_nodup_map nodup leftMember rightMember same

/-- Candidates in the order of their starts are what sorting them by their starts gives. -/
theorem eq_mergeSort_of_increasing {sorted candidates : List Candidate}
    (perm : sorted.Perm candidates)
    (increasing : sorted.Pairwise fun left right => left.startOffset < right.startOffset) :
    sorted = candidates.mergeSort fun left right => left.startOffset ≤ right.startOffset := by
  have ordered := List.pairwise_mergeSort Candidate.starts_trans Candidate.starts_total candidates
  have sortedPerm : sorted.Perm
      (candidates.mergeSort fun left right => left.startOffset ≤ right.startOffset) :=
    perm.trans (List.mergeSort_perm _ _).symm
  refine sortedPerm.eq_of_pairwise (fun left right leftMember rightMember first second => ?_)
    (increasing.imp fun before => decide_eq_true (Int.le_of_lt before)) ordered
  exact eq_of_starts_eq increasing leftMember (sortedPerm.mem_iff.mpr rightMember)
    (Int.le_antisymm (of_decide_eq_true first) (of_decide_eq_true second))

section Link

variable {members : Array Member} {numbers : List Nat} {candidates : List Candidate}
  (lists : Lists members numbers candidates) (laminar : Laminar candidates)

include lists laminar

/-- A suite around a place is its parent or lies around the parent, which is the innermost of
them. -/
theorem Lists.surrounds_iff_of_parent {place owner : Nat} (inside : place < candidates.length)
    (ownerInside : owner < candidates.length)
    (innermost : IsInnermost candidates candidates[place] owner) (suite : Nat) :
    Surrounds candidates candidates[place] suite ↔
      suite = owner ∨ Surrounds candidates candidates[owner] suite := by
  obtain ⟨_, ownerIsSuite, ownerAround⟩ := (lists.surrounds_iff inside).mp innermost.surrounds
  rw [lists.surrounds_iff inside, lists.surrounds_iff ownerInside]
  constructor
  · rintro ⟨suiteInside, isSuite, around⟩
    by_cases same : suite = owner
    · exact .inl same
    · have surrounds := (lists.surrounds_iff inside).mpr ⟨suiteInside, isSuite, around⟩
      obtain ⟨near, far, foundNear, foundFar, nearer⟩ := innermost.nearest suite surrounds same
      obtain ⟨_, rfl⟩ := List.getElem?_eq_some_iff.mp foundNear
      obtain ⟨_, rfl⟩ := List.getElem?_eq_some_iff.mp foundFar
      have apart := laminar.apart_of_ne suiteInside ownerInside same
      have nonempty := laminar.nonempty _ (List.getElem_mem inside)
      rw [lists.candidate_link inside, lists.candidate_link suiteInside,
        Candidate.contains_iff] at around
      rw [lists.candidate_link inside, lists.candidate_link ownerInside,
        Candidate.contains_iff] at ownerAround
      rw [lists.candidate_link suiteInside] at isSuite ⊢
      rw [lists.candidate_link ownerInside]
      refine .inr ⟨suiteInside, isSuite, ?_⟩
      -- Both lie around the place, so that neither ends before the other starts.
      rcases apart with before | behind | outer | inner
      · omega
      · omega
      · exact outer
      · rw [Candidate.contains_iff] at inner
        omega
  · rintro (rfl | ⟨suiteInside, isSuite, around⟩)
    · exact ⟨ownerInside, ownerIsSuite, ownerAround⟩
    · exact ⟨suiteInside, isSuite, Candidate.contains_trans around ownerAround⟩

/-- **The places above a place are all suites around it**, by induction upwards. -/
theorem Lists.mem_lineage {place : Nat} {line : List Nat}
    (lineage : (link members numbers).Lineage place line) (inside : place < candidates.length)
    (suite : Nat) :
    suite ∈ line ↔ Surrounds candidates candidates[place] suite := by
  have ordered : ∀ candidate ∈ candidates, candidate.startOffset ≤ candidate.endOffset :=
    fun candidate member => Int.le_of_lt (laminar.nonempty candidate member)
  induction lineage with
  | @atTop place noted =>
    have listed : place < (link members numbers).size := by
      rw [lists.size]
      exact inside
    have free := lists.parent_spec ordered inside ((lists.linked.mem_parents listed none).mpr noted)
    exact ⟨fun member => absurd member List.not_mem_nil,
      fun surrounds => absurd surrounds (free suite)⟩
  | @under place owner line noted _ ih =>
    have listed : place < (link members numbers).size := by
      rw [lists.size]
      exact inside
    have innermost : IsInnermost candidates candidates[place] owner :=
      lists.parent_spec ordered inside ((lists.linked.mem_parents listed (some owner)).mpr noted)
    have ownerInside := ((lists.surrounds_iff inside).mp innermost.surrounds).1
    calc
      suite ∈ owner :: line ↔ suite = owner ∨ suite ∈ line := List.mem_cons
      _ ↔ suite = owner ∨ Surrounds candidates candidates[owner] suite :=
        or_congr_right (ih ownerInside)
      _ ↔ Surrounds candidates candidates[place] suite :=
        (lists.surrounds_iff_of_parent laminar inside ownerInside innermost suite).symm

/-- **The depth of a place is the number of suites around it.** -/
theorem Lists.depth_eq {place : Nat} (inside : place < candidates.length) :
    ((link members numbers).member place).depth = surrounding candidates candidates[place] := by
  have listed : place < (link members numbers).size := by
    rw [lists.size]
    exact inside
  obtain ⟨line, lineage, nodup, depth⟩ := lists.linked.wellFormed.lineage place listed
  let around : Nat → Bool := fun suite => ((link members numbers).candidate suite).isSuite &&
    ((link members numbers).candidate suite).contains candidates[place]
  have perm : line.Perm ((List.range candidates.length).filter around) := by
    rw [List.perm_ext_iff_of_nodup (List.nodup_cons.mp nodup).2 (List.nodup_range.filter _)]
    intro suite
    rw [lists.mem_lineage laminar lineage inside, lists.surrounds_iff inside, List.mem_filter,
      List.mem_range, lists.candidate_link inside, Bool.and_eq_true]
  have listedAround := congrArg List.length
    (lists.filter_candidate fun outer => outer.isSuite && outer.contains candidates[place])
  rw [List.length_map] at listedAround
  rw [depth, perm.length_eq, surrounding, List.countP_eq_length_filter]
  exact listedAround

/-- The blocks of the walk, as candidates, are those that are no hooks. -/
theorem Lists.walk_candidates : ∃ places, (link members numbers).walk = some places ∧
    (∀ place ∈ places, place < candidates.length) ∧
    (places.map (link members numbers).candidate).Perm
      (candidates.filter fun candidate => !candidate.isHook) ∧
    (places.map (link members numbers).candidate).Pairwise fun left right =>
      left.startOffset < right.startOffset := by
  obtain ⟨places, walked, perm, increasing⟩ := lists.walk_increasing laminar
  refine ⟨places, walked, fun place member => ?_, ?_, List.pairwise_map.mpr increasing⟩
  · exact List.mem_range.mp (List.mem_filter.mp (perm.mem_iff.mp member)).1
  · rw [← lists.filter_candidate]
    exact perm.map _

/-- The blocks of the walk that lie too deep are those that lie in too many suites. -/
theorem Lists.map_candidate_tooDeep {places : List Nat} (limit : Int)
    (inside : ∀ place ∈ places, place < candidates.length)
    (perm : (places.map (link members numbers).candidate).Perm
      (candidates.filter fun candidate => !candidate.isHook))
    (increasing : (places.map (link members numbers).candidate).Pairwise fun left right =>
      left.startOffset < right.startOffset) :
    (places.filter fun place => limit < ((link members numbers).member place).depth).map
      (link members numbers).candidate = tooDeep candidates limit := by
  have counted :
      (places.filter fun place => limit < ((link members numbers).member place).depth).map
      (link members numbers).candidate =
      (places.map (link members numbers).candidate).filter fun candidate =>
        limit < surrounding candidates candidate := by
    rw [List.filter_map]
    congr 1
    refine List.filter_congr fun place member => ?_
    have placeInside := inside place member
    rw [Function.comp_apply, lists.depth_eq laminar placeInside, lists.candidate_link placeInside]
  rw [counted]
  refine eq_mergeSort_of_increasing ?_ (increasing.filter _)
  have kept := perm.filter fun candidate => decide (limit < surrounding candidates candidate)
  rw [List.filter_filter] at kept
  simpa only [Bool.and_comm] using kept

/-- **Where no candidates cross**, in whatever order they are listed, the walk over the suites and
tests is in the order of the source, the depth of every candidate is the number of suites around it,
and the warnings about depth that come to those that are there are about the suites and tests in too
many suites, in the order of the source, each text once. -/
theorem Lists.laminar_link :
    (∃ places, (link members numbers).walk = some places ∧
      (places.map (link members numbers).candidate).Perm
        (candidates.filter fun candidate => !candidate.isHook) ∧
      (places.map (link members numbers).candidate).Pairwise fun left right =>
        left.startOffset < right.startOffset) ∧
    (∀ place (inside : place < candidates.length),
      ((link members numbers).member place).depth = surrounding candidates candidates[place]) ∧
    ∀ options limit, options.maxNestingDepth = some limit →
      Text.canWrite limit = true ∨ tooDeep candidates limit = [] →
      ∃ warnings, (link members numbers).depthWarnings options = pure warnings ∧
        ∀ held, warnings.foldl addMessage held =
          held ++ (((tooDeep candidates limit).map (depthWarning limit)).filter fun warning =>
            !held.contains warning).eraseDups := by
  obtain ⟨places, walked, inside, perm, increasing⟩ := lists.walk_candidates laminar
  refine ⟨⟨places, walked, perm, increasing⟩, fun place inside => lists.depth_eq laminar inside,
    fun options limit limited told =>
      ⟨(tooDeep candidates limit).map (depthWarning limit), ?_, fun held => ?_⟩⟩
  · have said : (Text.canWrite limit || (tooDeep candidates limit).isEmpty) = true := by
      rw [Bool.or_eq_true, List.isEmpty_iff]
      exact told
    rw [depthWarnings, limited, walked]
    show Visit.ended (List.mapM _ _) = _
    rw [lists.map_candidate_tooDeep laminar limit inside perm increasing, mapM_sayDepth,
      if_pos said]
    rfl
  · exact foldl_addMessage_eq held _

end Link

/-! ### A suite in a suite -/

instance : DecidableRel Apart := fun left right => inferInstanceAs (Decidable
  (left.endOffset ≤ right.startOffset ∨ right.endOffset ≤ left.startOffset ∨
    left.contains right = true ∨ right.contains left = true))

/-- A call with a name and a line. -/
def named (name : Text) (line : Int) (candidate : Candidate) : Candidate :=
  { candidate with name := name, line := line }

/-- Two tests of one name on one line, in the order of the source. -/
def firstTest : Candidate := named "t" 3 (spanning (.block .test) 20 30)

def secondTest : Candidate := named "t" 3 (spanning (.block .test) 50 60)

def innerSuite : Candidate := named "inner" 4 (spanning (.block .suite) 40 80)

def outerSuite : Candidate := named "outer" 1 (spanning (.block .suite) 10 90)

/-- A suite in a suite with their tests and a hook, listed from the inside out. -/
def insideOut : List Candidate :=
  [secondTest, spanning (.hook .before) 12 14, innerSuite, outerSuite, firstTest]

/-- The same candidates, each found to be linked by an earlier list. -/
def insideOutMembers : Array Member :=
  (insideOut.reverse.map fun candidate =>
    { Member.ofCandidate candidate with
      place := some 7, parent := some 2, depth := 3, children := [0, 1] }).toArray

/-- The tests share a warning, which is given once, and that of the inner suite is there already. -/
theorem laminar_link_inside_out :
    Lists insideOutMembers [4, 3, 2, 1, 0] insideOut ∧ Laminar insideOut ∧
      (∃ places, (link insideOutMembers [4, 3, 2, 1, 0]).walk = some places ∧
        places.map (link insideOutMembers [4, 3, 2, 1, 0]).candidate =
          [outerSuite, firstTest, innerSuite, secondTest]) ∧
      ((link insideOutMembers [4, 3, 2, 1, 0]).member 0).depth = 2 ∧
      ∃ warnings, (link insideOutMembers [4, 3, 2, 1, 0]).depthWarnings
          { Options.usual with maxNestingDepth := some 0 } = pure warnings ∧
        warnings.foldl addMessage [depthWarning 0 innerSuite] =
          [depthWarning 0 innerSuite,
            "Block 't' at line 3 exceeds maximum nesting depth of 0"] := by
  have lists : Lists insideOutMembers [4, 3, 2, 1, 0] insideOut := ⟨by decide, by decide⟩
  have laminar : Laminar insideOut := ⟨by decide, by decide⟩
  obtain ⟨⟨places, walked, perm, increasing⟩, depths, warned⟩ := lists.laminar_link laminar
  obtain ⟨warnings, said, added⟩ := warned { Options.usual with maxNestingDepth := some 0 } 0 rfl
    (.inl (by decide))
  have blocks : [outerSuite, firstTest, innerSuite, secondTest] =
      (insideOut.filter fun candidate => !candidate.isHook).mergeSort fun left right =>
        left.startOffset ≤ right.startOffset :=
    eq_mergeSort_of_increasing (by decide) (by decide)
  have deep : [firstTest, innerSuite, secondTest] = tooDeep insideOut 0 :=
    eq_mergeSort_of_increasing (by decide) (by decide)
  refine ⟨lists, laminar, ⟨places, walked, ?_⟩, (depths 0 (by decide)).trans (by decide), warnings,
    said, ?_⟩
  · rw [blocks]
    exact eq_mergeSort_of_increasing perm increasing
  · rw [added, ← deep]
    decide +kernel

end TestOutline.Forest
