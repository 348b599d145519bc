/-
**The parent is the innermost suite around.**

The sweep looks for a parent among the suites that it has kept open, and it closes suites only from
the innermost on. Where no candidate ends before it starts, this finds the same parent as looking at
all suites of the list:

* `KeepsOpen`: what is known of the open suites before each place. A suite that is not among them
  ends before all that is to come.
* `parentsFrom_eq_nearestFrom`: looking among the open suites is looking among all places before.
* `parent_link`: the parent is the innermost of all suites around, and a place without one is at the
  top.
-/

import Mathlib.Data.List.Find
import Mathlib.Data.List.TakeWhile
import TestOutline.Proofs.Forest.Listing

namespace TestOutline.Forest

variable {forest : Forest}

/-- In a list without repetitions, the first element with a property is the first one of any part
that has all elements with the property. -/
theorem find?_of_sublist {α : Type} {test : α → Bool} {part whole : List α}
    (sublist : part.Sublist whole) (nodup : whole.Nodup)
    (kept : ∀ element ∈ whole, test element = true → element ∈ part) :
    part.find? test = whole.find? test := by
  induction sublist with
  | slnil => rfl
  | @cons part whole first sublist ih =>
    obtain ⟨fresh, nodup⟩ := List.nodup_cons.mp nodup
    have fails : ¬ test first = true := fun holds =>
      fresh (sublist.mem (kept first List.mem_cons_self holds))
    rw [List.find?_cons_of_neg fails]
    exact ih nodup fun element member => kept element (List.mem_cons_of_mem _ member)
  | @cons_cons part whole first sublist ih =>
    obtain ⟨fresh, nodup⟩ := List.nodup_cons.mp nodup
    rw [List.find?_cons, List.find?_cons]
    split
    · rfl
    · refine ih nodup fun element member holds => ?_
      rcases List.mem_cons.mp (kept element (List.mem_cons_of_mem _ member) holds) with rfl | inside
      · exact absurd member fresh
      · exact inside

/-! ### Open suites against all places before -/

/-- The places of a sweep with the last suites before them that lie around them; `done` are the
places before, the last one first. -/
def nearestFrom (forest : Forest) (done : List Nat) : List Nat → List ParentLink
  | [] => []
  | place :: rest =>
    (place, done.find? fun suite =>
        (forest.candidate suite).isSuite &&
          (forest.candidate suite).contains (forest.candidate place)) ::
      forest.nearestFrom (place :: done) rest

/-- **What is known of the open suites** before the places `rest`, when the places `done` have been
linked: a suite that is not open ends before all that is to come. -/
structure KeepsOpen (forest : Forest) (done opened rest : List Nat) : Prop where
  sublist : opened.Sublist done
  suites : ∀ suite ∈ opened, (forest.candidate suite).isSuite = true
  closed : ∀ suite ∈ done, (forest.candidate suite).isSuite = true → suite ∉ opened →
    ∀ place ∈ rest, (forest.candidate suite).endOffset ≤ (forest.candidate place).startOffset

/-- What closing drops ends before the place. -/
theorem ends_of_closed {opened : List Nat} {suite place : Nat} (member : suite ∈ opened)
    (dropped : suite ∉ forest.stillOpen opened place) :
    (forest.candidate suite).endOffset ≤ (forest.candidate place).startOffset := by
  rw [← List.takeWhile_append_dropWhile (p := fun suite =>
      decide ((forest.candidate suite).endOffset ≤ (forest.candidate place).startOffset))
        (l := opened),
    List.mem_append] at member
  rcases member with taken | kept
  · have ends := List.mem_takeWhile_imp taken
    exact of_decide_eq_true ends
  · exact absurd kept dropped

/-- Linking a place keeps what is known of the open suites. -/
theorem KeepsOpen.step {done opened rest : List Nat} {place : Nat}
    (keeps : forest.KeepsOpen done opened (place :: rest))
    (sorted : ∀ later ∈ rest, (forest.candidate place).startOffset ≤
      (forest.candidate later).startOffset) :
    forest.KeepsOpen (place :: done)
      (if (forest.candidate place).isSuite then place :: forest.stillOpen opened place
        else forest.stillOpen opened place) rest := by
  have kept : (forest.stillOpen opened place).Sublist opened := List.dropWhile_sublist _
  have closed : ∀ suite ∈ done, (forest.candidate suite).isSuite = true →
      suite ∉ forest.stillOpen opened place → ∀ later ∈ rest,
        (forest.candidate suite).endOffset ≤ (forest.candidate later).startOffset := by
    intro suite member isSuite dropped later laterMember
    by_cases wasOpen : suite ∈ opened
    · exact (ends_of_closed wasOpen dropped).trans (sorted later laterMember)
    · exact keeps.closed suite member isSuite wasOpen later (List.mem_cons_of_mem _ laterMember)
  have suites : ∀ suite ∈ forest.stillOpen opened place, (forest.candidate suite).isSuite = true :=
    fun suite member => keeps.suites suite (kept.mem member)
  split
  · next isSuite =>
    refine ⟨(kept.trans keeps.sublist).cons_cons place, ?_, ?_⟩
    · intro suite member
      rcases List.mem_cons.mp member with rfl | old
      · exact isSuite
      · exact suites suite old
    · intro suite member suiteIs notOpen
      rw [List.mem_cons, not_or] at notOpen
      exact closed suite ((List.mem_cons.mp member).resolve_left notOpen.1) suiteIs notOpen.2
  · next noSuite =>
    refine ⟨(kept.trans keeps.sublist).cons place, suites, ?_⟩
    intro suite member suiteIs notOpen
    refine closed suite ((List.mem_cons.mp member).resolve_left ?_) suiteIs notOpen
    intro same
    exact noSuite (same ▸ suiteIs)

/-- **Looking among the open suites is looking among all places before**, where no candidate ends
before it starts: a suite around a place is still open there, since it ends behind the start of the
place. -/
theorem parentsFrom_eq_nearestFrom {done opened rest : List Nat}
    (keeps : forest.KeepsOpen done opened rest)
    (nodup : (rest.reverse ++ done).Nodup) (sorted : rest.Pairwise forest.Precedes)
    (ordered : ∀ place ∈ rest, (forest.candidate place).startOffset ≤
      (forest.candidate place).endOffset) :
    forest.parentsFrom opened rest = forest.nearestFrom done rest := by
  induction rest generalizing done opened with
  | nil => rfl
  | cons place rest ih =>
    obtain ⟨precedes, sorted⟩ := List.pairwise_cons.mp sorted
    have nodupDone : done.Nodup := (List.nodup_append.mp nodup).2.1
    have parent : forest.parentAmong (forest.stillOpen opened place) place = done.find? fun suite =>
        (forest.candidate suite).isSuite &&
          (forest.candidate suite).contains (forest.candidate place) := by
      have suites : ∀ suite ∈ forest.stillOpen opened place,
          (forest.candidate suite).isSuite = true :=
        fun suite member => keeps.suites suite ((List.dropWhile_sublist _).mem member)
      rw [← find?_of_sublist ((List.dropWhile_sublist _).trans keeps.sublist) nodupDone]
      · unfold parentAmong
        exact List.find?_congr fun suite member => by rw [suites suite member, Bool.true_and]
      · intro suite member around
        rw [Bool.and_eq_true, Candidate.contains_iff] at around
        have start := ordered place List.mem_cons_self
        by_contra dropped
        by_cases wasOpen : suite ∈ opened
        · have ends := ends_of_closed wasOpen dropped
          omega
        · have ends := keeps.closed suite member around.1 wasOpen place List.mem_cons_self
          omega
    rw [parentsFrom, nearestFrom, parent]
    congr 1
    refine ih (keeps.step fun later member => (precedes later member).starts) ?_ sorted
      fun later member => ordered later (List.mem_cons_of_mem _ member)
    simpa using nodup

/-! ### All suites around -/

/-- **The suites around a candidate**: those of the list that strictly contain it. -/
def Surrounds (candidates : List Candidate) (inner : Candidate) (place : Nat) : Prop :=
  ∃ outer, candidates[place]? = some outer ∧ outer.isSuite = true ∧ outer.contains inner = true

/-- **Which of two candidates is nearer** to what both contain: the one that starts last; of equal
starts the one that ends first; of equal ranges the one that is listed last. -/
def Nearer (candidates : List Candidate) (place other : Nat) : Prop :=
  ∃ near far, candidates[place]? = some near ∧ candidates[other]? = some far ∧
    (far.startOffset < near.startOffset ∨ far.startOffset = near.startOffset ∧
      (near.endOffset < far.endOffset ∨ near.endOffset = far.endOffset ∧ other < place))

/-- **The innermost of all suites around a candidate.** -/
structure IsInnermost (candidates : List Candidate) (inner : Candidate) (owner : Nat) : Prop where
  surrounds : Surrounds candidates inner owner
  nearest : ∀ other, Surrounds candidates inner other → other ≠ owner →
    Nearer candidates owner other

theorem Nearer.asymm {candidates : List Candidate} {place other : Nat}
    (nearer : Nearer candidates place other) :
    ¬ Nearer candidates other place := by
  rintro ⟨far, near, foundFar, foundNear, before⟩
  obtain ⟨_, _, foundNear', foundFar', after⟩ := nearer
  rw [foundNear'] at foundNear
  rw [foundFar'] at foundFar
  cases foundNear
  cases foundFar
  omega

/-- There is no more than one innermost suite. -/
theorem IsInnermost.unique {candidates : List Candidate} {inner : Candidate} {first second : Nat}
    (left : IsInnermost candidates inner first) (right : IsInnermost candidates inner second) :
    first = second := by
  by_contra different
  exact (left.nearest second right.surrounds (Ne.symm different)).asymm
    (right.nearest first left.surrounds different)

/-- What is found for a place is the last suite around it among the places before. -/
theorem mem_nearestFrom {done rest : List Nat} {place : Nat} {parent : Option Nat}
    (member : (place, parent) ∈ forest.nearestFrom done rest) :
    ∃ before after, rest = before ++ place :: after ∧
      parent = (before.reverse ++ done).find? fun suite =>
        (forest.candidate suite).isSuite &&
          (forest.candidate suite).contains (forest.candidate place) := by
  induction rest generalizing done with
  | nil => cases member
  | cons next rest ih =>
    rw [nearestFrom, List.mem_cons] at member
    rcases member with here | later
    · obtain ⟨rfl, rfl⟩ := Prod.mk.inj here
      exact ⟨[], rest, rfl, rfl⟩
    · obtain ⟨before, after, rfl, found⟩ := ih later
      refine ⟨next :: before, after, rfl, ?_⟩
      rw [found, List.reverse_cons, List.append_assoc]
      rfl

section Link

variable {members : Array Member} {numbers : List Nat} {candidates : List Candidate}
  (lists : Lists members numbers candidates)

include lists

/-- A suite around a place of a forest, by its place in the list. -/
theorem Lists.surrounds_iff {place other : Nat} (inside : place < candidates.length) :
    Surrounds candidates candidates[place] other ↔
      other < candidates.length ∧ ((link members numbers).candidate other).isSuite = true ∧
        ((link members numbers).candidate other).contains ((link members numbers).candidate place) =
          true := by
  constructor
  · rintro ⟨outer, found, isSuite, contains⟩
    obtain ⟨otherInside, rfl⟩ := List.getElem?_eq_some_iff.mp found
    rw [lists.candidate_link otherInside, lists.candidate_link inside]
    exact ⟨otherInside, isSuite, contains⟩
  · rintro ⟨otherInside, isSuite, contains⟩
    rw [lists.candidate_link otherInside] at isSuite contains
    rw [lists.candidate_link inside] at contains
    exact ⟨candidates[other], List.getElem?_eq_getElem otherInside, isSuite, contains⟩

/-- Of two suites around a place the one that comes last in the order is nearer. -/
theorem Lists.nearer_of_precedes {place other : Nat} (inside : place < candidates.length)
    (otherInside : other < candidates.length)
    (precedes : (link members numbers).Precedes other place) :
    Nearer candidates place other := by
  obtain ⟨first, tie⟩ := precedes
  rw [lists.candidate_link inside, lists.candidate_link otherInside,
    Candidate.comesFirst_iff] at first tie
  refine ⟨candidates[place], candidates[other], List.getElem?_eq_getElem inside,
    List.getElem?_eq_getElem otherInside, ?_⟩
  rcases Int.lt_trichotomy candidates[place].endOffset
      candidates[other].endOffset with shorter | same | longer
  · omega
  · rcases first with starts | starts
    · exact .inl starts
    · exact .inr ⟨starts.1, .inr ⟨same, tie (.inr ⟨starts.1.symm, Int.le_of_eq same.symm⟩)⟩⟩
  · omega

variable (ordered : ∀ candidate ∈ candidates, candidate.startOffset ≤ candidate.endOffset)

include ordered

/-- Where no candidate ends before it starts, a place is linked to the last suite around it among
those before. -/
theorem Lists.parent_of_mem {place : Nat} {parent : Option Nat}
    (member : (place, parent) ∈ (link members numbers).parents) :
    ∃ before after, (link members numbers).order = before ++ place :: after ∧
      parent = before.reverse.find? fun suite =>
        ((link members numbers).candidate suite).isSuite &&
          ((link members numbers).candidate suite).contains
            ((link members numbers).candidate place) := by
  have keeps : (link members numbers).KeepsOpen [] [] (link members numbers).order :=
    ⟨List.Sublist.refl _, List.forall_mem_nil _, List.forall_mem_nil _⟩
  have rangesOrdered : ∀ place ∈ (link members numbers).order,
      ((link members numbers).candidate place).startOffset ≤
        ((link members numbers).candidate place).endOffset := by
    intro place member
    have inside : place < candidates.length := by
      rw [← lists.size]
      exact mem_order.mp member
    rw [lists.candidate_link inside]
    exact ordered _ (List.getElem_mem inside)
  rw [parents,
    parentsFrom_eq_nearestFrom keeps (by simpa using order_nodup) order_precedes rangesOrdered]
    at member
  obtain ⟨before, after, split, found⟩ := mem_nearestFrom member
  rw [List.append_nil] at found
  exact ⟨before, after, split, found⟩

/-- The parent that a link notes is the innermost suite around, and there is no suite around if it
notes none. -/
theorem Lists.parent_spec {place : Nat} {parent : Option Nat} (inside : place < candidates.length)
    (member : (place, parent) ∈ (link members numbers).parents) :
    parent.elim (∀ other, ¬ Surrounds candidates candidates[place] other)
      (IsInnermost candidates candidates[place]) := by
  obtain ⟨before, after, split, found⟩ := lists.parent_of_mem ordered member
  have sorted : (link members numbers).order.Pairwise (link members numbers).Precedes :=
    order_precedes
  rw [split] at sorted
  obtain ⟨sortedBefore, sortedAfter, across⟩ := List.pairwise_append.mp sorted
  -- What surrounds a place comes before it.
  have surroundsBefore : ∀ other, Surrounds candidates candidates[place] other →
      other ∈ before := by
    intro other surrounds
    obtain ⟨otherInside, _, contains⟩ := (lists.surrounds_iff inside).mp surrounds
    have listed : other ∈ (link members numbers).order :=
      mem_order.mpr (by rw [lists.size]; exact otherInside)
    rw [split, List.mem_append, List.mem_cons] at listed
    rcases listed with earlier | rfl | later
    · exact earlier
    · rw [Candidate.contains_iff] at contains
      omega
    · exact absurd contains ((List.pairwise_cons.mp sortedAfter).1 other later).not_contains
  cases parent with
  | none =>
    intro other surrounds
    obtain ⟨_, isSuite, contains⟩ := (lists.surrounds_iff inside).mp surrounds
    have fails := List.find?_eq_none.mp found.symm other
      (List.mem_reverse.mpr (surroundsBefore other surrounds))
    exact fails (by rw [isSuite, contains, Bool.and_self])
  | some owner =>
    obtain ⟨holds, behind, ahead, halves, fails⟩ := List.find?_eq_some_iff_append.mp found.symm
    have unreversed : before = ahead.reverse ++ owner :: behind.reverse := by
      rw [← List.reverse_reverse before, halves]
      simp
    have ownerInside : owner < candidates.length := by
      rw [← lists.size, ← mem_order, split, unreversed]
      simp
    refine ⟨(lists.surrounds_iff inside).mpr ⟨ownerInside, by simpa using holds⟩, ?_⟩
    intro other surrounds different
    obtain ⟨otherInside, isSuite, contains⟩ := (lists.surrounds_iff inside).mp surrounds
    have earlier := surroundsBefore other surrounds
    rw [unreversed, List.mem_append, List.mem_cons, List.mem_reverse, List.mem_reverse] at earlier
    rcases earlier with first | same | between
    · rw [unreversed] at sortedBefore
      exact lists.nearer_of_precedes ownerInside otherInside
        ((List.pairwise_append.mp sortedBefore).2.2 other (List.mem_reverse.mpr first) owner
          List.mem_cons_self)
    · exact absurd same different
    · have failsThere := fails other between
      rw [isSuite, contains] at failsThere
      cases failsThere

/-- **The parent of a place is the innermost of all suites of the list around it**, whatever order
the list has and whatever its members were linked to before; the places at the top are those with no
suite around. -/
theorem Lists.parent_link {place : Nat} (inside : place < candidates.length) :
    (∀ owner, ((link members numbers).member place).parent = some owner ↔
        IsInnermost candidates candidates[place] owner) ∧
      (((link members numbers).member place).parent = none ↔
        ∀ other, ¬ Surrounds candidates candidates[place] other) ∧
      (place ∈ (link members numbers).roots ↔
        candidates[place].isHook = false ∧
          ∀ other, ¬ Surrounds candidates candidates[place] other) ∧
      (place ∈ (link members numbers).rootHooks ↔
        candidates[place].isHook = true ∧
          ∀ other, ¬ Surrounds candidates candidates[place] other) := by
  have linked := lists.linked
  have listed : place < (link members numbers).size := by
    rw [lists.size]
    exact inside
  have spec := lists.parent_spec ordered inside ((linked.mem_parents listed _).mpr rfl)
  have free : ((link members numbers).member place).parent = none ↔
      ∀ other, ¬ Surrounds candidates candidates[place] other := by
    cases found : ((link members numbers).member place).parent with
    | none =>
      rw [found] at spec
      exact ⟨fun _ => spec, fun _ => rfl⟩
    | some owner =>
      rw [found] at spec
      exact ⟨fun none => absurd none (Option.some_ne_none _),
        fun free => absurd (IsInnermost.surrounds spec) (free owner)⟩
  refine ⟨fun owner => ⟨fun found => ?_, fun innermost => ?_⟩, free, ?_, ?_⟩
  · rw [found] at spec
    exact spec
  · cases found : ((link members numbers).member place).parent with
    | none => exact absurd innermost.surrounds (free.mp found owner)
    | some other =>
      rw [found] at spec
      rw [IsInnermost.unique spec innermost]
  · rw [linked.roots, linked.mem_attachedTo, lists.candidate_link inside, free]
    exact and_iff_right listed
  · rw [linked.rootHooks, linked.mem_attachedTo, lists.candidate_link inside, free]
    exact and_iff_right listed

end Link

/-! ### Suites that overlap -/

/-- Two suites that overlap, listed behind a test that lies in both. -/
def overlapping : List Candidate :=
  [spanning (.block .test) 30 40, spanning (.block .suite) 20 60, spanning (.block .suite) 0 50]

/-- The same candidates with links from an earlier list. -/
def overlappingMembers : Array Member :=
  (overlapping.map fun candidate =>
    { Member.ofCandidate candidate with
      place := some 7, parent := some 2, depth := 3, children := [0, 1] }).toArray

/-- The test belongs to the suite that starts last, although the other one ends first. -/
theorem parent_link_overlapping :
    Lists overlappingMembers [0, 1, 2] overlapping ∧
      (∀ candidate ∈ overlapping, candidate.startOffset ≤ candidate.endOffset) ∧
      0 < overlapping.length ∧
      ((link overlappingMembers [0, 1, 2]).member 0).parent = some 1 := by
  have lists : Lists overlappingMembers [0, 1, 2] overlapping := ⟨by decide, by decide⟩
  have ordered : ∀ candidate ∈ overlapping, candidate.startOffset ≤ candidate.endOffset := by decide
  have inside : 0 < overlapping.length := by decide
  refine ⟨lists, ordered, inside, ((lists.parent_link ordered inside).1 1).mpr ⟨?_, ?_⟩⟩
  · exact ⟨_, rfl, rfl, rfl⟩
  · rintro (_ | _ | _ | other) ⟨outer, found, isSuite, _⟩ different
    · cases found
      cases isSuite
    · exact absurd rfl different
    · exact ⟨_, _, rfl, rfl, .inl (by decide)⟩
    · cases found

end TestOutline.Forest
