/-
**Lists in another order.**

Places are where candidates are listed, so that all links of a forest change when the list is put in
another order. Where no two candidates have the same range, they change by the renaming of the
places and in no other way.

* `StandsFor`: places of one forest that stand for those of another one with the same candidates.
* `StandsFor.order_eq`: the order of the links is the renamed one, since ranges decide it.
* `StandsFor.parentsFrom_eq`: the step of the sweep. Which suites are open and which of them is the
  parent is seen from the candidates alone; the run is `StandsFor.parents_eq`.
* `StandsFor.renamed`: all that the two forests show is the same up to the renaming (`Renamed`).
* `Lists.reordered`: a list and the same list in another order.
-/

import Mathlib.Data.List.Perm.Subperm
import TestOutline.Proofs.Forest.Innermost
import TestOutline.Proofs.Forest.WellFormed

namespace TestOutline

namespace Candidate

/-- Where a candidate starts and ends. -/
def range (candidate : Candidate) : Int × Int := (candidate.startOffset, candidate.endOffset)

/-- Candidates of which either comes first have the same range. -/
theorem range_eq_of_comesFirst {left right : Candidate} (first : left.comesFirst right = true)
    (second : right.comesFirst left = true) : left.range = right.range := by
  rw [comesFirst_iff] at first second
  exact Prod.ext (by simp only [range]; omega) (by simp only [range]; omega)

end Candidate

namespace Forest

variable {rename : Nat → Nat} {forest other : Forest}

/-- **Places that stand for those of another forest** with the same candidates. -/
structure StandsFor (rename : Nat → Nat) (forest other : Forest) : Prop where
  injective : Function.Injective rename
  size : other.size = forest.size
  inside : ∀ place < forest.size, rename place < forest.size
  candidate : ∀ place, other.candidate (rename place) = forest.candidate place

/-- **Two forests show the same**, up to the places. -/
structure Renamed (rename : Nat → Nat) (forest other : Forest) : Prop where
  parent : ∀ place < forest.size,
    (other.member (rename place)).parent = (forest.member place).parent.map rename
  depth : ∀ place < forest.size, (other.member (rename place)).depth = (forest.member place).depth
  children : ∀ place < forest.size,
    (other.member (rename place)).children = (forest.member place).children.map rename
  hooks : ∀ place < forest.size, (other.member (rename place)).hooks =
    (forest.member place).hooks.map rename
  roots : other.roots = forest.roots.map rename
  rootHooks : other.rootHooks = forest.rootHooks.map rename
  walk : other.walk = forest.walk.map (List.map rename)
  warnings : ∀ options, other.depthWarnings options = forest.depthWarnings options

/-- A link with its places renamed. -/
def ParentLink.renamed (rename : Nat → Nat) (link : ParentLink) : ParentLink :=
  (rename link.1, link.2.map rename)

/-- The number of places above a place is its depth. -/
theorem Linked.depth_of_lineage (linked : forest.Linked forest.parents) {place : Nat}
    {line : List Nat} (lineage : forest.Lineage place line) (inside : place < forest.size) :
    (forest.member place).depth = line.length := by
  induction lineage with
  | atTop noted => exact linked.wellFormed.depthTop _ inside noted
  | under noted _ ih =>
    have ownerInside := (linked.owner_spec inside noted).1
    rw [linked.wellFormed.depthBelow _ inside _ noted, ih ownerInside, List.length_cons]

namespace StandsFor

variable (stands : StandsFor rename forest other)

include stands

/-! ### The order -/

/-- The renamed places are all places. -/
theorem map_range_perm : ((List.range forest.size).map rename).Perm (List.range other.size) := by
  have nodup : ((List.range forest.size).map rename).Nodup := List.nodup_range.map stands.injective
  have subset : (List.range forest.size).map rename ⊆ List.range other.size := by
    intro place member
    obtain ⟨origin, listed, rfl⟩ := List.mem_map.mp member
    rw [List.mem_range, stands.size]
    exact stands.inside origin (List.mem_range.mp listed)
  refine (List.subperm_of_subset nodup subset).perm_of_length_le (Nat.le_of_eq ?_)
  rw [List.length_map, List.length_range, List.length_range, stands.size]

/-- **The order of the links is the renamed one**, where no two candidates have the same range. -/
theorem order_eq (distinct : ∀ left < forest.size, ∀ right < forest.size,
    (forest.candidate left).range = (forest.candidate right).range → left = right) :
    other.order = forest.order.map rename := by
  have perm : other.order.Perm (forest.order.map rename) :=
    order_perm.trans (stands.map_range_perm.symm.trans (order_perm.symm.map rename))
  have sorted : (forest.order.map rename).Pairwise fun left right =>
      (other.candidate left).comesFirst (other.candidate right) = true := by
    rw [List.pairwise_map]
    refine order_precedes.imp fun precedes => ?_
    rw [stands.candidate, stands.candidate]
    exact precedes.1
  refine perm.eq_of_pairwise (fun left right leftMember rightMember first second => ?_)
    (order_precedes.imp And.left) sorted
  obtain ⟨leftOrigin, leftListed, rfl⟩ := List.mem_map.mp (perm.mem_iff.mp leftMember)
  obtain ⟨rightOrigin, rightListed, rfl⟩ := List.mem_map.mp rightMember
  rw [stands.candidate, stands.candidate] at first second
  rw [distinct leftOrigin (mem_order.mp leftListed) rightOrigin (mem_order.mp rightListed)
    (Candidate.range_eq_of_comesFirst first second)]

/-! ### Finding parents -/

theorem stillOpen_eq (opened : List Nat) (place : Nat) :
    other.stillOpen (opened.map rename) (rename place) =
      (forest.stillOpen opened place).map rename := by
  unfold stillOpen
  rw [List.dropWhile_map]
  simp only [Function.comp_def, stands.candidate]

theorem parentAmong_eq (opened : List Nat) (place : Nat) :
    other.parentAmong (opened.map rename) (rename place) =
      (forest.parentAmong opened place).map rename := by
  unfold parentAmong
  rw [List.find?_map]
  simp only [Function.comp_def, stands.candidate]

/-- **A sweep over renamed places finds the renamed parents.** -/
theorem parentsFrom_eq (opened places : List Nat) :
    other.parentsFrom (opened.map rename) (places.map rename) =
      (forest.parentsFrom opened places).map (ParentLink.renamed rename) := by
  induction places generalizing opened with
  | nil => rfl
  | cons place rest ih =>
    have later :=
      ih (if (forest.candidate place).isSuite then place :: forest.stillOpen opened place
      else forest.stillOpen opened place)
    rw [List.map_cons, parentsFrom, parentsFrom, List.map_cons, stands.stillOpen_eq,
      stands.parentAmong_eq, stands.candidate, ← later, apply_ite (List.map rename), List.map_cons]
    rfl

theorem parents_eq (ordered : other.order = forest.order.map rename) :
    other.parents = forest.parents.map (ParentLink.renamed rename) := by
  rw [parents, ordered]
  exact stands.parentsFrom_eq [] forest.order

/-! ### What links show -/

/-- A renamed link leads to a renamed owner where the link leads to the owner. -/
theorem leads_iff (link : ParentLink) (owner : Option Nat) (isHook : Bool) :
    ((link.renamed rename).2 = owner.map rename ∧
      (other.candidate (link.renamed rename).1).isHook = isHook) ↔
      link.2 = owner ∧ (forest.candidate link.1).isHook = isHook := by
  rw [ParentLink.renamed, stands.candidate, (Option.map_injective stands.injective).eq_iff]

theorem attachedTo_eq (links : List ParentLink) (isHook : Bool) (owner : Option Nat) :
    other.attachedTo (links.map (ParentLink.renamed rename)) isHook (owner.map rename) =
      (forest.attachedTo links isHook owner).map rename := by
  unfold attachedTo
  rw [List.filter_map, List.map_map, List.map_map]
  congr 1
  refine List.filter_congr fun link _ => ?_
  rw [Bool.eq_iff_iff]
  simp only [Function.comp_apply, Bool.and_eq_true, beq_iff_eq]
  exact stands.leads_iff link owner isHook

theorem treesUnder_eq (owner : Option Nat) (links : List ParentLink) :
    other.treesUnder (owner.map rename) (links.map (ParentLink.renamed rename)) =
      Tree.mapAll rename (forest.treesUnder owner links) := by
  induction links generalizing owner with
  | nil => rfl
  | cons link rest ih =>
    have below := ih (some link.1)
    rw [List.map_cons, treesUnder, treesUnder, ih owner]
    by_cases here : link.2 = owner ∧ (forest.candidate link.1).isHook = false
    · rw [if_pos here, if_pos ((stands.leads_iff link owner false).mpr here), Tree.mapAll, Tree.map,
        ← below]
      rfl
    · rw [if_neg here, if_neg fun renamed => here ((stands.leads_iff link owner false).mp renamed)]

theorem placesUnder_eq (links : List ParentLink) (owner : Option Nat) :
    other.placesUnder (links.map (ParentLink.renamed rename)) (owner.map rename) =
      (forest.placesUnder links owner).map rename := by
  unfold placesUnder
  rw [stands.treesUnder_eq, ← Tree.walk_eq_preorderAll, ← Tree.walk_eq_preorderAll,
    Tree.walk_mapAll, List.map_map, List.map_map]
  exact List.map_congr_left fun tree _ => Tree.label_map rename tree

section Linked

variable (linked : forest.Linked forest.parents) (otherLinked : other.Linked other.parents)
  (parents : other.parents = forest.parents.map (ParentLink.renamed rename))

include linked otherLinked parents

omit stands in
theorem parent_eq {place : Nat} (inside : place < forest.size) :
    (other.member (rename place)).parent = (forest.member place).parent.map rename := by
  have listed := (linked.mem_parents inside _).mpr rfl
  have renamed : (rename place, (forest.member place).parent.map rename) ∈ other.parents := by
    rw [parents]
    exact List.mem_map_of_mem listed
  exact otherLinked.parent _ renamed

omit stands in
/-- The places above a renamed place are the renamed ones. -/
theorem lineage_map {place : Nat} {line : List Nat} (lineage : forest.Lineage place line)
    (inside : place < forest.size) : other.Lineage (rename place) (line.map rename) := by
  induction lineage with
  | atTop noted =>
    refine .atTop ?_
    rw [parent_eq linked otherLinked parents inside, noted, Option.map_none]
  | under noted _ ih =>
    refine .under ?_ (ih (linked.owner_spec inside noted).1)
    rw [parent_eq linked otherLinked parents inside, noted, Option.map_some]

theorem depth_eq {place : Nat} (inside : place < forest.size) :
    (other.member (rename place)).depth = (forest.member place).depth := by
  obtain ⟨line, lineage, _, depth⟩ := linked.wellFormed.lineage place inside
  have renamedInside : rename place < other.size := by
    rw [stands.size]
    exact stands.inside place inside
  have renamedLineage := lineage_map linked otherLinked parents lineage inside
  rw [otherLinked.depth_of_lineage renamedLineage renamedInside, List.length_map, depth]

/-- **Two forests with the same candidates show the same**, up to the places. -/
theorem renamed : Renamed rename forest other := by
  have renamedInside : ∀ place < forest.size, rename place < other.size := fun place inside => by
    rw [stands.size]
    exact stands.inside place inside
  have attached : ∀ isHook owner, other.attachedTo other.parents isHook (owner.map rename) =
      (forest.attachedTo forest.parents isHook owner).map rename := by
    rw [parents]
    exact stands.attachedTo_eq forest.parents
  have walks : other.walk = forest.walk.map (List.map rename) := by
    rw [otherLinked.walk_placesUnder, linked.walk_placesUnder, parents, Option.map_some]
    exact congrArg some (stands.placesUnder_eq forest.parents none)
  constructor
  case parent => exact fun place => parent_eq linked otherLinked parents
  case depth => exact fun place => stands.depth_eq linked otherLinked parents
  case children =>
    intro place inside
    rw [otherLinked.children _ (renamedInside place inside), linked.children place inside]
    exact attached false (some place)
  case hooks =>
    intro place inside
    rw [otherLinked.hooks _ (renamedInside place inside), linked.hooks place inside]
    exact attached true (some place)
  case roots =>
    rw [otherLinked.roots, linked.roots]
    exact attached false none
  case rootHooks =>
    rw [otherLinked.rootHooks, linked.rootHooks]
    exact attached true none
  case walk => exact walks
  case warnings =>
    intro options
    obtain ⟨places, walked, perm⟩ := linked.walk_perm
    have inside : ∀ place ∈ places, place < forest.size := fun place member =>
      List.mem_range.mp (List.mem_filter.mp (perm.mem_iff.mp member)).1
    have deep : ∀ limit : Int, (places.map rename).filter
        (fun place => limit < (other.member place).depth) =
          (places.filter fun place => limit < (forest.member place).depth).map rename := by
      intro limit
      rw [List.filter_map]
      congr 1
      refine List.filter_congr fun place member => ?_
      rw [Function.comp_apply, stands.depth_eq linked otherLinked parents (inside place member)]
    unfold depthWarnings
    rw [walks, walked]
    cases options.maxNestingDepth with
    | none => rfl
    | some limit =>
      have same : ((places.map rename).filter fun place => limit < (other.member place).depth).map
          other.candidate =
          (places.filter fun place => limit < (forest.member place).depth).map
            forest.candidate := by
        rw [deep limit, List.map_map]
        exact List.map_congr_left fun place _ => stands.candidate place
      exact congrArg (fun candidates => Visit.ended (candidates.mapM (sayDepth limit))) same

end Linked

end StandsFor

/-! ### A list in another order -/

/-- Where the candidate at a place of one list stands in another list. There is nothing outside a
list, so that places there stand for themselves. -/
def placeIn (first second : List Candidate) (place : Nat) : Nat :=
  match first[place]? with
  | some candidate => second.idxOf candidate
  | none => place

section Reordered

variable {first second : List Candidate} (perm : second.Perm first)
  (distinct : (first.map Candidate.range).Nodup)

include perm

theorem getElem?_placeIn {place : Nat} (inside : place < first.length) :
    second[placeIn first second place]? = some first[place] := by
  have member : first[place] ∈ second := perm.mem_iff.mpr (List.getElem_mem inside)
  rw [placeIn, List.getElem?_eq_getElem inside]
  show second[second.idxOf first[place]]? = some first[place]
  rw [List.getElem?_eq_getElem (List.idxOf_lt_length_iff.mpr member), List.getElem_idxOf]

theorem placeIn_lt {place : Nat} (inside : place < first.length) :
    placeIn first second place < first.length := by
  have found := List.getElem?_eq_some_iff.mp (getElem?_placeIn perm inside)
  rw [← perm.length_eq]
  exact found.1

omit perm in
theorem placeIn_outside (second : List Candidate) {place : Nat} (outside : first.length ≤ place) :
    placeIn first second place = place := by
  rw [placeIn, List.getElem?_eq_none outside]

include distinct

theorem placeIn_injective : Function.Injective (placeIn first second) := by
  intro left right same
  rcases Nat.lt_or_ge left first.length with leftInside | leftOutside <;>
    rcases Nat.lt_or_ge right first.length with rightInside | rightOutside
  · have candidates := (getElem?_placeIn perm leftInside).symm.trans
      ((congrArg (second[·]?) same).trans (getElem?_placeIn perm rightInside))
    exact (List.Nodup.getElem_inj_iff (.of_map _ distinct)).mp (Option.some.inj candidates)
  · have := placeIn_lt perm leftInside
    rw [same, placeIn_outside second rightOutside] at this
    omega
  · have := placeIn_lt perm rightInside
    rw [← same, placeIn_outside second leftOutside] at this
    omega
  · rw [← placeIn_outside second leftOutside, same, placeIn_outside second rightOutside]

variable {members others : Array Member} {numbers otherNumbers : List Nat}
  (left : Lists members numbers first)
  (right : Lists others otherNumbers second)

include left right

theorem Lists.standsFor :
    StandsFor (placeIn first second) (link members numbers) (link others otherNumbers) where
  injective := placeIn_injective perm distinct
  size := by rw [left.size, right.size, perm.length_eq]
  inside place inside := by
    rw [left.size] at inside ⊢
    exact placeIn_lt perm inside
  candidate place := by
    rcases Nat.lt_or_ge place first.length with inside | outside
    · obtain ⟨otherInside, same⟩ := List.getElem?_eq_some_iff.mp (getElem?_placeIn perm inside)
      rw [right.candidate_link otherInside, left.candidate_link inside, same]
    · have outsideSecond : second.length ≤ place := by
        rw [perm.length_eq]
        exact outside
      rw [placeIn_outside second outside, candidate, candidate,
        member_outside (by rw [right.size]; exact outsideSecond),
        member_outside (by rw [left.size]; exact outside)]

/-- **The order of a list does not matter**, where no two of its candidates have the same range:
each candidate has the same parent, the same depth, the same children and the same hooks in the same
order, wherever it is listed and whatever the members were linked to before; so have the top, the
walk and what is said about depth. -/
theorem Lists.reordered :
    (∀ place (inside : place < first.length), second[placeIn first second place]? =
      some first[place]) ∧
      Function.Injective (placeIn first second) ∧
      Renamed (placeIn first second) (link members numbers) (link others otherNumbers) := by
  have stands := Lists.standsFor perm distinct left right
  have told : ∀ place < (link members numbers).size, ∀ other < (link members numbers).size,
      ((link members numbers).candidate place).range =
        ((link members numbers).candidate other).range →
        place = other := by
    intro place inside other otherInside same
    rw [left.size] at inside otherInside
    rw [left.candidate_link inside, left.candidate_link otherInside] at same
    have candidates := List.inj_on_of_nodup_map distinct (List.getElem_mem inside)
      (List.getElem_mem otherInside) same
    exact (List.Nodup.getElem_inj_iff (.of_map _ distinct)).mp candidates
  exact ⟨fun place => getElem?_placeIn perm, stands.injective,
    stands.renamed left.linked right.linked (stands.parents_eq (stands.order_eq told))⟩

end Reordered

/-- Two suites that overlap and a test in both, from the first to the last and the other way around:
the test is listed at the other end, and so is its suite. -/
theorem reordered_overlapping :
    Lists overlappingMembers [0, 1, 2] overlapping ∧
    Lists overlappingMembers [2, 1, 0] overlapping.reverse ∧
      overlapping.reverse.Perm overlapping ∧ (overlapping.map Candidate.range).Nodup ∧
      [0, 1, 2].map (placeIn overlapping overlapping.reverse) = [2, 1, 0] ∧
      (link overlappingMembers [2, 1, 0]).roots =
        (link overlappingMembers [0, 1, 2]).roots.map (placeIn overlapping overlapping.reverse) ∧
      ((link overlappingMembers [2, 1, 0]).member 2).parent =
        ((link overlappingMembers [0, 1, 2]).member 0).parent.map
          (placeIn overlapping overlapping.reverse) := by
  have left : Lists overlappingMembers [0, 1, 2] overlapping := ⟨by decide, by decide⟩
  have right : Lists overlappingMembers [2, 1, 0] overlapping.reverse := ⟨by decide, by decide⟩
  have perm : overlapping.reverse.Perm overlapping := List.reverse_perm _
  have distinct : (overlapping.map Candidate.range).Nodup := by decide
  obtain ⟨_, _, renamed⟩ := Lists.reordered perm distinct left right
  exact ⟨left, right, perm, distinct,
    by decide, renamed.roots, renamed.parent 0 (by rw [left.size]; decide)⟩

end Forest

end TestOutline
