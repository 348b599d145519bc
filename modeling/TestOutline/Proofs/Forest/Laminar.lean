/-
**Ranges that do not cross.**

Where any two candidates lie beside each other or one strictly inside the other, the walk over their
forest is in the order of the source.

* `Lists.ends_before_sibling`: what lies behind a suite with the same owner starts after the suite
  has ended.
* `Lists.placesUnder_increasing`: trees are in the order of the source, by induction on the links
  below an owner.
* `Lists.walk_of_increasing`: candidates that are listed in the order of the source are visited in
  it.
-/

import TestOutline.Proofs.Forest.Innermost
import TestOutline.Proofs.Forest.Trees

namespace TestOutline.Forest

/-- **Two candidates do not cross**: one ends before the other starts, or lies strictly inside
it. -/
def Apart (left right : Candidate) : Prop :=
  left.endOffset ≤ right.startOffset ∨ right.endOffset ≤ left.startOffset ∨
    left.contains right = true ∨ right.contains left = true

theorem Apart.symm {left right : Candidate} (apart : Apart left right) : Apart right left := by
  rcases apart with before | behind | around | inside
  · exact .inr (.inl before)
  · exact .inl behind
  · exact .inr (.inr (.inr around))
  · exact .inr (.inr (.inl inside))

/-- **Candidates none of which is empty and no two of which cross.** -/
structure Laminar (candidates : List Candidate) : Prop where
  nonempty : ∀ candidate ∈ candidates, candidate.startOffset < candidate.endOffset
  apart : candidates.Pairwise Apart

variable {candidates : List Candidate}

theorem Laminar.apart_of_ne (laminar : Laminar candidates) {place other : Nat}
    (inside : place < candidates.length) (otherInside : other < candidates.length)
    (different : place ≠ other) :
    Apart candidates[place] candidates[other] := by
  have apart := List.pairwise_iff_getElem.mp laminar.apart
  rcases Nat.lt_or_gt_of_ne different with before | behind
  · exact apart place other inside otherInside before
  · exact (apart other place otherInside inside behind).symm

/-- What stands in the trees below an owner is a place that is linked to the owner, or lies inside
one. -/
theorem mem_placesUnder {forest : Forest} {links : List ParentLink}
    (part : ∀ link ∈ links, link ∈ forest.parents) {owner : Option Nat} {place : Nat}
    (member : place ∈ forest.placesUnder links owner) :
    ∃ top, (top, owner) ∈ links ∧
      (place = top ∨ (forest.candidate top).contains (forest.candidate place) = true) := by
  induction links generalizing owner with
  | nil => cases member
  | cons link rest ih =>
    have partRest : ∀ later ∈ rest, later ∈ forest.parents := fun later member =>
      part later (List.mem_cons_of_mem _ member)
    have beside : place ∈ forest.placesUnder rest owner → ∃ top, (top, owner) ∈ link :: rest ∧
        (place = top ∨ (forest.candidate top).contains (forest.candidate place) = true) := by
      intro member
      obtain ⟨top, found, inside⟩ := ih partRest member
      exact ⟨top, List.mem_cons_of_mem _ found, inside⟩
    rw [placesUnder_cons] at member
    split at member
    · next here =>
      obtain ⟨first, parent⟩ := link
      obtain ⟨rfl, _⟩ := here
      rw [List.mem_cons, List.mem_append] at member
      rcases member with rfl | below | others
      · exact ⟨place, List.mem_cons_self, .inl rfl⟩
      · obtain ⟨top, found, inside⟩ := ih partRest below
        have around := (owner_of_mem_parents (partRest _ found)).2.2
        refine ⟨first, List.mem_cons_self, .inr ?_⟩
        rcases inside with rfl | inside
        · exact around
        · exact Candidate.contains_trans around inside
      · exact beside others
    · exact beside member

section Link

variable {members : Array Member} {numbers : List Nat} (lists : Lists members numbers candidates)
  (laminar : Laminar candidates)

include lists laminar

/-- The forest of candidates that do not cross: any two places are apart, and none is empty. -/
theorem Lists.apart_link {place other : Nat} (inside : place < (link members numbers).size)
    (otherInside : other < (link members numbers).size) (different : place ≠ other) :
    Apart ((link members numbers).candidate place) ((link members numbers).candidate other) := by
  rw [lists.size] at inside otherInside
  rw [lists.candidate_link inside, lists.candidate_link otherInside]
  exact laminar.apart_of_ne inside otherInside different

theorem Lists.nonempty_link {place : Nat} (inside : place < (link members numbers).size) :
    ((link members numbers).candidate place).startOffset <
      ((link members numbers).candidate place).endOffset := by
  rw [lists.size] at inside
  rw [lists.candidate_link inside]
  exact laminar.nonempty _ (List.getElem_mem inside)

/-- Of two places the one that precedes starts first. -/
theorem Lists.starts_before {place later : Nat} (inside : place < (link members numbers).size)
    (laterInside : later < (link members numbers).size) (different : place ≠ later)
    (precedes : (link members numbers).Precedes place later) :
    ((link members numbers).candidate place).startOffset <
      ((link members numbers).candidate later).startOffset := by
  have starts := precedes.starts
  have nonempty := lists.nonempty_link laminar inside
  have laterNonempty := lists.nonempty_link laminar laterInside
  rcases lists.apart_link laminar inside laterInside
      different with before | behind | around | within
  · omega
  · omega
  · exact (Candidate.contains_iff.mp around).1
  · exact absurd within precedes.not_contains

/-- **What lies behind a suite with the same owner starts after the suite has ended**: inside the
suite it would have been linked to the suite. -/
theorem Lists.ends_before_sibling {place later : Nat} {owner : Option Nat}
    (first : (place, owner) ∈ (link members numbers).parents)
    (second : (later, owner) ∈ (link members numbers).parents) (different : place ≠ later)
    (precedes : (link members numbers).Precedes place later)
    (isSuite : ((link members numbers).candidate place).isSuite = true) :
    ((link members numbers).candidate place).endOffset ≤
      ((link members numbers).candidate later).startOffset := by
  have inside : place < (link members numbers).size := inside_of_mem_parents first
  have laterInside : later < (link members numbers).size := inside_of_mem_parents second
  have laterNonempty := lists.nonempty_link laminar laterInside
  have starts := precedes.starts
  rcases lists.apart_link laminar inside laterInside
      different with before | behind | around | within
  · exact before
  · omega
  · exfalso
    have listed : later < candidates.length := by
      rw [← lists.size]
      exact laterInside
    have placeListed : place < candidates.length := by
      rw [← lists.size]
      exact inside
    have spec := lists.parent_spec
      (fun candidate member => Int.le_of_lt (laminar.nonempty candidate member)) listed second
    have surrounds := (lists.surrounds_iff listed).mpr ⟨placeListed, isSuite, around⟩
    cases owner with
    | none => exact spec place surrounds
    | some owner =>
      -- The owner lies around the suite, so that the suite is nearer.
      obtain ⟨_, _, contains⟩ := owner_of_mem_parents first
      have notItself : place ≠ owner := by
        rintro rfl
        rw [Candidate.contains_iff] at contains
        omega
      obtain ⟨near, far, foundNear, foundFar, nearer⟩ :=
        IsInnermost.nearest spec place surrounds notItself
      obtain ⟨ownerListed, rfl⟩ := List.getElem?_eq_some_iff.mp foundNear
      obtain ⟨_, rfl⟩ := List.getElem?_eq_some_iff.mp foundFar
      rw [lists.candidate_link ownerListed, lists.candidate_link placeListed,
        Candidate.contains_iff] at contains
      omega
  · exact absurd within precedes.not_contains

/-- **Trees are in the order of the source**: below an owner a place comes before what it owns, and
all of that before the next place. -/
theorem Lists.placesUnder_increasing {links : List ParentLink}
    (part : ∀ note ∈ links, note ∈ (link members numbers).parents)
    (precedes : (links.map Prod.fst).Pairwise (link members numbers).Precedes)
    (nodup : (links.map Prod.fst).Nodup) (owner : Option Nat) :
    ((link members numbers).placesUnder links owner).Pairwise fun left right =>
      ((link members numbers).candidate left).startOffset <
        ((link members numbers).candidate right).startOffset := by
  induction links generalizing owner with
  | nil => exact List.Pairwise.nil
  | cons here rest ih =>
    have partRest : ∀ later ∈ rest, later ∈ (link members numbers).parents := fun later member =>
      part later (List.mem_cons_of_mem _ member)
    have herePart := part here List.mem_cons_self
    rw [List.map_cons, List.pairwise_cons] at precedes
    rw [List.map_cons, List.nodup_cons] at nodup
    have increasing := ih partRest precedes.2 nodup.2
    have behind : ∀ later owner, (later, owner) ∈ rest → here.1 ≠ later ∧
        (link members numbers).Precedes here.1 later := by
      intro later owner member
      have listed : later ∈ rest.map Prod.fst := List.mem_map_of_mem member
      exact ⟨fun same => nodup.1 (same ▸ listed), precedes.1 later listed⟩
    -- All places in the trees behind start later than the place itself.
    have behindPlaces : ∀ owner, ∀ place ∈ (link members numbers).placesUnder rest owner,
        ((link members numbers).candidate here.1).startOffset <
          ((link members numbers).candidate place).startOffset := by
      intro owner place member
      obtain ⟨top, found, inside⟩ := mem_placesUnder partRest member
      obtain ⟨different, topPrecedes⟩ := behind top owner found
      have topInside : top < (link members numbers).size := inside_of_mem_parents (partRest _ found)
      have first :=
        lists.starts_before laminar (inside_of_mem_parents herePart) topInside different topPrecedes
      rcases inside with rfl | inside
      · exact first
      · have := (Candidate.contains_iff.mp inside).1
        omega
    rw [placesUnder_cons]
    split
    · next attached =>
      rw [List.pairwise_cons, List.pairwise_append]
      refine ⟨fun place member => ?_, increasing _, increasing _, fun left below right beside => ?_⟩
      · rcases List.mem_append.mp member with below | beside
        · exact behindPlaces _ place below
        · exact behindPlaces _ place beside
      · obtain ⟨child, childFound, leftInside⟩ := mem_placesUnder partRest below
        obtain ⟨sibling, siblingFound, rightInside⟩ := mem_placesUnder partRest beside
        obtain ⟨_, isSuite, around⟩ := owner_of_mem_parents (partRest _ childFound)
        obtain ⟨different, siblingPrecedes⟩ := behind sibling owner siblingFound
        have ends := lists.ends_before_sibling laminar (attached.1 ▸ herePart)
          (partRest _ siblingFound) different
          siblingPrecedes isSuite
        have leftListed : left < (link members numbers).size := by
          obtain ⟨note, noteFound, rfl⟩ := List.mem_map.mp (listed_of_mem_placesUnder below)
          exact inside_of_mem_parents (partRest note noteFound)
        have leftNonempty := lists.nonempty_link laminar leftListed
        have leftAround : ((link members numbers).candidate here.1).contains
            ((link members numbers).candidate left) = true := by
          rcases leftInside with rfl | inside
          · exact around
          · exact Candidate.contains_trans around inside
        rw [Candidate.contains_iff] at leftAround
        have rightStarts : ((link members numbers).candidate sibling).startOffset ≤
            ((link members numbers).candidate right).startOffset := by
          rcases rightInside with rfl | inside
          · exact Int.le_refl _
          · exact Int.le_of_lt (Candidate.contains_iff.mp inside).1
        omega
    · exact increasing owner

/-- **The walk is in the order of the source.** -/
theorem Lists.walk_increasing : ∃ places, (link members numbers).walk = some places ∧
    places.Perm ((List.range candidates.length).filter fun place =>
      !((link members numbers).candidate place).isHook) ∧
    places.Pairwise fun left right =>
      ((link members numbers).candidate left).startOffset <
        ((link members numbers).candidate right).startOffset := by
  obtain ⟨places, walked, perm⟩ := lists.linked.walk_perm
  have same : places = (link members numbers).placesUnder (link members numbers).parents none :=
    Option.some.inj (walked.symm.trans lists.linked.walk_placesUnder)
  refine ⟨places, walked, ?_, ?_⟩
  · rw [← lists.size]
    exact perm
  · rw [same]
    refine lists.placesUnder_increasing laminar (fun _ => id) ?_ ?_ none
    · rw [parents_fst]
      exact order_precedes
    · rw [parents_fst]
      exact order_nodup

/-- **Candidates that are listed in the order of the source are visited in it.** -/
theorem Lists.walk_of_increasing
    (increasing : candidates.Pairwise fun left right => left.startOffset < right.startOffset) :
    (link members numbers).walk = some ((List.range candidates.length).filter fun place =>
      !((link members numbers).candidate place).isHook) := by
  obtain ⟨places, walked, perm, sorted⟩ := lists.walk_increasing laminar
  rw [walked]
  have listed : (List.range candidates.length).Pairwise fun left right =>
      ((link members numbers).candidate left).startOffset <
        ((link members numbers).candidate right).startOffset := by
    rw [List.pairwise_iff_getElem]
    intro left right leftInside rightInside before
    rw [List.length_range] at leftInside rightInside
    rw [List.getElem_range, List.getElem_range, lists.candidate_link leftInside,
      lists.candidate_link rightInside]
    exact List.pairwise_iff_getElem.mp increasing left right leftInside rightInside before
  congr 1
  refine perm.eq_of_pairwise (fun left right _ _ first second => ?_) sorted (listed.filter _)
  omega

end Link

end TestOutline.Forest
