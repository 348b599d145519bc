/-
**Forests that are judged.**

Classification visits a forest and notes at each suite and each test the rule that holds of it.

* `Judged`: what is noted, and that nothing else changes.
* `Linked.classify_judged`: classification ends, and comes to no member of the wrong kind.
* `Judged.linked`: a judged forest has the links that it had before.
-/

import TestOutline.Proofs.Forest.Trees

namespace TestOutline

/-- The rule that holds of a candidate; none holds of a hook. -/
def Classifier.verdict (classifier : Classifier) (candidate : Candidate) : Option Evidence :=
  match candidate.kind with
  | .block kind => classifier.evidence? kind candidate.name candidate.rawBody candidate.startOffset
  | .hook _ => none

/-- A candidate that is no hook can be judged. -/
theorem Classifier.classify_eq {classifier : Classifier} {candidate : Candidate}
    (noHook : candidate.isHook = false) :
    classifier.classify candidate = .ok (classifier.verdict candidate) := by
  unfold Candidate.isHook at noHook
  unfold classify verdict
  cases kind : candidate.kind with
  | block kind => rfl
  | hook kind =>
    rw [kind] at noHook
    cases noHook

namespace Forest

variable {forest judged : Forest} {classifier : Classifier}

/-- **Each suite and each test has the rule that holds of it noted**, and nothing else is
changed. -/
structure Judged (classifier : Classifier) (forest judged : Forest) : Prop where
  size : judged.size = forest.size
  roots : judged.roots = forest.roots
  rootHooks : judged.rootHooks = forest.rootHooks
  member : ∀ place < forest.size, judged.member place =
    if (forest.candidate place).isHook then forest.member place
    else (forest.member place).judged (classifier.verdict (forest.candidate place))

/-- Judging the members at some places: each is judged once, the others are not. -/
theorem judgeAll_spec (classifier : Classifier) (separate : forest.Separate) {places : List Nat}
    (nodup : places.Nodup)
    (blocks : ∀ place ∈ places, place < forest.size ∧ (forest.candidate place).isHook = false) :
    ∃ judged, forest.judgeAll classifier places = .ok judged ∧ judged.size = forest.size ∧
      judged.roots = forest.roots ∧ judged.rootHooks = forest.rootHooks ∧
      ∀ other, judged.member other =
        if other ∈ places
          then (forest.member other).judged (classifier.verdict (forest.candidate other))
        else forest.member other := by
  induction places generalizing forest with
  | nil => exact ⟨forest, rfl, rfl, rfl, rfl, fun other => by simp⟩
  | cons place rest ih =>
    obtain ⟨fresh, nodup⟩ := List.nodup_cons.mp nodup
    obtain ⟨inside, noHook⟩ := blocks place List.mem_cons_self
    let change := Member.judged (classifier.verdict (forest.candidate place))
    have candidates : ∀ other, (forest.modify place change).candidate other =
        forest.candidate other :=
      fun other => candidate_modify (Member.judged_candidate _)
    obtain ⟨judged, found, size, roots, rootHooks, members⟩ := @ih (forest.modify place change)
      separate.modify nodup fun other member => by
        rw [size_modify, candidates]
        exact blocks other (List.mem_cons_of_mem _ member)
    refine ⟨judged, ?_, size.trans size_modify, roots.trans roots_modify,
      rootHooks.trans rootHooks_modify, ?_⟩
    · rw [judgeAll, judge, Classifier.classify_eq noHook]
      exact found
    · intro other
      rw [members other, candidates, member_modify separate inside]
      by_cases same : other = place
      · subst same
        rw [if_neg fresh, if_pos rfl, if_pos List.mem_cons_self]
      · rw [if_neg same]
        simp [same]

/-- **Classification ends and judges each suite and each test**; it meets no hook. -/
theorem Linked.classify_judged (linked : forest.Linked forest.parents) (separate : forest.Separate)
    (classifier : Classifier) : ∃ judged, forest.classify classifier = pure judged ∧
      Judged classifier forest judged := by
  obtain ⟨places, walked, perm⟩ := linked.walk_perm
  have visited : ∀ place, place ∈ places ↔
      place < forest.size ∧ (forest.candidate place).isHook = false := by
    intro place
    rw [perm.mem_iff, List.mem_filter, List.mem_range, Bool.not_eq_true']
  obtain ⟨judged, found, size, roots, rootHooks, members⟩ := judgeAll_spec classifier separate
    (perm.nodup_iff.mpr (List.nodup_range.filter _)) fun place member => (visited place).mp member
  refine ⟨judged, ?_, size, roots, rootHooks, fun place inside => ?_⟩
  · unfold classify
    rw [walked]
    show Visit.ofExcept (forest.judgeAll classifier places) = pure judged
    rw [found]
    rfl
  · rw [members place]
    cases kind : (forest.candidate place).isHook with
    | false => rw [if_pos ((visited place).mpr ⟨inside, kind⟩), if_neg (by simp)]
    | true => rw [if_neg fun member => absurd ((visited place).mp member).2 (by simp [kind]),
        if_pos rfl]

namespace Judged

variable (given : Judged classifier forest judged)

include given

/-- What a judgement keeps of a member is kept of all of them. -/
theorem field {α : Type} {field : Member → α}
    (keeps : ∀ evidence member, field (member.judged evidence) = field member) (place : Nat) :
    field (judged.member place) = field (forest.member place) := by
  by_cases inside : place < forest.size
  · rw [given.member place inside]
    split
    · rfl
    · exact keeps _ _
  · have outside : forest.size ≤ place := Nat.le_of_not_lt inside
    rw [member_outside outside, member_outside (given.size ▸ outside)]

theorem candidate (place : Nat) : judged.candidate place = forest.candidate place :=
  given.field (fun _ _ => rfl) place

theorem parent (place : Nat) : (judged.member place).parent = (forest.member place).parent :=
  given.field (fun _ _ => rfl) place

theorem depth (place : Nat) : (judged.member place).depth = (forest.member place).depth :=
  given.field (fun _ _ => rfl) place

theorem children (place : Nat) : (judged.member place).children = (forest.member place).children :=
  given.field (fun _ _ => rfl) place

theorem hooks (place : Nat) : (judged.member place).hooks = (forest.member place).hooks :=
  given.field (fun _ _ => rfl) place

theorem parents : judged.parents = forest.parents := by
  unfold Forest.parents
  rw [order_congr given.size given.candidate, parentsFrom_congr given.candidate]

theorem trees : judged.trees = forest.trees := by
  unfold Forest.trees
  rw [given.parents, treesUnder_congr given.candidate]

/-- **A judged forest has the links that it had before.** -/
theorem linked {links : List ParentLink} (linked : forest.Linked links) : judged.Linked links where
  parent link member := (given.parent _).trans (linked.parent link member)
  top place member := (given.depth _).trans (linked.top place member)
  below place owner member := by
    rw [given.depth, given.depth]
    exact linked.below place owner member
  unplaced place inside absent := by
    rw [given.parent, given.depth]
    exact linked.unplaced place (given.size ▸ inside) absent
  children place inside := by
    rw [given.children, attachedTo_congr given.candidate]
    exact linked.children place (given.size ▸ inside)
  hooks place inside := by
    rw [given.hooks, attachedTo_congr given.candidate]
    exact linked.hooks place (given.size ▸ inside)
  roots := by
    rw [given.roots, attachedTo_congr given.candidate]
    exact linked.roots
  rootHooks := by
    rw [given.rootHooks, attachedTo_congr given.candidate]
    exact linked.rootHooks

end Judged

end Forest

end TestOutline
