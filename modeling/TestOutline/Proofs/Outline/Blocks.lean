/-
**The blocks of a forest.**

Blocks are made by recursion over the links of a forest, and making one fails at a member of the
wrong kind.

* `blockAt_eq`: the block of a place is the tree of the place, with the head of each member in it.
* `partsOf_eq`: the blocks of a forest are its trees, and no member is of the wrong kind.
-/

import TestOutline.Outline.Extraction
import TestOutline.Proofs.Forest.Judged

namespace TestOutline

open TestOutline.Tree (preorder preorderAll mem_preorder mem_preorderAll_cons map mapAll)

theorem Visit.answer_pure {α : Type} (value : α) : (pure value : Visit α).answer = .ok value := rfl

namespace Outline

variable {source : Source} {forest : Forest}

/-- The hooks that the hooks among some candidates make. -/
def hooksOf (source : Source) (candidates : List Candidate) : List Hook :=
  candidates.filterMap fun candidate => (hookOf source candidate).toOption

/-- The head of the block that a place makes. -/
def headAt (source : Source) (forest : Forest) (place : Nat) : BlockHead :=
  headOf (if (forest.candidate place).isSuite then .suite else .test)
    (hooksOf source ((forest.member place).hooks.map forest.candidate)) (forest.member place)

/-- Candidates that are hooks make hooks. -/
theorem hooksAt_eq {places : List Nat}
    (hooks : ∀ place ∈ places, (forest.candidate place).isHook = true) :
    hooksAt source forest places = .ok (hooksOf source (places.map forest.candidate)) := by
  unfold hooksAt hooksOf
  induction places with
  | nil => rfl
  | cons place rest ih =>
    have isHook := hooks place List.mem_cons_self
    rw [List.mapM_cons, ih fun later member => hooks later (List.mem_cons_of_mem _ member),
      List.map_cons]
    unfold hookOf
    unfold Candidate.isHook at isHook
    cases kind : (forest.candidate place).kind with
    | block kind =>
      rw [kind] at isHook
      cases isHook
    | hook hookKind =>
      rw [List.filterMap_cons_some (by rw [kind]; rfl)]
      rfl

/-- What is no hook is a suite or a test. -/
theorem kind_eq_block {candidate : Candidate} (noHook : candidate.isHook = false) :
    candidate.kind = .block (if candidate.isSuite then .suite else .test) := by
  unfold Candidate.isHook at noHook
  unfold Candidate.isSuite
  cases kind : candidate.kind with
  | block blockKind => cases blockKind <;> rfl
  | hook hookKind =>
    rw [kind] at noHook
    cases noHook

theorem blockKindOf_eq {candidate : Candidate} (noHook : candidate.isHook = false) :
    blockKindOf candidate = .ok (if candidate.isSuite then .suite else .test) := by
  rw [blockKindOf, kind_eq_block noHook]

/-- What the links of the members in a tree have to be for it to be made into a block. -/
structure Shows (forest : Forest) (tree : Tree Nat) : Prop where
  children : (forest.member tree.label).children = tree.children.map Tree.label
  noHook : (forest.candidate tree.label).isHook = false
  hooks : ∀ hook ∈ (forest.member tree.label).hooks, (forest.candidate hook).isHook = true

mutual

/-- **The block of a place is the tree of the place**, with the head of each member in it. -/
theorem blockAt_eq : (tree : Tree Nat) → (∀ inner ∈ preorder tree, Shows forest inner) →
    forest.blockAt source tree.label = pure (map (headAt source forest) tree)
  | .mk place children, shows => by
    have top : Shows forest (.mk place children) := shows _ (mem_preorder.mpr (.inl rfl))
    have inner :=
      blocksAt_eq children fun tree member => shows tree (mem_preorder.mpr (.inr member))
    rw [Forest.blockAt, blockKindOf_eq top.noHook, hooksAt_eq top.hooks, top.children]
    show _ = pure (map (headAt source forest) (.mk place children))
    rw [map]
    show (do
      let blocks ← (children.map Tree.label).mapM (forest.blockAt source)
      pure (Tree.mk (headAt source forest place) blocks)) = _
    rw [inner, pure_bind]

/-- The blocks of some places are their trees. -/
theorem blocksAt_eq :
    (trees : List (Tree Nat)) → (∀ inner ∈ preorderAll trees, Shows forest inner) →
      (trees.map Tree.label).mapM (forest.blockAt source) =
        pure (mapAll (headAt source forest) trees)
  | [], _ => by rw [List.map_nil, List.mapM_nil, mapAll]
  | tree :: rest, shows => by
    have first :=
      blockAt_eq tree fun inner member => shows inner (mem_preorderAll_cons.mpr (.inl member))
    have others :=
      blocksAt_eq rest fun inner member => shows inner (mem_preorderAll_cons.mpr (.inr member))
    rw [List.map_cons, List.mapM_cons, first, others, mapAll, pure_bind, pure_bind]

end

section Linked

variable (linked : forest.Linked forest.parents)

include linked

theorem shows_of_linked {tree : Tree Nat} (member : tree ∈ preorderAll forest.trees) :
    Shows forest tree := by
  obtain ⟨listed, noHook⟩ := Forest.label_mem_of_treesUnder tree member
  rw [Forest.parents_fst, Forest.mem_order] at listed
  refine ⟨?_, noHook, fun hook adopted => ?_⟩
  · rw [← Tree.walk_eq_preorderAll] at member
    exact linked.children_trees member
  · rw [linked.hooks _ listed] at adopted
    exact (linked.mem_attachedTo.mp adopted).2.1

/-- **The parts of a forest are its trees**, once they are judged: no member is of the wrong
kind. -/
theorem partsOf_eq (separate : forest.Separate) (source : Source) (classifier : Classifier) :
    ∃ judged, Forest.Judged classifier forest judged ∧
      partsOf source classifier forest = pure (mapAll (headAt source judged) forest.trees,
        hooksOf source (forest.rootHooks.map forest.candidate)) := by
  obtain ⟨judged, found, given⟩ := linked.classify_judged separate classifier
  have judgedLinked : judged.Linked judged.parents := by
    rw [given.parents]
    exact given.linked linked
  have rootHooks : ∀ hook ∈ judged.rootHooks, (judged.candidate hook).isHook = true := by
    rw [judgedLinked.rootHooks]
    exact fun hook member => (judgedLinked.mem_attachedTo.mp member).2.1
  have tops : judged.roots = judged.trees.map Tree.label := by
    rw [judgedLinked.roots, ← Forest.labels_treesUnder]
    rfl
  refine ⟨judged, given, ?_⟩
  rw [partsOf, found, pure_bind, tops,
    blocksAt_eq judged.trees fun tree => shows_of_linked judgedLinked, hooksAt_eq rootHooks,
    given.trees, given.rootHooks, funext given.candidate]
  rfl

end Linked

end Outline

end TestOutline
