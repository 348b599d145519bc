/-
**The evidence of every block.**

Blocks are judged once, when the forest is linked and the request metadata of the source is known.
Each of them is made of a call in the tree, and what is told of it is the first rule that holds of
this call.

* `Declares`: a call declares a suite or a test, with its name and its function.
* `BlockHead.Tells`: a block tells of such a call, and names the first rule that holds of it.
* `heads_perm`: the heads of the blocks are those of the suites and tests that were collected, in
  some order.
* `blocks_tell`: each block of a tree tells of a call of its own.
* `evidence_characterised`: so does each block of an outline, for the request metadata of the
  outline.
-/

import Mathlib.Data.List.Perm.Basic
import TestOutline.Proofs.Outline.Complete
import TestOutline.Proofs.Outline.Evidence

namespace TestOutline

/-! ### Calls -/

/-- **A call declares a suite or a test**: it is of a function of the test framework, and its first
arguments are a string with the name and a function. -/
structure SyntaxTree.Declares (tree : SyntaxTree) (call : Node) (kind : BlockKind) (name : Text)
    (function : Node) :
    Prop where
  callee : tree.callKind? call = some (.block kind)
  arguments : ∃ literal rest, call.callArguments = literal :: function :: rest ∧
    literal.kind = .string ∧
    tree.stringValue literal = .ok name
  isFunction : function.isFunction = true

namespace Candidate

variable {options : Options} {tree : SyntaxTree} {call : Node} {candidate : Candidate}

theorem ofBlockCall_eq {kind : BlockKind} (callee : tree.callKind? call = some (.block kind))
    (made : ofBlockCall options tree call kind = .ok (some candidate)) :
    ∃ name function, tree.Declares call kind name function ∧
      candidate = ofCall options tree call (.block kind) name function := by
  unfold ofBlockCall at made
  split at made
  · next literal function rest arguments =>
    split at made
    · next both =>
      cases value : tree.stringValue literal with
      | error fault =>
        rw [value] at made
        cases made
      | ok name =>
        rw [value] at made
        cases made
        exact ⟨name, function, ⟨callee, ⟨literal, rest, arguments, both.1, value⟩, both.2⟩, rfl⟩
    · cases made
  · cases made

/-- **A suite or a test that was collected** is made of a call that declares it. -/
theorem ofNode_declares {kind : BlockKind} (made : ofNode options tree call = .ok (some candidate))
    (isBlock : candidate.kind = .block kind) :
    ∃ name function, tree.Declares call kind name function ∧
      candidate = ofCall options tree call (.block kind) name function := by
  obtain ⟨found, _, _, callee, rfl⟩ := ofNode_eq made
  obtain rfl : found = .block kind := isBlock
  rw [ofNode, callee] at made
  exact ofBlockCall_eq callee made

end Candidate

/-! ### Blocks -/

/-- **A block tells of a call** that declares it where it stands, and its evidence is the first rule
that holds of the function of the call as it is written. -/
structure BlockHead.Tells (options : Options) (requests : List MetadataBlock) (tree : SyntaxTree)
    (head : BlockHead) (call : Node) : Prop where
  startOffset : head.startOffset = tree.start call
  endOffset : head.endOffset = tree.stop call
  evidence : ∃ function, tree.Declares call head.kind head.name function ∧
    Classifier.Exercises options requests head.kind head.name
      (Candidate.rawFunctionBody tree function)
      head.startOffset head.evidence
  isRequest : head.isRequest = true ↔ head.evidence ≠ none

namespace Outline

variable {options : Options} {tree : SyntaxTree} {candidates : List Candidate}
  {found : MetadataOutline}
  {outline : Outline}

/-- **The block of a place that is judged** tells of the call that its candidate is made of. -/
theorem headAt_tells {source : Source} {requests : List MetadataBlock} {forest judged : Forest}
    {place : Nat} {call : Node}
    (given : Forest.Judged (.ofOptions options (requests.map (·.endOffset))) forest judged)
    (inside : place < forest.size) (noHook : (forest.candidate place).isHook = false)
    (made : Candidate.ofNode options tree call = .ok (some (forest.candidate place))) :
    (headAt source judged place).Tells options requests tree call := by
  have shows : (headAt source judged place).Shows (forest.candidate place) :=
    headAt_shows given noHook
  have member := given.member place inside
  rw [noHook, if_neg Bool.false_ne_true] at member
  have evidence : (headAt source judged place).evidence =
      (Classifier.ofOptions options (requests.map (·.endOffset))).verdict
        (forest.candidate place) := by
    show (judged.member place).evidence = _
    rw [member]
    rfl
  have isRequest : (headAt source judged place).isRequest =
      (headAt source judged place).evidence.isSome := by
    show (judged.member place).isRequest = (judged.member place).evidence.isSome
    rw [member]
    rfl
  obtain ⟨name, function, declares, same⟩ := Candidate.ofNode_declares made shows.kind
  have named : (headAt source judged place).name = name := by
    rw [shows.name, same, Candidate.ofCall]
  have starts : (headAt source judged place).startOffset = tree.start call := by
    rw [shows.startOffset, same, Candidate.ofCall]
  refine ⟨starts,
    by rw [shows.endOffset, same, Candidate.ofCall], ⟨function, named ▸ declares, ?_⟩, ?_⟩
  · rw [Classifier.verdict, shows.kind] at evidence
    rw [named, starts, ← Classifier.evidence?_eq_iff, evidence, same]
    rfl
  · rw [isRequest, Option.isSome_iff_ne_none]

/-- The heads of the blocks of a tree are those of the suites and tests that were collected. -/
theorem heads_perm (assembled : Assembled options tree candidates found outline) : ∃ judged,
    Forest.Judged (.ofOptions options (outline.requestMetadata.map (·.endOffset)))
      (.ofCandidates candidates) judged ∧
      ((Tree.walk outline.blocks).map Tree.label).Perm
        (((List.range candidates.length).filter fun place =>
          !((Forest.ofCandidates candidates).candidate place).isHook).map
            (headAt tree.source judged)) := by
  obtain ⟨judged, given, blocks⟩ := assembled.blocks
  have lists := Forest.Lists.ofCandidates candidates
  obtain ⟨places, walked, perm⟩ := lists.linked.walk_perm
  have visited := Option.some.inj (lists.linked.walk_eq.symm.trans walked)
  rw [lists.size] at perm
  refine ⟨judged, given, ?_⟩
  rw [blocks, Tree.labels_walk_mapAll]
  unfold Forest.ofCandidates
  rw [visited]
  exact perm.map _

/-- **Each block of a tree tells of a call of its own.** -/
theorem blocks_tell (collected : Candidate.collect options tree = .ok candidates)
    (assembled : Assembled options tree candidates found outline) :
    ∃ calls, calls.Subperm tree.root.walk ∧
      List.Forall₂ (BlockHead.Tells options outline.requestMetadata tree)
        ((Tree.walk outline.blocks).map Tree.label)
        calls := by
  obtain ⟨judged, given, heads⟩ := heads_perm assembled
  obtain ⟨calls, among, made⟩ := Candidate.ofNodes_sublist collected
  have lists := Forest.Lists.ofCandidates candidates
  let declares (call : Node) : Bool := (tree.callKind? call).any fun kind => !kind.isHook
  have blocks : List.Forall₂
      (fun candidate call => Candidate.ofNode options tree call = .ok (some candidate))
      (candidates.filter fun candidate => !candidate.isHook) (calls.filter declares) := by
    refine List.rel_filter (fun candidate call made => ?_) made
    obtain ⟨kind, _, _, callee, rfl⟩ := Candidate.ofNode_eq made
    show (!kind.isHook) = true ↔ (tree.callKind? call).any (fun kind => !kind.isHook) = true
    rw [callee, Option.any_some]
  rw [← lists.filter_candidate, List.forall₂_map_left_iff] at blocks
  have inside : ∀ place ∈ (List.range candidates.length).filter fun place =>
      !((Forest.ofCandidates candidates).candidate place).isHook,
      place < (Forest.ofCandidates candidates).size ∧
        ((Forest.ofCandidates candidates).candidate place).isHook = false := by
    intro place member
    obtain ⟨listed, noHook⟩ := List.mem_filter.mp member
    exact ⟨by rw [Forest.ofCandidates, lists.size]; exact List.mem_range.mp listed,
      by simpa using noHook⟩
  have told : List.Forall₂ (fun place call =>
      (headAt tree.source judged place).Tells options outline.requestMetadata tree call) _ _ :=
    ((List.forall₂_and_left _ _).mpr ⟨inside, blocks⟩).imp fun place call both =>
      headAt_tells given both.1.1 both.1.2 both.2
  obtain ⟨own, tell, perm⟩ := List.perm_comp_forall₂ heads (List.forall₂_map_left_iff.mpr told)
  exact ⟨own, ⟨calls.filter declares, perm.symm, List.filter_sublist.trans among⟩, tell⟩

end Outline

end TestOutline
