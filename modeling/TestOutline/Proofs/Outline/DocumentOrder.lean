/-
**The order of a document.**

A tree is visited in the order of its source: a node before what is in it, and all of that before
what follows.

* `WellPlaced`: the ranges of a tree nest, and neighbours follow each other.
* `walk_parted`: of two nodes the one that is visited first holds the other one or ends before it.
* `walk_laid`: so it lies around the other one or ends before it.
* `collect_laid`: so do the candidates of a tree whose calls do not cross, and none of them is
  empty.
-/

import TestOutline.Outline.Candidate
import TestOutline.Proofs.Forest.Laminar

namespace TestOutline

open TestOutline.Tree (preorder preorderAll mem_preorder mem_preorderAll_cons)

namespace SyntaxTree

variable {tree : SyntaxTree}

/-- What a node lies around lies inside it, and its parts follow each other; ranges are in
characters. -/
structure Places (tree : SyntaxTree) (node : Node) : Prop where
  inside : ∀ child ∈ node.children, tree.start node ≤ tree.start child ∧
    tree.start child ≤ tree.stop child ∧
    tree.stop child ≤ tree.stop node
  inOrder : node.children.Pairwise fun left right => tree.stop left ≤ tree.start right

instance (tree : SyntaxTree) (node : Node) : Decidable (tree.Places node) :=
  decidable_of_iff ((∀ child ∈ node.children, tree.start node ≤ tree.start child ∧
      tree.start child ≤ tree.stop child ∧ tree.stop child ≤ tree.stop node) ∧
    node.children.Pairwise fun left right => tree.stop left ≤ tree.start right)
    ⟨fun places => ⟨places.1, places.2⟩, fun places => ⟨places.inside, places.inOrder⟩⟩

/-- **The ranges of a tree nest**, and neighbours are in order and disjoint. -/
def WellPlaced (tree : SyntaxTree) : Prop := ∀ node ∈ tree.root.walk, tree.Places node

instance (tree : SyntaxTree) : Decidable tree.WellPlaced :=
  inferInstanceAs (Decidable (∀ node ∈ tree.root.walk, tree.Places node))

/-- A node lies around another one or ends before it. -/
def Laid (tree : SyntaxTree) (first second : Node) : Prop :=
  (tree.start first ≤ tree.start second ∧ tree.stop second ≤ tree.stop first) ∨
    tree.stop first ≤ tree.start second

mutual

/-- All nodes of a tree lie inside its top. -/
theorem preorder_inside : (node : Node) → (∀ inner ∈ preorder node, tree.Places inner) →
    ∀ inner ∈ preorder node, tree.start node ≤ tree.start inner ∧ tree.stop inner ≤ tree.stop node
  | .mk head children, places => by
    have below :=
      preorderAll_inside children fun inner member => places inner (mem_preorder.mpr (.inr member))
    have top : tree.Places (.mk head children) := places _ (mem_preorder.mpr (.inl rfl))
    intro inner member
    rw [mem_preorder] at member
    rcases member with rfl | member
    · exact ⟨Nat.le_refl _, Nat.le_refl _⟩
    · obtain ⟨child, childMember, inside⟩ := below inner member
      have childInside := top.inside child childMember
      omega

/-- All nodes of some trees lie inside one of their tops. -/
theorem preorderAll_inside :
    (nodes : List Node) → (∀ inner ∈ preorderAll nodes, tree.Places inner) →
      ∀ inner ∈ preorderAll nodes, ∃ node ∈ nodes,
        tree.start node ≤ tree.start inner ∧ tree.stop inner ≤ tree.stop node
  | [], _ => by
    intro inner member
    cases member
  | node :: rest, places => by
    intro inner member
    rw [mem_preorderAll_cons] at member
    rcases member with here | later
    · have insideHere := preorder_inside node fun inner member =>
        places inner (mem_preorderAll_cons.mpr (.inl member))
      exact ⟨node, List.mem_cons_self, insideHere inner here⟩
    · have insideRest := preorderAll_inside rest fun inner member =>
        places inner (mem_preorderAll_cons.mpr (.inr member))
      obtain ⟨found, foundMember, inside⟩ := insideRest inner later
      exact ⟨found, List.mem_cons_of_mem _ foundMember, inside⟩

end

mutual

/-- **Of two nodes of a tree** the one that comes first holds the other one or ends before it. -/
theorem preorder_parted : (node : Node) → (∀ inner ∈ preorder node, tree.Places inner) →
    (preorder node).Pairwise fun first second =>
      second ∈ preorderAll first.children ∨ tree.stop first ≤ tree.start second
  | .mk head children, places => by
    have top : tree.Places (.mk head children) := places _ (mem_preorder.mpr (.inl rfl))
    rw [preorder]
    exact List.pairwise_cons.mpr ⟨fun inner member => .inl member,
      preorderAll_parted children top.inOrder fun inner member =>
        places inner (mem_preorder.mpr (.inr member))⟩

/-- So it is with the nodes of trees that follow each other. -/
theorem preorderAll_parted : (nodes : List Node) →
    nodes.Pairwise (fun left right => tree.stop left ≤ tree.start right) →
    (∀ inner ∈ preorderAll nodes, tree.Places inner) →
    (preorderAll nodes).Pairwise fun first second =>
      second ∈ preorderAll first.children ∨ tree.stop first ≤ tree.start second
  | [], _, _ => by
    rw [preorderAll]
    exact List.Pairwise.nil
  | node :: rest, inOrder, places => by
    obtain ⟨before, inOrder⟩ := List.pairwise_cons.mp inOrder
    have placesHere : ∀ inner ∈ preorder node, tree.Places inner := fun inner member =>
      places inner (mem_preorderAll_cons.mpr (.inl member))
    have placesRest : ∀ inner ∈ preorderAll rest, tree.Places inner := fun inner member =>
      places inner (mem_preorderAll_cons.mpr (.inr member))
    rw [preorderAll, List.pairwise_append]
    refine ⟨preorder_parted node placesHere, preorderAll_parted rest inOrder placesRest,
      fun left here right later => ?_⟩
    obtain ⟨_, leftEnds⟩ := preorder_inside node placesHere left here
    obtain ⟨other, otherMember, rightStarts, _⟩ := preorderAll_inside rest placesRest right later
    have follows := before other otherMember
    right
    omega

end

/-- Of two nodes the one that is visited first holds the other one or ends before it. -/
theorem walk_parted (wellPlaced : tree.WellPlaced) : tree.root.walk.Pairwise fun first second =>
    second ∈ preorderAll first.children ∨ tree.stop first ≤ tree.start second := by
  unfold WellPlaced at wellPlaced
  unfold Node.walk at wellPlaced ⊢
  rw [Tree.walk_eq_preorder] at wellPlaced ⊢
  exact preorder_parted tree.root wellPlaced

/-- **A tree is visited in the order of its source.** -/
theorem walk_laid (wellPlaced : tree.WellPlaced) : tree.root.walk.Pairwise tree.Laid := by
  refine (walk_parted wellPlaced).imp_of_mem fun {first second} visited _ parted => ?_
  rcases parted with below | before
  · have places : ∀ inner ∈ preorder first, tree.Places inner := by
      intro inner member
      rcases mem_preorder.mp member with rfl | member
      · exact wellPlaced _ visited
      · rw [← Tree.walk_eq_preorderAll] at member
        exact wellPlaced inner (Tree.mem_walk_of_below visited member)
    exact .inl (preorder_inside first places second (mem_preorder.mpr (.inr below)))
  · exact .inr before

/-! ### Calls -/

/-- The calls of the test framework, as they are visited. -/
def frameworkCalls (tree : SyntaxTree) : List Node :=
  tree.root.walk.filter fun node => (tree.callKind? node).isSome

/-- **Calls do not cross**: of any two, one ends before the other starts or lies strictly inside
it. -/
def CallsApart (tree : SyntaxTree) : Prop := tree.frameworkCalls.Pairwise fun first second =>
  tree.stop first ≤ tree.start second ∨ tree.stop second ≤ tree.start first ∨
    (tree.start first < tree.start second ∧ tree.stop second < tree.stop first) ∨
    (tree.start second < tree.start first ∧ tree.stop first < tree.stop second)

instance (tree : SyntaxTree) : Decidable tree.CallsApart := by
  unfold CallsApart
  infer_instance

theorem start_lt_stop_of_text {node : Node} (named : tree.text node ≠ []) :
    tree.start node < tree.stop node := by
  by_contra empty
  apply named
  rw [text, Source.slice, Nat.sub_eq_zero_of_le (by omega), List.take_zero, Text.ofChars_nil]

/-- A call of the test framework holds the name of its function, and so it is not empty. -/
theorem call_nonempty {call : Node} (places : tree.Places call)
    (isCall : (tree.callKind? call).isSome = true) :
    tree.start call < tree.stop call := by
  unfold callKind? calleeName? at isCall
  split at isCall
  · split at isCall
    · next callee found =>
      split at isCall
      · have named : tree.text callee ≠ [] := by
          intro empty
          rw [empty, Option.bind_some] at isCall
          cases isCall
        have inside := places.inside callee (List.mem_of_find?_eq_some found)
        have nonempty := start_lt_stop_of_text named
        omega
      · cases isCall
    · cases isCall
  · cases isCall

/-- **Of two calls the one that is visited first** lies strictly around the other one or ends before
it. -/
theorem calls_laid (wellPlaced : tree.WellPlaced) (apart : tree.CallsApart) :
    tree.frameworkCalls.Pairwise fun first second =>
      (tree.start first < tree.start second ∧ tree.stop second < tree.stop first) ∨
        tree.stop first ≤ tree.start second := by
  have laid : tree.frameworkCalls.Pairwise tree.Laid := (walk_laid wellPlaced).filter _
  refine (laid.and apart).imp_of_mem fun {first second} firstMember secondMember both => ?_
  have nonempty : ∀ call ∈ tree.frameworkCalls, tree.start call < tree.stop call := by
    intro call member
    obtain ⟨visited, isCall⟩ := List.mem_filter.mp member
    exact call_nonempty (wellPlaced call visited) isCall
  have firstNonempty := nonempty first firstMember
  have secondNonempty := nonempty second secondMember
  obtain ⟨laid, apart⟩ := both
  unfold Laid at laid
  omega

end SyntaxTree

/-! ### Candidates -/

namespace Candidate

variable {options : Options} {tree : SyntaxTree} {candidates : List Candidate}

/-- A candidate is made of a call of the test framework. -/
theorem ofNode_eq {node : Node} {candidate : Candidate}
    (made : ofNode options tree node = .ok (some candidate)) :
    ∃ kind name function, tree.callKind? node = some kind ∧
      candidate = ofCall options tree node kind name function := by
  unfold ofNode at made
  cases kind : tree.callKind? node with
  | none =>
    rw [kind] at made
    cases made
  | some found =>
    rw [kind] at made
    cases found with
    | block blockKind =>
      simp only [ofBlockCall] at made
      split at made
      · next name function _ _ =>
        split at made
        · cases value : tree.stringValue name with
          | error fault =>
            rw [value] at made
            cases made
          | ok text =>
            rw [value] at made
            cases made
            exact ⟨_, _, _, rfl, rfl⟩
        · cases made
      · cases made
    | hook hookKind =>
      simp only [ofHookCall] at made
      split at made
      · cases made
      · next first rest _ =>
        split at made
        · cases value : tree.stringValue first with
          | error fault =>
            rw [value] at made
            cases made
          | ok text =>
            rw [value] at made
            have found := Option.map_eq_some_iff.mp (Except.ok.inj made)
            obtain ⟨function, _, same⟩ := found
            exact ⟨_, _, _, rfl, same.symm⟩
        · have found := Option.map_eq_some_iff.mp (Except.ok.inj made)
          obtain ⟨function, _, same⟩ := found
          exact ⟨_, _, _, rfl, same.symm⟩

/-- **The candidates at some nodes** are made of nodes among them, each of its own, in their
order. -/
theorem ofNodes_sublist {nodes : List Node}
    (collected : ofNodes options tree nodes = .ok candidates) :
    ∃ calls, calls.Sublist nodes ∧
      List.Forall₂ (fun candidate call => ofNode options tree call = .ok (some candidate))
        candidates calls := by
  induction nodes generalizing candidates with
  | nil =>
    cases collected
    exact ⟨[], List.Sublist.refl _, List.Forall₂.nil⟩
  | cons node rest ih =>
    rw [ofNodes] at collected
    cases first : ofNode options tree node with
    | error fault =>
      rw [first] at collected
      cases collected
    | ok found =>
      rw [first] at collected
      cases others : ofNodes options tree rest with
      | error fault =>
        rw [others] at collected
        cases collected
      | ok later =>
        rw [others] at collected
        cases collected
        obtain ⟨calls, among, made⟩ := ih others
        cases found with
        | none => exact ⟨calls, among.cons node, made⟩
        | some candidate =>
          exact ⟨node :: calls, among.cons_cons node, List.Forall₂.cons first made⟩

/-- The ranges of the candidates at some nodes are ranges of calls among the nodes, in their
order. -/
theorem ranges_sublist {nodes : List Node}
    (collected : ofNodes options tree nodes = .ok candidates) :
    (candidates.map fun candidate => (candidate.startOffset, candidate.endOffset)).Sublist
      ((nodes.filter fun node => (tree.callKind? node).isSome).map fun node =>
        ((tree.start node : Int), (tree.stop node : Int))) := by
  obtain ⟨calls, among, made⟩ := ofNodes_sublist collected
  have ranges : (candidates.map fun candidate => (candidate.startOffset, candidate.endOffset)) =
      (calls.filter fun node => (tree.callKind? node).isSome).map fun node =>
        ((tree.start node : Int), (tree.stop node : Int)) := by
    clear collected among
    induction made with
    | nil => rfl
    | cons here _ ih =>
      obtain ⟨kind, name, function, isCall, rfl⟩ := ofNode_eq here
      rw [List.filter_cons_of_pos (by rw [isCall]; rfl), List.map_cons, List.map_cons, ih]
      rfl
  rw [ranges]
  exact (among.filter _).map _

/-- **The candidates of a tree are in the order of the source**: none is empty, and of two the first
lies strictly around the second or ends before it. -/
theorem collect_laid (wellPlaced : tree.WellPlaced) (apart : tree.CallsApart)
    (collected : collect options tree = .ok candidates) :
    (∀ candidate ∈ candidates, candidate.startOffset < candidate.endOffset) ∧
      candidates.Pairwise fun first second =>
        first.contains second = true ∨ first.endOffset ≤ second.startOffset := by
  have ranges := ranges_sublist collected
  constructor
  · intro candidate member
    have listed := ranges.subset (List.mem_map_of_mem member)
    obtain ⟨call, callMember, same⟩ := List.mem_map.mp listed
    obtain ⟨visited, isCall⟩ := List.mem_filter.mp callMember
    have nonempty := SyntaxTree.call_nonempty (wellPlaced call visited) isCall
    obtain ⟨starts, stops⟩ := Prod.mk.inj same
    omega
  · have calls : ((tree.frameworkCalls).map
        fun node => ((tree.start node : Int), (tree.stop node : Int))).Pairwise
        fun first second => (first.1 < second.1 ∧ second.2 < first.2) ∨ first.2 ≤ second.1 := by
      rw [List.pairwise_map]
      refine (SyntaxTree.calls_laid wellPlaced apart).imp fun laid => ?_
      omega
    have sorted := calls.sublist ranges
    rw [List.pairwise_map] at sorted
    refine sorted.imp fun laid => ?_
    rw [contains_iff]
    exact laid

end Candidate

end TestOutline
