/-
**The order in which a tree is visited.**

A tree is visited from a stack. Where the bytes of its nodes nest and neighbours follow each other,
all that is gathered on the way comes in the order of the source: comments, calls of the test
framework, and faults.

* `SyntaxTree.FollowsSource`: the bytes of the nodes nest, neighbours are in order, and comments are
  leaves with text.
* `commentRanges_ascending`, `starts_of_collect`, `firstFaultLine?_eq_some_iff`: the order of what
  is gathered.
* `walk_follows_source`: each node is visited once, in recursive order, and so what is gathered is
  in order.
-/

import Mathlib.Order.Bounds.Basic
import TestOutline.Proofs.Outline.Outcome
import TestOutline.Proofs.Outline.DocumentOrder
import TestOutline.Proofs.Source.Offsets
import TestOutline.Proofs.Tree.Ways

namespace TestOutline

open TestOutline.Tree (preorder preorderAll)
open TestOutline.Outline (nodeOver declaring)

/-- **The bytes of a node** are a range that holds the ranges of its children, and these follow each
other. -/
structure Node.Nests (node : Node) : Prop where
  ordered : node.start ≤ node.stop
  inside : ∀ child ∈ node.children, Node.start node ≤ Node.start child ∧
    Node.stop child ≤ Node.stop node
  inOrder : node.children.Pairwise fun left right => Node.stop left ≤ Node.start right

instance (node : Node) : Decidable node.Nests :=
  decidable_of_iff (node.start ≤ node.stop ∧
      (∀ child ∈ node.children, Node.start node ≤ Node.start child ∧
        Node.stop child ≤ Node.stop node) ∧
      node.children.Pairwise fun left right => Node.stop left ≤ Node.start right)
    ⟨fun ⟨ordered, inside, inOrder⟩ => ⟨ordered, inside, inOrder⟩,
      fun nests => ⟨nests.ordered, nests.inside, nests.inOrder⟩⟩

namespace SyntaxTree

/-- **A tree follows its source**: the bytes of its nodes nest, neighbours are in order and apart,
and a comment has no nodes below it and is not empty. -/
structure FollowsSource (tree : SyntaxTree) : Prop where
  nests : ∀ node ∈ preorder tree.root, Node.Nests node
  comments : ∀ node ∈ preorder tree.root, Node.kind node = .comment →
    node.children = [] ∧ tree.start node < tree.stop node

variable {tree : SyntaxTree}

theorem mem_walk_iff {node : Node} : node ∈ tree.root.walk ↔ node ∈ preorder tree.root := by
  unfold Node.walk
  rw [Tree.walk_eq_preorder]

/-- Ranges of bytes that nest are ranges of characters that nest. -/
theorem FollowsSource.wellPlaced (follows : tree.FollowsSource) : tree.WellPlaced := by
  intro node visited
  have own := follows.nests node (mem_walk_iff.mp visited)
  constructor
  · intro child member
    have below : child ∈ tree.root.walk :=
      Tree.mem_walk_of_below visited (Tree.mem_walk_of_mem member)
    obtain ⟨starts, stops⟩ := own.inside child member
    have ordered := (follows.nests child (mem_walk_iff.mp below)).ordered
    exact ⟨tree.source.charOffset_le_of_le starts, tree.source.charOffset_le_of_le ordered,
      tree.source.charOffset_le_of_le stops⟩
  · exact own.inOrder.imp fun before => tree.source.charOffset_le_of_le before

/-- **A node that is visited later** starts at the same character or at a later one. -/
theorem FollowsSource.starts (follows : tree.FollowsSource) :
    tree.root.walk.Pairwise fun first second => tree.start first ≤ tree.start second := by
  refine (walk_laid follows.wellPlaced).imp_of_mem fun {first second} visited _ laid => ?_
  have ordered : tree.start first ≤ tree.stop first :=
    tree.source.charOffset_le_of_le (follows.nests first (mem_walk_iff.mp visited)).ordered
  unfold Laid at laid
  omega

/-! ### Comments -/

/-- **The comments are in order and apart.** -/
theorem FollowsSource.commentRanges_ascending (follows : tree.FollowsSource) :
    tree.commentRanges.Pairwise fun comment later => comment.1 < later.1 ∧ comment.2 ≤ later.1 := by
  rw [commentRanges, List.pairwise_map]
  refine ((walk_parted follows.wellPlaced).filter _).imp_of_mem
    fun {first second} member _ parted => ?_
  obtain ⟨visited, isComment⟩ := List.mem_filter.mp member
  obtain ⟨leaf, nonempty⟩ :=
    follows.comments first (mem_walk_iff.mp visited) (beq_iff_eq.mp isComment)
  rcases parted with below | before
  · rw [leaf, preorderAll] at below
    cases below
  · exact ⟨Nat.lt_of_lt_of_le nonempty before, before⟩

/-! ### Calls -/

/-- **The candidates come in the order in which they start.** -/
theorem FollowsSource.starts_of_collect (follows : tree.FollowsSource) {options : Options}
    {candidates : List Candidate} (collected : Candidate.collect options tree = .ok candidates) :
    candidates.Pairwise fun first second => first.startOffset ≤ second.startOffset := by
  have calls : (tree.frameworkCalls.map
      fun node => ((tree.start node : Int), (tree.stop node : Int))).Pairwise
      fun first second => first.1 ≤ second.1 := by
    rw [List.pairwise_map]
    exact (follows.starts.filter _).imp fun before => Int.ofNat_le.mpr before
  have sorted := calls.sublist (Candidate.ranges_sublist collected)
  rw [List.pairwise_map] at sorted
  exact sorted

/-! ### Faults -/

/-- A node that starts later is on the same line or on a later one. -/
theorem lineNumber_mono {first second : Node} (before : tree.start first ≤ tree.start second) :
    tree.lineNumber first ≤ tree.lineNumber second := by
  have line : ∀ node : Node, tree.lineNumber node =
      1 + (tree.source.chars.take (tree.start node)).count '\n' := by
    intro node
    rw [← Source.lineNumber_eq]
    exact (tree.source.lineNumber_charOffset node.start).symm
  rw [line, line]
  exact Nat.add_le_add_left ((List.take_prefix_take_left before).sublist.count_le _) 1

/-- No line of a fault is found where there is no fault, and only there. -/
theorem firstFaultLine?_eq_none_iff :
    tree.firstFaultLine? = none ↔ ∀ node ∈ preorder tree.root, node.label.isFault = false := by
  rw [firstFaultLine?, Option.map_eq_none_iff, List.find?_eq_none]
  simp only [mem_walk_iff, Bool.not_eq_true]

/-- The line of the fault that is visited first is the least line of a fault. -/
theorem FollowsSource.isLeast_firstFaultLine (follows : tree.FollowsSource) {line : Nat}
    (found : tree.firstFaultLine? = some line) :
    IsLeast {line | ∃ node ∈ preorder tree.root, node.label.isFault = true ∧
      tree.lineNumber node = line} line := by
  obtain ⟨fault, first, rfl⟩ := Option.map_eq_some_iff.mp found
  have starts := follows.starts
  have visited := List.mem_of_find?_eq_some first
  obtain ⟨isFault, before, behind, parts, none⟩ := List.find?_eq_some_iff_append.mp first
  refine ⟨⟨fault, mem_walk_iff.mp visited, isFault, rfl⟩, ?_⟩
  rintro _ ⟨other, member, otherFault, rfl⟩
  rw [← mem_walk_iff, parts] at member
  rw [parts] at starts
  rcases List.mem_append.mp member with earlier | later
  · exact absurd otherFault (by simpa using none other earlier)
  · rcases List.mem_cons.mp later with rfl | later
    · exact Nat.le_refl _
    · exact lineNumber_mono
        ((List.pairwise_cons.mp (List.pairwise_append.mp starts).2.1).1 other later)

/-- **The line of the first fault is the least line of a fault.** -/
theorem FollowsSource.firstFaultLine?_eq_some_iff (follows : tree.FollowsSource) {line : Nat} :
    tree.firstFaultLine? = some line ↔
      IsLeast {line | ∃ node ∈ preorder tree.root, node.label.isFault = true ∧
        tree.lineNumber node = line} line := by
  refine ⟨follows.isLeast_firstFaultLine, fun least => ?_⟩
  cases found : tree.firstFaultLine? with
  | none =>
    obtain ⟨node, member, isFault, _⟩ := least.1
    rw [firstFaultLine?_eq_none_iff.mp found node member] at isFault
    cases isFault
  | some other => rw [(follows.isLeast_firstFaultLine found).unique least]

/-- **A tree that follows its source is visited in order.** Each node is visited once, in recursive
order; the comments come in order and apart, the candidates in the order in which they start, and
the first line of a fault is the least one. -/
theorem walk_follows_source (follows : tree.FollowsSource) :
    tree.root.walk = preorder tree.root ∧
      (∃ ways : List (List Nat), ways.Pairwise (· < ·) ∧
        (∀ way, way ∈ ways ↔ (Tree.at? tree.root way).isSome = true) ∧
        tree.root.walk.map some = ways.map (Tree.at? tree.root)) ∧
      tree.commentRanges.Pairwise (fun comment later => comment.1 < later.1 ∧ comment.2 ≤ later.1) ∧
      (∀ options candidates, Candidate.collect options tree = .ok candidates →
        candidates.Pairwise fun first second => first.startOffset ≤ second.startOffset) ∧
      (∀ line, tree.firstFaultLine? = some line ↔
        IsLeast {line | ∃ node ∈ preorder tree.root, node.label.isFault = true ∧
          tree.lineNumber node = line} line) ∧
      (tree.firstFaultLine? = none ↔ ∀ node ∈ preorder tree.root, node.label.isFault = false) :=
  ⟨Tree.walk_eq_preorder tree.root, Tree.walk_visits_once tree.root,
    follows.commentRanges_ascending, fun _ _ => follows.starts_of_collect,
    fun _ => follows.firstFaultLine?_eq_some_iff, firstFaultLine?_eq_none_iff⟩

/-- A test between two comments, the first of which holds a character of two bytes, and a line with
a stray sign. -/
def notedTest : SyntaxTree where
  source := Source.ofChars "/*é*/it('a',()=>\x7b\x7d)//b\n@".toList
  root := nodeOver .program none 0 25 [nodeOver .comment none 0 6 [], declaring 6 2 3 20 [],
    nodeOver .comment none 20 23 [], nodeOver .error none 24 25 []]

/-- The test starts behind the five characters of the first comment, and the fault is on the second
line. -/
theorem walk_follows_source_noted :
    notedTest.FollowsSource ∧ notedTest.commentRanges = [(0, 5), (19, 22)] ∧
    notedTest.commentRanges.Pairwise
      (fun comment later => comment.1 < later.1 ∧ comment.2 ≤ later.1) ∧
    notedTest.firstFaultLine? = some 2 := by
  have follows : notedTest.FollowsSource := ⟨by decide +kernel, by decide +kernel⟩
  obtain ⟨_, _, comments, _, fault, _⟩ := walk_follows_source follows
  have stray : ∃ node ∈ preorder notedTest.root, node.label.isFault = true ∧
      notedTest.lineNumber node = 2 := by
    decide +kernel
  have others : ∀ node ∈ preorder notedTest.root, node.label.isFault = true →
      2 ≤ notedTest.lineNumber node := by
    decide +kernel
  refine ⟨follows, by decide +kernel, comments, (fault 2).mpr ⟨stray, ?_⟩⟩
  rintro _ ⟨node, member, isFault, rfl⟩
  exact others node member isFault

end SyntaxTree

end TestOutline
