/-
**A forest as trees.**

The links of a forest spell trees of places, since every link leads to an owner that comes before
it.

* `trees`: the suites and tests as trees, read off the links.
* `walk_eq`: the walk over the links ends, and visits what `Tree.walk` visits of the trees.
* `walk_perm`: it visits every suite and every test once, and no hook.
-/

import TestOutline.Proofs.Forest.Sweep

namespace TestOutline.Forest

open TestOutline.Tree (preorder preorderAll)

variable {forest : Forest}

/-- The trees of suites and tests that links put below an owner or at the top. What lies below a
place is linked after it. -/
def treesUnder (forest : Forest) (owner : Option Nat) : List ParentLink → List (Tree Nat)
  | [] => []
  | link :: rest =>
    if link.2 = owner ∧ (forest.candidate link.1).isHook = false then
      .mk link.1 (forest.treesUnder (some link.1) rest) :: forest.treesUnder owner rest
    else forest.treesUnder owner rest

/-- The suites and tests of a forest as trees. -/
def trees (forest : Forest) : List (Tree Nat) := forest.treesUnder none forest.parents

theorem treesUnder_congr {first second : Forest}
    (same : ∀ place, first.candidate place = second.candidate place) (owner : Option Nat)
    (links : List ParentLink) :
    first.treesUnder owner links = second.treesUnder owner links := by
  induction links generalizing owner with
  | nil => rfl
  | cons link rest ih =>
    unfold treesUnder
    rw [same, ih, ih]

/-- The tops of the trees are the places that are attached there. -/
theorem labels_treesUnder (owner : Option Nat) (links : List ParentLink) :
    (forest.treesUnder owner links).map Tree.label = forest.attachedTo links false owner := by
  induction links with
  | nil => rfl
  | cons link rest ih =>
    rw [treesUnder]
    by_cases here : link.2 = owner ∧ (forest.candidate link.1).isHook = false
    · rw [if_pos here, List.map_cons, ih, attachedTo, attachedTo,
        List.filter_cons_of_pos (by simpa using here)]
      rfl
    · rw [if_neg here, ih, attachedTo, attachedTo, List.filter_cons_of_neg (by simpa using here)]

/-- The places in the trees are linked, and are no hooks. -/
theorem label_mem_of_treesUnder {owner : Option Nat} {links : List ParentLink} :
    ∀ tree ∈ preorderAll (forest.treesUnder owner links),
      tree.label ∈ links.map Prod.fst ∧ (forest.candidate tree.label).isHook = false := by
  induction links generalizing owner with
  | nil => intro tree member; cases member
  | cons link rest ih =>
    have later : ∀ (owner : Option Nat), ∀ tree ∈ preorderAll (forest.treesUnder owner rest),
        tree.label ∈ (link :: rest).map Prod.fst ∧ (forest.candidate tree.label).isHook = false :=
      fun owner tree member => ⟨List.mem_cons_of_mem _ (ih tree member).1, (ih tree member).2⟩
    unfold treesUnder
    split
    · next here =>
      intro tree member
      rw [preorderAll, preorder, List.mem_append, List.mem_cons] at member
      rcases member with (rfl | below) | beside
      · exact ⟨List.mem_cons_self, here.2⟩
      · exact later _ tree below
      · exact later _ tree beside
    · exact later owner

/-- **The trees show the links**: right below a place stand the places that are attached to it. -/
theorem children_treesUnder {owners : List (Option Nat)} {links : List ParentLink}
    (founded : Founded owners links)
    (owner : Option Nat) : ∀ tree ∈ preorderAll (forest.treesUnder owner links),
      tree.children.map Tree.label = forest.attachedTo links false (some tree.label) := by
  induction links generalizing owners owner with
  | nil => intro tree member; cases member
  | cons link rest ih =>
    obtain ⟨leads, fresh, founded⟩ := founded
    have skip : ∀ place, link.2 ≠ some place →
        forest.attachedTo (link :: rest) false (some place) =
          forest.attachedTo rest false (some place) := by
      intro place different
      unfold attachedTo
      rw [List.filter_cons_of_neg (by simp [different])]
    -- A later place is not the owner of this one, which is known already.
    have later : ∀ (owner : Option Nat), ∀ tree ∈ preorderAll (forest.treesUnder owner rest),
        tree.children.map Tree.label =
          forest.attachedTo (link :: rest) false (some tree.label) := by
      intro owner tree member
      obtain ⟨found, foundMember, same⟩ := List.mem_map.mp (label_mem_of_treesUnder tree member).1
      rw [ih founded owner tree member, skip]
      intro owned
      rw [← same] at owned
      exact founded.fresh found foundMember (owned ▸ List.mem_cons_of_mem _ leads)
    unfold treesUnder
    split
    · intro tree member
      rw [preorderAll, preorder, List.mem_append, List.mem_cons] at member
      rcases member with (rfl | below) | beside
      · show (forest.treesUnder (some link.1) rest).map Tree.label =
          forest.attachedTo (link :: rest) false (some link.1)
        rw [labels_treesUnder, skip]
        intro owned
        exact fresh (owned ▸ leads)
      · exact later _ tree below
      · exact later _ tree beside
    · exact later owner

/-! ### The walk -/

/-- **Walking over links that trees show visits the trees**, and so it ends. -/
theorem walkFrom_eq_walk (stack : List (Tree Nat))
    (shown : ∀ tree ∈ Tree.walk stack, (forest.member tree.label).children =
      tree.children.map Tree.label) :
    forest.walkFrom (stack.map Tree.label) = some ((Tree.walk stack).map Tree.label) := by
  fun_induction Tree.walk stack with
  | case1 => rw [List.map_nil, walkFrom]
  | case2 tree rest ih =>
    rw [List.map_cons, walkFrom, shown tree List.mem_cons_self, ← List.map_append,
      ih fun later member => shown later (List.mem_cons_of_mem _ member)]
    rfl

section Linked

variable (linked : forest.Linked forest.parents)

include linked

/-- The trees of a forest show the links of its members. -/
theorem Linked.children_trees {tree : Tree Nat} (member : tree ∈ Tree.walk forest.trees) :
    (forest.member tree.label).children = tree.children.map Tree.label := by
  rw [Tree.walk_eq_preorderAll] at member
  have listed := (label_mem_of_treesUnder tree member).1
  rw [parents_fst, mem_order] at listed
  rw [children_treesUnder (founded_parents forest) none tree member, linked.children _ listed]

/-- **The walk over a forest ends**, and visits what a walk over its trees visits. -/
theorem Linked.walk_eq : forest.walk = some ((Tree.walk forest.trees).map Tree.label) := by
  rw [walk, linked.roots, ← labels_treesUnder]
  exact walkFrom_eq_walk _ fun tree => linked.children_trees

end Linked

/-! ### Each place once -/

/-- Of the parts that a list is made of, one may give more and all the others the same: what is more
may be taken to the front. -/
theorem flatMap_perm_of_mem {α β : Type} {whole : List α} {chosen : α} (before after : α → List β)
    (more : List β) (nodup : whole.Nodup) (member : chosen ∈ whole)
    (here : before chosen = more ++ after chosen)
    (others : ∀ other ∈ whole, other ≠ chosen → before other = after other) :
    (whole.flatMap before).Perm (more ++ whole.flatMap after) := by
  obtain ⟨left, right, rfl⟩ := List.append_of_mem member
  have distinct := List.nodup_append.mp nodup
  have leftSame : left.flatMap before = left.flatMap after := List.flatMap_congr fun other inside =>
    others other (List.mem_append_left _ inside)
      (distinct.2.2 other inside chosen List.mem_cons_self)
  have rightSame : right.flatMap before = right.flatMap after :=
    List.flatMap_congr fun other inside =>
    others other (List.mem_append_right _ (List.mem_cons_of_mem _ inside))
      fun same => (List.nodup_cons.mp distinct.2.1).1 (same ▸ inside)
  rw [List.flatMap_append, List.flatMap_cons, List.flatMap_append, List.flatMap_cons, leftSame,
    rightSame, here, List.append_assoc]
  exact List.perm_append_comm_assoc _ _ _

/-- The places of the trees that links put below an owner or at the top. -/
def placesUnder (forest : Forest) (links : List ParentLink) (owner : Option Nat) : List Nat :=
  (preorderAll (forest.treesUnder owner links)).map Tree.label

theorem listed_of_mem_placesUnder {links : List ParentLink} {owner : Option Nat} {place : Nat}
    (member : place ∈ forest.placesUnder links owner) : place ∈ links.map Prod.fst := by
  obtain ⟨tree, found, rfl⟩ := List.mem_map.mp member
  exact (label_mem_of_treesUnder tree found).1

theorem placesUnder_cons (link : ParentLink) (rest : List ParentLink) (owner : Option Nat) :
    forest.placesUnder (link :: rest) owner =
      if link.2 = owner ∧ (forest.candidate link.1).isHook = false then
        link.1 :: (forest.placesUnder rest (some link.1) ++ forest.placesUnder rest owner)
      else forest.placesUnder rest owner := by
  unfold placesUnder
  rw [treesUnder]
  split
  · rw [preorderAll, preorder, List.map_append, List.map_cons, List.cons_append]
    rfl
  · rfl

/-- **The trees below all owners hold every linked suite and test once**: a place goes into the tree
of its owner, and becomes an owner for those that follow. -/
theorem placesUnder_perm {owners : List (Option Nat)} {links : List ParentLink}
    (nodup : owners.Nodup)
    (founded : Founded owners links)
    (owning : ∀ link ∈ links, ∀ owner, link.2 = some owner →
      (forest.candidate owner).isHook = false) :
    (owners.flatMap (forest.placesUnder links)).Perm
      ((links.map Prod.fst).filter fun place => !(forest.candidate place).isHook) := by
  induction links generalizing owners with
  | nil => simp [placesUnder, treesUnder, preorderAll]
  | cons link later ih =>
    obtain ⟨leads, fresh, founded⟩ := founded
    have rest := ih (List.nodup_cons.mpr ⟨fresh, nodup⟩) founded
      fun other member => owning other (List.mem_cons_of_mem _ member)
    rw [List.flatMap_cons] at rest
    rw [List.map_cons]
    cases kind : (forest.candidate link.1).isHook with
    | false =>
      rw [List.filter_cons_of_pos (by simp [kind])]
      refine (flatMap_perm_of_mem _ (forest.placesUnder _)
        (link.1 :: forest.placesUnder _ (some link.1)) nodup leads
        ?_ fun other _ different => ?_).trans (rest.cons link.1)
      · rw [placesUnder_cons, if_pos ⟨rfl, kind⟩, List.cons_append]
      · rw [placesUnder_cons, if_neg fun both => different both.1.symm]
    | true =>
      -- Nothing is attached to a hook, so that it may be left out of the owners.
      have nothing : forest.treesUnder (some link.1) later = [] := by
        rw [← List.map_eq_nil_iff (f := Tree.label), labels_treesUnder,
          List.eq_nil_iff_forall_not_mem]
        intro place attached
        have noHook :=
          owning (place, some link.1) (List.mem_cons_of_mem _ (mem_attachedTo.mp attached).1) _ rfl
        rw [kind] at noHook
        cases noHook
      rw [placesUnder, nothing, preorderAll, List.map_nil, List.nil_append] at rest
      rw [List.filter_cons_of_neg (by simp [kind])]
      refine (List.Perm.of_eq (List.flatMap_congr fun owner _ => ?_)).trans rest
      rw [placesUnder_cons, if_neg fun both => by rw [kind] at both; cases both.2]

/-- No suite and no test of a forest lies deeper than a limit. -/
def Within (forest : Forest) (limit : Int) : Prop :=
  ∀ place < forest.size, (forest.candidate place).isHook = false →
    (forest.member place).depth ≤ limit

section Linked

variable (linked : forest.Linked forest.parents)

include linked

/-- What owns a place is a suite of the list that lies strictly around it. -/
theorem Linked.owner_spec {place owner : Nat} (inside : place < forest.size)
    (owned : (forest.member place).parent = some owner) :
    owner < forest.size ∧ (forest.candidate owner).isSuite = true ∧
      (forest.candidate owner).contains (forest.candidate place) = true :=
  owner_of_mem_parents ((linked.mem_parents inside _).mpr owned)

/-- The walk over a forest visits the places of its trees. -/
theorem Linked.walk_placesUnder : forest.walk = some (forest.placesUnder forest.parents none) := by
  rw [linked.walk_eq, Tree.walk_eq_preorderAll]
  rfl

/-- **The walk over a forest visits every suite and every test once**, and no hook. -/
theorem Linked.walk_perm : ∃ places, forest.walk = some places ∧
    places.Perm
      ((List.range forest.size).filter fun place => !(forest.candidate place).isHook) := by
  refine ⟨_, linked.walk_placesUnder, ?_⟩
  have owning : ∀ link ∈ forest.parents, ∀ owner, link.2 = some owner →
      (forest.candidate owner).isHook = false := by
    rintro ⟨place, _⟩ member owner rfl
    exact Candidate.not_isHook_of_isSuite (owner_of_mem_parents member).2.1
  have perm := placesUnder_perm (List.nodup_singleton none) (founded_parents forest) owning
  rw [parents_fst, List.flatMap_singleton] at perm
  exact perm.trans (order_perm.filter _)

end Linked

end TestOutline.Forest
