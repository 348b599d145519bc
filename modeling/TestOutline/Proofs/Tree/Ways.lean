/-
**Ways down a tree.**

A way leads from the top of a tree to one of its trees and tells the place of the next child at each
step. Trees that are alike still lie at the ends of different ways, so that ways tell whether a tree
was visited once.

* `Tree.at?`: the tree at the end of a way, if the way leads on so far.
* `Tree.ways`: all ways, by recursion over the tree; they are in lexicographic order, a way before
  those that lead on.
* `walk_visits_once`: a tree is visited from a stack along its ways, each of them once and in their
  order.
-/

import Mathlib.Data.List.Lex
import TestOutline.Tree

namespace TestOutline.Tree

variable {α : Type}

/-- The tree at the end of a way down. -/
def at? (tree : Tree α) : List Nat → Option (Tree α)
  | [] => some tree
  | step :: way => tree.children[step]?.bind fun child => child.at? way

mutual

/-- The ways down a tree. -/
def ways : Tree α → List (List Nat)
  | .mk _ children => [] :: waysFrom 0 children

/-- The ways down some neighbours, of which the first has a place. -/
def waysFrom (place : Nat) : List (Tree α) → List (List Nat)
  | [] => []
  | tree :: rest => (ways tree).map (place :: ·) ++ waysFrom (place + 1) rest

end

/-- A way down neighbours starts with the place of one of them. -/
theorem exists_of_mem_waysFrom {place : Nat} {trees : List (Tree α)} {way : List Nat}
    (member : way ∈ waysFrom place trees) : ∃ step others, way = step :: others ∧ place ≤ step := by
  induction trees generalizing place with
  | nil => cases member
  | cons tree rest ih =>
    rw [waysFrom, List.mem_append] at member
    rcases member with here | later
    · obtain ⟨others, _, rfl⟩ := List.mem_map.mp here
      exact ⟨place, others, rfl, Nat.le_refl _⟩
    · obtain ⟨step, others, rfl, after⟩ := ih later
      exact ⟨step, others, rfl, by omega⟩

mutual

/-- The ways down a tree are in lexicographic order. -/
theorem pairwise_ways : (tree : Tree α) → tree.ways.Pairwise (· < ·)
  | .mk label children => by
    rw [ways]
    refine List.pairwise_cons.mpr ⟨fun way member => ?_, pairwise_waysFrom 0 children⟩
    obtain ⟨step, others, rfl, _⟩ := exists_of_mem_waysFrom member
    exact List.nil_lt_cons step others

theorem pairwise_waysFrom (place : Nat) :
    (trees : List (Tree α)) → (waysFrom place trees).Pairwise (· < ·)
  | [] => by
    rw [waysFrom]
    exact List.Pairwise.nil
  | tree :: rest => by
    rw [waysFrom, List.pairwise_append, List.pairwise_map]
    refine ⟨(pairwise_ways tree).imp fun before => List.cons_lt_cons_iff.mpr (.inr ⟨rfl, before⟩),
      pairwise_waysFrom (place + 1) rest, fun way here other later => ?_⟩
    obtain ⟨left, _, rfl⟩ := List.mem_map.mp here
    obtain ⟨step, right, rfl, after⟩ := exists_of_mem_waysFrom later
    exact List.cons_lt_cons_iff.mpr (.inl after)

end

mutual

/-- At the ends of the ways are the trees of the tree, in order. -/
theorem map_at?_ways : (tree : Tree α) → tree.ways.map tree.at? = tree.preorder.map some
  | .mk label children => by
    rw [ways, preorder, List.map_cons, List.map_cons,
      map_at?_waysFrom (.mk label children) 0 children rfl]
    rfl

/-- At the ends of the ways down the children from a place on are the trees of these children. -/
theorem map_at?_waysFrom (tree : Tree α) (place : Nat) :
    (trees : List (Tree α)) → tree.children.drop place = trees →
      (waysFrom place trees).map tree.at? = (preorderAll trees).map some
  | [], _ => by
    rw [waysFrom, preorderAll, List.map_nil, List.map_nil]
  | child :: rest, listed => by
    have here : tree.children[place]? = some child := by
      rw [← List.head?_drop, listed, List.head?_cons]
    have behind : tree.children.drop (place + 1) = rest := by
      rw [← List.tail_drop, listed, List.tail_cons]
    have below : ∀ way, tree.at? (place :: way) = child.at? way := fun way => by
      rw [at?, here, Option.bind_some]
    rw [waysFrom, preorderAll, List.map_append, List.map_append, List.map_map,
      map_at?_waysFrom tree (place + 1) rest behind, ← map_at?_ways child]
    congr 1
    exact List.map_congr_left fun way _ => below way

end

/-- A way down one of some neighbours is a way down all of them, with the place of this one in
front. -/
theorem mem_waysFrom {place step : Nat} {trees : List (Tree α)} {child : Tree α} {way : List Nat}
    (listed : trees[step]? = some child) (member : way ∈ child.ways) :
    (place + step) :: way ∈ waysFrom place trees := by
  induction trees generalizing place step with
  | nil => cases listed
  | cons tree rest ih =>
    rw [waysFrom, List.mem_append]
    cases step with
    | zero =>
      obtain rfl : tree = child := Option.some.inj listed
      exact .inl (List.mem_map_of_mem member)
    | succ step =>
      rw [show place + (step + 1) = place + 1 + step by omega]
      exact .inr (ih listed)

/-- A way that leads to a tree is among the ways. -/
theorem mem_ways_of_at? {tree found : Tree α} {way : List Nat} (leads : tree.at? way = some found) :
    way ∈ tree.ways := by
  induction way generalizing tree with
  | nil =>
    cases tree
    rw [ways]
    exact List.mem_cons_self
  | cons step others ih =>
    rw [at?] at leads
    obtain ⟨child, listed, leads⟩ := Option.bind_eq_some_iff.mp leads
    have member := @mem_waysFrom _ 0 step _ _ _ listed (ih leads)
    rw [Nat.zero_add] at member
    cases tree
    rw [ways]
    exact List.mem_cons_of_mem _ member

/-- **The ways are those that lead to a tree.** -/
theorem mem_ways_iff {tree : Tree α} {way : List Nat} :
    way ∈ tree.ways ↔ (tree.at? way).isSome = true := by
  constructor
  · intro member
    have listed := List.mem_map_of_mem (f := tree.at?) member
    rw [map_at?_ways] at listed
    obtain ⟨found, _, leads⟩ := List.mem_map.mp listed
    rw [← leads, Option.isSome_some]
  · intro leads
    obtain ⟨found, leads⟩ := Option.isSome_iff_exists.mp leads
    exact mem_ways_of_at? leads

/-- **A tree is visited along its ways**: each way is taken once, a way before those that lead on
from it and these before the ways to the neighbours behind. -/
theorem walk_visits_once (tree : Tree α) : ∃ ways : List (List Nat), ways.Pairwise (· < ·) ∧
    (∀ way, way ∈ ways ↔ (tree.at? way).isSome = true) ∧
    (walk [tree]).map some = ways.map tree.at? := by
  refine ⟨tree.ways, pairwise_ways tree, fun way => mem_ways_iff, ?_⟩
  rw [walk_eq_preorder, map_at?_ways]

end TestOutline.Tree
