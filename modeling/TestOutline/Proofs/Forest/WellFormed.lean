/-
**Well-formed forests.**

The links of a forest are written at both ends, one place at a time. They always fit together:

* `WellFormed`: every place is owned once, by the parent that it notes; owners are suites strictly
  around what they own; the depth of a place counts the places above it; what is owned stands in
  order; the walk visits every suite and every test once.
* `Linked.wellFormed`: every linked list of members is well formed, whatever ranges the members
  have.
-/

import TestOutline.Proofs.Forest.Trees

namespace TestOutline.Forest

variable {forest : Forest}

/-- What a place or the top owns: the hooks, or the suites and tests. -/
def owned (forest : Forest) (isHook : Bool) : Option Nat → List Nat
  | none => if isHook then forest.rootHooks else forest.roots
  | some owner => if isHook then (forest.member owner).hooks else (forest.member owner).children

/-- **The places above a place**, its parent first. -/
inductive Lineage (forest : Forest) : Nat → List Nat → Prop
  | atTop {place : Nat} : (forest.member place).parent = none → Lineage forest place []
  | under {place owner : Nat} {line : List Nat} : (forest.member place).parent = some owner →
      Lineage forest owner line → Lineage forest place (owner :: line)

/-- **The links of a forest fit together.** -/
structure WellFormed (forest : Forest) : Prop where
  /-- Every place is owned once, by the top or by one other place. -/
  once : ∀ isHook, ((none :: (List.range forest.size).map some).flatMap (forest.owned isHook)).Perm
    ((List.range forest.size).filter fun place => (forest.candidate place).isHook == isHook)
  /-- A place is owned by the parent that it notes. -/
  agree : ∀ isHook owner place, place ∈ forest.owned isHook owner ↔
    place < forest.size ∧ (forest.candidate place).isHook = isHook ∧
      (forest.member place).parent = owner
  /-- Owners are suites strictly around what they own. -/
  owner : ∀ place < forest.size, ∀ owner, (forest.member place).parent = some owner →
    owner < forest.size ∧ (forest.candidate owner).isSuite = true ∧
      (forest.candidate owner).contains (forest.candidate place) = true
  depthTop : ∀ place < forest.size, (forest.member place).parent = none →
    (forest.member place).depth = 0
  depthBelow : ∀ place < forest.size, ∀ owner, (forest.member place).parent = some owner →
    (forest.member place).depth = (forest.member owner).depth + 1
  /-- Going up from a place ends at the top, never comes to a place twice, and takes as many steps
  as the place is deep. -/
  lineage : ∀ place < forest.size, ∃ line, forest.Lineage place line ∧ (place :: line).Nodup ∧
    (forest.member place).depth = line.length
  sorted : ∀ isHook owner, (forest.owned isHook owner).Pairwise fun left right =>
    (forest.candidate left).comesFirst (forest.candidate right) = true
  /-- The walk ends, and visits every suite and every test once and no hook. -/
  walk : ∃ places, forest.walk = some places ∧
    places.Perm ((List.range forest.size).filter fun place => !(forest.candidate place).isHook)

/-- What gives nothing may be left out. -/
theorem flatMap_filter_of_nil {α β : Type} {keep : α → Bool} {give : α → List β} {list : List α}
    (nothing : ∀ value ∈ list, keep value = false → give value = []) :
    (list.filter keep).flatMap give = list.flatMap give := by
  induction list with
  | nil => rfl
  | cons value rest ih =>
    have below := ih fun other member => nothing other (List.mem_cons_of_mem _ member)
    cases kept : keep value with
    | true => rw [List.filter_cons_of_pos kept, List.flatMap_cons, List.flatMap_cons, below]
    | false =>
      rw [List.filter_cons_of_neg (by simp [kept]), List.flatMap_cons, below,
        nothing value List.mem_cons_self kept, List.nil_append]

section Linked

variable (linked : forest.Linked forest.parents)

include linked

/-- What a place owns is what is attached to it. -/
theorem Linked.owned_eq (isHook : Bool) (owner : Option Nat) :
    forest.owned isHook owner = forest.attachedTo forest.parents isHook owner := by
  cases owner with
  | none => cases isHook with
    | false => exact linked.roots
    | true => exact linked.rootHooks
  | some owner =>
    by_cases inside : owner < forest.size
    · cases isHook with
      | false => exact linked.children owner inside
      | true => exact linked.hooks owner inside
    · -- Nothing is attached outside the list.
      have nothing : forest.attachedTo forest.parents isHook (some owner) = [] := by
        rw [List.eq_nil_iff_forall_not_mem]
        intro place attached
        obtain ⟨placeInside, _, same⟩ := linked.mem_attachedTo.mp attached
        exact inside (linked.owner_spec placeInside same).1
      rw [owned, member_outside (by omega), nothing]
      cases isHook <;> rfl

theorem Linked.mem_owned (isHook : Bool) (owner : Option Nat) (place : Nat) :
    place ∈ forest.owned isHook owner ↔
      place < forest.size ∧ (forest.candidate place).isHook = isHook ∧
        (forest.member place).parent = owner := by
  rw [linked.owned_eq]
  exact linked.mem_attachedTo

/-- What a place owns stands in the order of the list. -/
theorem Linked.owned_sublist (isHook : Bool) (owner : Option Nat) :
    (forest.owned isHook owner).Sublist forest.order := by
  rw [linked.owned_eq, ← parents_fst]
  exact List.filter_sublist.map _

/-- **Every place is owned once.** -/
theorem Linked.owned_once (isHook : Bool) :
    ((none :: (List.range forest.size).map some).flatMap (forest.owned isHook)).Perm
      ((List.range forest.size).filter fun place => (forest.candidate place).isHook == isHook) := by
  have distinct : (none :: (List.range forest.size).map some).Nodup :=
    List.nodup_cons.mpr ⟨by simp, List.nodup_range.map fun _ _ => Option.some.inj⟩
  rw [List.perm_ext_iff_of_nodup _ (List.nodup_range.filter _)]
  · intro place
    rw [List.mem_flatMap, List.mem_filter, List.mem_range, beq_iff_eq]
    constructor
    · rintro ⟨owner, _, member⟩
      obtain ⟨inside, kind, _⟩ := (linked.mem_owned isHook owner place).mp member
      exact ⟨inside, kind⟩
    · rintro ⟨inside, kind⟩
      refine ⟨(forest.member place).parent, ?_,
        (linked.mem_owned isHook _ place).mpr ⟨inside, kind, rfl⟩⟩
      cases found : (forest.member place).parent with
      | none => exact List.mem_cons_self
      | some owner =>
        exact List.mem_cons_of_mem _
          (List.mem_map_of_mem (List.mem_range.mpr (linked.owner_spec inside found).1))
  · refine List.nodup_flatMap.mpr
      ⟨fun owner _ => (linked.owned_sublist isHook owner).nodup order_nodup, ?_⟩
    refine distinct.imp fun {left right} different place memberLeft memberRight => different ?_
    rw [← ((linked.mem_owned isHook left place).mp memberLeft).2.2,
      ((linked.mem_owned isHook right place).mp memberRight).2.2]

/-- The hooks at the top and those of all suites and tests are all hooks, each once. -/
theorem Linked.hooks_perm :
    (forest.rootHooks ++
      ((List.range forest.size).filter fun place => !(forest.candidate place).isHook).flatMap
      fun place => (forest.member place).hooks).Perm
        ((List.range forest.size).filter fun place => (forest.candidate place).isHook) := by
  have once := linked.owned_once true
  rw [List.flatMap_cons, List.flatMap_map] at once
  -- A hook owns nothing.
  have nothing : ∀ place ∈ List.range forest.size, (!(forest.candidate place).isHook) = false →
      (forest.member place).hooks = [] := by
    intro place member isHook
    rw [List.eq_nil_iff_forall_not_mem]
    intro hook owned
    obtain ⟨inside, _, noted⟩ := (linked.mem_owned true (some place) hook).mp owned
    have noHook := Candidate.not_isHook_of_isSuite (linked.owner_spec inside noted).2.1
    rw [noHook] at isHook
    cases isHook
  simp only [beq_true] at once
  rw [flatMap_filter_of_nil nothing]
  exact once

/-- **Going up from a place ends at the top**, and every place on the way lies strictly around
it. -/
theorem Linked.lineage {owners : List (Option Nat)} {links : List ParentLink}
    (founded : Founded owners links)
    (part : ∀ link ∈ links, link ∈ forest.parents)
    (above : ∀ owner, some owner ∈ owners → ∃ line, forest.Lineage owner line ∧
      (owner :: line).Nodup ∧
      (forest.member owner).depth = line.length ∧
      ∀ upper ∈ line, (forest.candidate upper).contains (forest.candidate owner) = true) :
    ∀ place ∈ links.map Prod.fst, ∃ line, forest.Lineage place line ∧ (place :: line).Nodup ∧
      (forest.member place).depth = line.length ∧
      ∀ upper ∈ line, (forest.candidate upper).contains (forest.candidate place) = true := by
  induction links generalizing owners with
  | nil => intro place member; cases member
  | cons link rest ih =>
    obtain ⟨leads, _, founded⟩ := founded
    obtain ⟨first, parent⟩ := link
    have linkMember := part (first, parent) List.mem_cons_self
    have noted := linked.parent _ linkMember
    have here : ∃ line, forest.Lineage first line ∧ (first :: line).Nodup ∧
        (forest.member first).depth = line.length ∧
        ∀ upper ∈ line, (forest.candidate upper).contains (forest.candidate first) = true := by
      cases parent with
      | none =>
        exact ⟨[], .atTop noted, List.nodup_singleton first, linked.top first linkMember,
          List.forall_mem_nil _⟩
      | some owner =>
        obtain ⟨line, lineage, nodup, depth, around⟩ := above owner leads
        have contains := (owner_of_mem_parents linkMember).2.2
        have aroundFirst : ∀ upper ∈ owner :: line,
            (forest.candidate upper).contains (forest.candidate first) = true := by
          intro upper member
          rcases List.mem_cons.mp member with rfl | further
          · exact contains
          · exact Candidate.contains_trans (around upper further) contains
        refine ⟨owner :: line, .under noted lineage, List.nodup_cons.mpr ⟨fun again => ?_, nodup⟩,
          ?_, aroundFirst⟩
        · have itself := aroundFirst first again
          rw [Candidate.contains_iff] at itself
          omega
        · rw [linked.below first owner linkMember, depth, List.length_cons]
    intro place member
    rw [List.map_cons, List.mem_cons] at member
    rcases member with rfl | later
    · exact here
    · refine ih founded (fun link member => part link (List.mem_cons_of_mem _ member))
        (fun owner known => ?_) place later
      rcases List.mem_cons.mp known with same | old
      · cases same
        exact here
      · exact above owner old

/-- **The links of a linked list fit together.** -/
theorem Linked.wellFormed : forest.WellFormed where
  once := linked.owned_once
  agree := linked.mem_owned
  owner _ inside _ := linked.owner_spec inside
  depthTop place inside noted := linked.top place ((linked.mem_parents inside none).mpr noted)
  depthBelow place inside owner noted :=
    linked.below place owner ((linked.mem_parents inside (some owner)).mpr noted)
  lineage place inside := by
    have listed : place ∈ forest.parents.map Prod.fst := by
      rw [parents_fst]
      exact mem_order.mpr inside
    obtain ⟨line, lineage, nodup, depth, _⟩ := linked.lineage (founded_parents forest) (fun _ => id)
      (fun owner known => by simp at known) place listed
    exact ⟨line, lineage, nodup, depth⟩
  sorted isHook owner := (order_precedes.sublist (linked.owned_sublist isHook owner)).imp And.left
  walk := linked.walk_perm

end Linked

end TestOutline.Forest
