/-
**The links of a forest.**

A sweep first finds a parent for each place and then attaches the place; finding looks at candidates
only, so that the two can be told apart (`sweep_eq_attachAll`).

* `parents`: the places in their order, each with the parent that the sweep finds.
* `Linked`: what a forest's links are once some places have been attached. `Linked.attach` is the
  step, `Linked.attachAll` the run.
-/

import TestOutline.Proofs.Forest.Order

namespace TestOutline.Forest

/-- A place with its parent, if it has one. -/
abbrev ParentLink := Nat × Option Nat

variable {forest : Forest}

/-! ### Finding parents -/

/-- The places of a sweep with the parents that it finds for them. -/
def parentsFrom (forest : Forest) (opened : List Nat) : List Nat → List ParentLink
  | [] => []
  | place :: rest =>
    let opened := forest.stillOpen opened place
    (place, forest.parentAmong opened place) ::
      forest.parentsFrom (if (forest.candidate place).isSuite then place :: opened else opened) rest

/-- The places of a forest in their order, each with its parent. -/
def parents (forest : Forest) : List ParentLink := forest.parentsFrom [] forest.order

/-- Attaches places to their parents. -/
def attachAll (forest : Forest) (links : List ParentLink) : Forest :=
  links.foldl (fun forest link => forest.attach link.1 link.2) forest

/-- Parents depend on the candidates alone. -/
theorem parentsFrom_congr {first second : Forest}
    (same : ∀ place, first.candidate place = second.candidate place) (opened places : List Nat) :
    first.parentsFrom opened places = second.parentsFrom opened places := by
  induction places generalizing opened with
  | nil => rfl
  | cons place rest ih =>
    unfold parentsFrom stillOpen parentAmong
    simp only [same]
    rw [ih]

/-- **A sweep finds parents and attaches places to them.** -/
theorem sweep_eq_attachAll (forest : Forest) (opened places : List Nat) :
    forest.sweep opened places = forest.attachAll (forest.parentsFrom opened places) := by
  induction places generalizing forest opened with
  | nil => rfl
  | cons place rest ih =>
    unfold sweep parentsFrom attachAll
    rw [List.foldl_cons, ih, attachAll]
    congr 1
    exact parentsFrom_congr (fun _ => candidate_attach) _ _

theorem parentsFrom_fst (opened places : List Nat) :
    (forest.parentsFrom opened places).map Prod.fst = places := by
  induction places generalizing opened with
  | nil => rfl
  | cons place rest ih => rw [parentsFrom, List.map_cons, ih]

/-- The parent that is found is one of the suites that are open or that were opened since, and lies
strictly around the place. -/
theorem mem_parentsFrom {opened places : List Nat} {place owner : Nat}
    (suites : ∀ suite ∈ opened, (forest.candidate suite).isSuite = true)
    (found : (place, some owner) ∈ forest.parentsFrom opened places) :
    (owner ∈ opened ∨ owner ∈ places) ∧ (forest.candidate owner).isSuite = true ∧
      (forest.candidate owner).contains (forest.candidate place) = true := by
  induction places generalizing opened with
  | nil => cases found
  | cons next rest ih =>
    have kept : ∀ suite ∈ forest.stillOpen opened next, suite ∈ opened :=
      fun suite member => (List.dropWhile_sublist _).mem member
    rw [parentsFrom, List.mem_cons] at found
    rcases found with here | later
    · obtain ⟨rfl, parent⟩ := Prod.mk.inj here
      have member := kept owner (List.mem_of_find?_eq_some parent.symm)
      exact ⟨.inl member, suites owner member, List.find?_some (p := fun suite =>
        (forest.candidate suite).contains (forest.candidate place)) parent.symm⟩
    · have suitesNext : ∀ suite ∈ (if (forest.candidate next).isSuite then
          next :: forest.stillOpen opened next else forest.stillOpen opened next),
          (forest.candidate suite).isSuite = true ∧ (suite ∈ opened ∨ suite = next) := by
        intro suite member
        split at member
        · next isSuite =>
          rcases List.mem_cons.mp member with rfl | old
          · exact ⟨isSuite, .inr rfl⟩
          · exact ⟨suites suite (kept suite old), .inl (kept suite old)⟩
        · exact ⟨suites suite (kept suite member), .inl (kept suite member)⟩
      obtain ⟨place, facts⟩ := ih (fun suite member => (suitesNext suite member).1) later
      refine ⟨?_, facts⟩
      rcases place with open_ | behind
      · rcases (suitesNext owner open_).2 with old | rfl
        · exact .inl old
        · exact .inr List.mem_cons_self
      · exact .inr (List.mem_cons_of_mem _ behind)

/-! ### Attaching places to their parents -/

/-- **Every link leads to an owner that comes before it**, and no place comes twice; `owners` are
those that a link may lead to, the top being `none`. -/
def Founded (owners : List (Option Nat)) : List ParentLink → Prop
  | [] => True
  | link :: rest => link.2 ∈ owners ∧ some link.1 ∉ owners ∧ Founded (some link.1 :: owners) rest

/-- The places that are attached to an owner or at the top: the hooks among them, or the others. -/
def attachedTo (forest : Forest) (links : List ParentLink) (isHook : Bool)
    (owner : Option Nat) : List Nat :=
  (links.filter fun link => link.2 == owner && (forest.candidate link.1).isHook == isHook).map
    Prod.fst

/-- **The links of a forest are the given ones.** -/
structure Linked (forest : Forest) (links : List ParentLink) : Prop where
  parent : ∀ link ∈ links, (forest.member link.1).parent = link.2
  top : ∀ place, (place, none) ∈ links → (forest.member place).depth = 0
  below : ∀ place owner, (place, some owner) ∈ links →
    (forest.member place).depth = (forest.member owner).depth + 1
  unplaced : ∀ place < forest.size, place ∉ links.map Prod.fst →
    (forest.member place).parent = none ∧ (forest.member place).depth = 0
  children : ∀ place < forest.size,
    (forest.member place).children = forest.attachedTo links false (some place)
  hooks : ∀ place < forest.size, (forest.member place).hooks =
    forest.attachedTo links true (some place)
  roots : forest.roots = forest.attachedTo links false none
  rootHooks : forest.rootHooks = forest.attachedTo links true none

theorem attachedTo_congr {first second : Forest}
    (same : ∀ place, first.candidate place = second.candidate place) (links : List ParentLink)
    (isHook : Bool) (owner : Option Nat) :
    first.attachedTo links isHook owner = second.attachedTo links isHook owner := by
  unfold attachedTo
  simp only [same]

theorem attachedTo_append (links more : List ParentLink) (isHook : Bool) (owner : Option Nat) :
    forest.attachedTo (links ++ more) isHook owner =
      forest.attachedTo links isHook owner ++ forest.attachedTo more isHook owner := by
  unfold attachedTo
  rw [List.filter_append, List.map_append]

theorem attachedTo_single (place : Nat) (parent : Option Nat) (isHook : Bool) (owner : Option Nat) :
    forest.attachedTo [(place, parent)] isHook owner =
      if parent = owner ∧ (forest.candidate place).isHook = isHook then [place] else [] := by
  unfold attachedTo
  by_cases attached : parent = owner ∧ (forest.candidate place).isHook = isHook
  · simp [attached]
  · rw [if_neg attached]
    simpa using attached

theorem mem_attachedTo {links : List ParentLink} {isHook : Bool} {owner : Option Nat}
    {place : Nat} :
    place ∈ forest.attachedTo links isHook owner ↔
      (place, owner) ∈ links ∧ (forest.candidate place).isHook = isHook := by
  unfold attachedTo
  simp only [List.mem_map, List.mem_filter, Bool.and_eq_true, beq_iff_eq]
  constructor
  · rintro ⟨⟨_, _⟩, ⟨member, rfl, kind⟩, rfl⟩
    exact ⟨member, kind⟩
  · rintro ⟨member, kind⟩
    exact ⟨(place, owner), ⟨member, rfl, kind⟩, rfl⟩

theorem roots_attach {place : Nat} {parent : Option Nat} :
    (forest.attach place parent).roots =
      forest.roots ++ forest.attachedTo [(place, parent)] false none := by
  rw [attachedTo_single]
  unfold attach
  cases parent with
  | some owner => simp
  | none =>
    simp only
    split <;> simp_all

theorem rootHooks_attach {place : Nat} {parent : Option Nat} :
    (forest.attach place parent).rootHooks =
      forest.rootHooks ++ forest.attachedTo [(place, parent)] true none := by
  rw [attachedTo_single]
  unfold attach
  cases parent with
  | some owner => simp
  | none =>
    simp only
    split <;> simp_all

section Step

variable {place : Nat} {parent : Option Nat} (separate : forest.Separate)
  (inside : place < forest.size)
  (known : ∀ owner, parent = some owner → owner < forest.size ∧ place ≠ owner)

include separate inside known

/-- The links of other members that attaching a place writes: it is added to those of its owner. -/
theorem adopted_attach (other : Nat) :
    ((forest.attach place parent).member other).children =
        (forest.member other).children ++ forest.attachedTo [(place, parent)] false (some other) ∧
      ((forest.attach place parent).member other).hooks =
        (forest.member other).hooks ++ forest.attachedTo [(place, parent)] true (some other) := by
  rw [attachedTo_single, attachedTo_single]
  cases parent with
  | none => simp [member_attach_none]
  | some owner =>
    obtain ⟨ownerInside, different⟩ := known owner rfl
    rw [member_attach_some separate inside ownerInside different]
    by_cases same : other = owner
    · subst same
      rw [if_pos rfl, Member.adopt_children, Member.adopt_hooks]
      cases (forest.candidate place).isHook <;> simp
    · have apart : ∀ isHook,
          ¬ (some owner = some other ∧ (forest.candidate place).isHook = isHook) :=
        fun _ both => same (Option.some.inj both.1).symm
      rw [if_neg same, if_neg (apart false), if_neg (apart true), List.append_nil, List.append_nil]
      by_cases here : other = place
      · subst here
        rw [if_pos rfl]
        exact ⟨rfl, rfl⟩
      · rw [if_neg here]
        exact ⟨rfl, rfl⟩

/-- The links upwards that attaching a place writes: those of the place, if it had none. -/
theorem raised_attach
    (unplaced : (forest.member place).parent = none ∧ (forest.member place).depth = 0)
    (other : Nat) :
    ((forest.attach place parent).member other).parent =
        (if other = place then parent else (forest.member other).parent) ∧
      ((forest.attach place parent).member other).depth =
        if other = place then parent.elim 0 fun owner => (forest.member owner).depth + 1
        else (forest.member other).depth := by
  cases parent with
  | none =>
    rw [member_attach_none]
    by_cases here : other = place
    · subst here
      simp [unplaced]
    · simp [here]
  | some owner =>
    obtain ⟨ownerInside, different⟩ := known owner rfl
    rw [member_attach_some separate inside ownerInside different]
    by_cases same : other = owner
    · subst same
      simp [Ne.symm different]
    · by_cases here : other = place
      · subst here
        simp [same, Member.below]
      · simp [same, here]

end Step

/-- **One step of the linking.** Attaching a fresh place to an owner that is linked already adds one
link. -/
theorem Linked.attach {links : List ParentLink} {place : Nat} {parent : Option Nat}
    (linked : forest.Linked links)
    (separate : forest.Separate) (inside : place < forest.size) (fresh : place ∉ links.map Prod.fst)
    (placed : ∀ link ∈ links, link.1 < forest.size)
    (closed : ∀ link ∈ links ++ [(place, parent)], ∀ owner, link.2 = some owner →
      owner ∈ links.map Prod.fst) :
    (forest.attach place parent).Linked (links ++ [(place, parent)]) := by
  have known : ∀ owner, parent = some owner → owner < forest.size ∧ place ≠ owner := by
    intro owner found
    have member := closed (place, parent) (by simp) owner found
    refine ⟨?_, fun same => fresh (same ▸ member)⟩
    obtain ⟨link, linkMember, rfl⟩ := List.mem_map.mp member
    exact placed link linkMember
  have adopted := adopted_attach separate inside known
  have raised := raised_attach separate inside known (linked.unplaced place inside fresh)
  have old : ∀ link ∈ links, link.1 ≠ place := fun link member same =>
    fresh (List.mem_map.mpr ⟨link, member, same⟩)
  have ownerOld : ∀ link ∈ links ++ [(place, parent)], ∀ owner, link.2 = some owner →
      owner ≠ place :=
    fun link member owner found same => fresh (same ▸ closed link member owner found)
  have candidates : ∀ other, (forest.attach place parent).candidate other =
      forest.candidate other :=
    fun _ => candidate_attach
  constructor
  case parent =>
    intro link member
    rw [(raised link.1).1]
    rcases List.mem_append.mp member with before | new
    · rw [if_neg (old link before), linked.parent link before]
    · rw [List.mem_singleton.mp new, if_pos rfl]
  case top =>
    intro other member
    rw [(raised other).2]
    rcases List.mem_append.mp member with before | new
    · rw [if_neg (old _ before), linked.top other before]
    · obtain ⟨rfl, rfl⟩ := Prod.mk.inj (List.mem_singleton.mp new)
      rw [if_pos rfl, Option.elim_none]
  case below =>
    intro other owner member
    rw [(raised other).2, (raised owner).2, if_neg (ownerOld _ member owner rfl)]
    rcases List.mem_append.mp member with before | new
    · rw [if_neg (old _ before), linked.below other owner before]
    · obtain ⟨rfl, rfl⟩ := Prod.mk.inj (List.mem_singleton.mp new)
      rw [if_pos rfl, Option.elim_some]
  case unplaced =>
    intro other otherInside notListed
    rw [size_attach] at otherInside
    simp only [List.map_append, List.mem_append, List.map_cons, List.map_nil,
      List.mem_singleton, not_or]
      at notListed
    rw [(raised other).1, (raised other).2, if_neg notListed.2, if_neg notListed.2]
    exact linked.unplaced other otherInside notListed.1
  case children =>
    intro other otherInside
    rw [size_attach] at otherInside
    rw [(adopted other).1, linked.children other otherInside, attachedTo_congr candidates,
      attachedTo_append]
  case hooks =>
    intro other otherInside
    rw [size_attach] at otherInside
    rw [(adopted other).2, linked.hooks other otherInside, attachedTo_congr candidates,
      attachedTo_append]
  case roots => rw [roots_attach, linked.roots, attachedTo_congr candidates, attachedTo_append]
  case rootHooks =>
    rw [rootHooks_attach, linked.rootHooks, attachedTo_congr candidates, attachedTo_append]

/-! ### The run -/

theorem Founded.fresh {owners : List (Option Nat)} {links : List ParentLink}
    (founded : Founded owners links) :
    ∀ link ∈ links, some link.1 ∉ owners := by
  induction links generalizing owners with
  | nil => intro link member; cases member
  | cons first rest ih =>
    obtain ⟨_, fresh, founded⟩ := founded
    intro link member
    rcases List.mem_cons.mp member with rfl | later
    · exact fresh
    · exact fun known => ih founded link later (List.mem_cons_of_mem _ known)

/-- **The run of the linking.** Attaching places one after the other, each to an owner that is there
already, adds their links. -/
theorem Linked.attachAll {done links : List ParentLink} {owners : List (Option Nat)}
    (linked : forest.Linked done) (separate : forest.Separate) (founded : Founded owners links)
    (known : ∀ owner, some owner ∈ owners ↔ owner ∈ done.map Prod.fst)
    (inside : ∀ link ∈ done ++ links, link.1 < forest.size)
    (closed : ∀ link ∈ done, link.2 ∈ owners) :
    (forest.attachAll links).Linked (done ++ links) := by
  induction links generalizing forest done owners with
  | nil =>
    rw [List.append_nil]
    exact linked
  | cons link rest ih =>
    obtain ⟨place, parent⟩ := link
    obtain ⟨leads, fresh, founded⟩ := founded
    have step : (forest.attach place parent).Linked (done ++ [(place, parent)]) := by
      refine linked.attach separate (inside (place, parent) (by simp))
        (fun old => fresh ((known place).mpr old))
        (fun link member => inside link (List.mem_append_left _ member)) ?_
      intro link member owner found
      refine (known owner).mp ?_
      rcases List.mem_append.mp member with before | new
      · exact found ▸ closed link before
      · rw [List.mem_singleton.mp new] at found
        exact found ▸ leads
    rw [List.append_cons]
    refine ih step separate.attach founded (fun owner => ?_) (fun link member => ?_)
      (fun link member => ?_)
    · rw [List.mem_cons, known owner]
      simp [or_comm]
    · rw [size_attach]
      exact inside link (by simpa using member)
    · rcases List.mem_append.mp member with before | new
      · exact List.mem_cons_of_mem _ (closed link before)
      · rw [List.mem_singleton.mp new]
        exact List.mem_cons_of_mem _ leads

/-- **A sweep leads every place to the top or to a suite that it opened before.** -/
theorem founded_parentsFrom {opened places : List Nat} {owners : List (Option Nat)}
    (top : none ∈ owners) (known : ∀ suite ∈ opened, some suite ∈ owners) (nodup : places.Nodup)
    (fresh : ∀ place ∈ places, some place ∉ owners) :
    Founded owners (forest.parentsFrom opened places) := by
  induction places generalizing opened owners with
  | nil => exact trivial
  | cons place rest ih =>
    obtain ⟨apart, nodup⟩ := List.nodup_cons.mp nodup
    have kept : ∀ suite ∈ forest.stillOpen opened place, some suite ∈ owners :=
      fun suite member => known suite ((List.dropWhile_sublist _).mem member)
    refine ⟨?_, fresh place List.mem_cons_self, ih (List.mem_cons_of_mem _ top) ?_ nodup ?_⟩
    · show forest.parentAmong (forest.stillOpen opened place) place ∈ owners
      cases found : forest.parentAmong (forest.stillOpen opened place) place with
      | none => exact top
      | some owner => exact kept owner (List.mem_of_find?_eq_some found)
    · intro suite member
      split at member
      · rcases List.mem_cons.mp member with rfl | old
        · exact List.mem_cons_self
        · exact List.mem_cons_of_mem _ (kept suite old)
      · exact List.mem_cons_of_mem _ (kept suite member)
    · intro other member known
      rcases List.mem_cons.mp known with same | old
      · have same : other = place := Option.some.inj same
        exact apart (same ▸ member)
      · exact fresh other (List.mem_cons_of_mem _ member) old

theorem founded_parents (forest : Forest) : Founded [none] forest.parents :=
  founded_parentsFrom List.mem_cons_self (List.forall_mem_nil _) order_nodup
    (fun place _ => by simp)

theorem parents_fst (forest : Forest) :
    forest.parents.map Prod.fst = forest.order := parentsFrom_fst _ _

theorem inside_of_mem_parents {link : ParentLink} (member : link ∈ forest.parents) :
    link.1 < forest.size := by
  rw [← mem_order, ← parents_fst]
  exact List.mem_map_of_mem member

/-- A link leads to a suite of the list that lies strictly around the place. -/
theorem owner_of_mem_parents {place owner : Nat} (member : (place, some owner) ∈ forest.parents) :
    owner < forest.size ∧ (forest.candidate owner).isSuite = true ∧
      (forest.candidate owner).contains (forest.candidate place) = true := by
  have noneOpen : ∀ suite ∈ ([] : List Nat), (forest.candidate suite).isSuite = true :=
    List.forall_mem_nil _
  obtain ⟨opened | listed, facts⟩ := mem_parentsFrom noneOpen member
  · cases opened
  · exact ⟨mem_order.mp listed, facts⟩

/-- The parent that a member notes is that of its link. -/
theorem Linked.mem_parents (linked : forest.Linked forest.parents) {place : Nat}
    (inside : place < forest.size) (parent : Option Nat) : (place, parent) ∈ forest.parents ↔
      (forest.member place).parent = parent := by
  constructor
  · intro member
    exact linked.parent _ member
  · rintro rfl
    have listed : place ∈ forest.parents.map Prod.fst := by
      rw [parents_fst]
      exact mem_order.mpr inside
    obtain ⟨⟨_, parent⟩, member, rfl⟩ := List.mem_map.mp listed
    rw [linked.parent _ member]
    exact member

/-- **A place is attached to its parent and nowhere else.** -/
theorem Linked.mem_attachedTo (linked : forest.Linked forest.parents) {isHook : Bool}
    {owner : Option Nat} {place : Nat} : place ∈ forest.attachedTo forest.parents isHook owner ↔
      place < forest.size ∧ (forest.candidate place).isHook = isHook ∧
        (forest.member place).parent = owner := by
  rw [Forest.mem_attachedTo]
  constructor
  · rintro ⟨member, kind⟩
    have inside := inside_of_mem_parents member
    exact ⟨inside, kind, (linked.mem_parents inside owner).mp member⟩
  · rintro ⟨inside, kind, same⟩
    exact ⟨(linked.mem_parents inside owner).mpr same, kind⟩

end TestOutline.Forest
