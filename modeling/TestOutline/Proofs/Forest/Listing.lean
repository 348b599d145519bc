/-
**Lists that are linked.**

* `link_linked`: a linked list has the links that its `parents` say, and no others.
* `Lists`: the members of a list, each at one place, with the candidates that they are made of;
  whatever they were linked to before is forgotten.
-/

import TestOutline.Proofs.Forest.Sweep

namespace TestOutline.Forest

/-! ### Members that are linked -/

theorem attachAll_fields (forest : Forest) (links : List ParentLink) :
    (forest.attachAll links).size = forest.size ∧
      (forest.Separate → (forest.attachAll links).Separate) ∧
      ∀ place, (forest.attachAll links).candidate place = forest.candidate place := by
  induction links generalizing forest with
  | nil => exact ⟨rfl, id, fun _ => rfl⟩
  | cons link rest ih =>
    obtain ⟨size, separate, candidates⟩ := ih (forest.attach link.1 link.2)
    exact ⟨size.trans size_attach, fun given => separate given.attach,
      fun place => (candidates place).trans candidate_attach⟩

section Link

variable {members : Array Member} {numbers : List Nat}

theorem link_eq_attachAll (members : Array Member) (numbers : List Nat) :
    link members numbers =
      (unlinked members numbers).attachAll (unlinked members numbers).parents :=
  sweep_eq_attachAll _ _ _

@[simp] theorem size_link : (link members numbers).size = numbers.length := by
  rw [link_eq_attachAll, (attachAll_fields _ _).1, size_unlinked]

theorem candidate_link (place : Nat) :
    (link members numbers).candidate place = (unlinked members numbers).candidate place := by
  rw [link_eq_attachAll, (attachAll_fields _ _).2.2]

theorem parents_link : (link members numbers).parents = (unlinked members numbers).parents := by
  unfold parents
  rw [order_congr (size_link.trans size_unlinked.symm) candidate_link,
    parentsFrom_congr candidate_link]

variable (nodup : numbers.Nodup) (inRange : ∀ number ∈ numbers, number < members.size)

include nodup inRange

theorem Separate.link : (link members numbers).Separate := by
  rw [link_eq_attachAll]
  exact (attachAll_fields _ _).2.1 (.unlinked nodup inRange)

/-- **A linked list has the links that its parents say, and no others.** -/
theorem link_linked : (link members numbers).Linked (link members numbers).parents := by
  have start : (unlinked members numbers).Linked [] := by
    have fields : ∀ place < (unlinked members numbers).size,
        ∃ member : Member, (unlinked members numbers).member place = member.unlinked place := by
      intro place inside
      obtain ⟨_, same⟩ := member_unlinked nodup inRange (by simpa using inside)
      exact ⟨_, same⟩
    constructor
    case parent => intro link member; cases member
    case top => intro place member; cases member
    case below => intro place owner member; cases member
    case unplaced =>
      intro place inside _
      obtain ⟨member, same⟩ := fields place inside
      rw [same]
      exact ⟨rfl, rfl⟩
    case children =>
      intro place inside
      obtain ⟨member, same⟩ := fields place inside
      rw [same]
      rfl
    case hooks =>
      intro place inside
      obtain ⟨member, same⟩ := fields place inside
      rw [same]
      rfl
    case roots => exact roots_unlinked
    case rootHooks => exact rootHooks_unlinked
  rw [parents_link, link_eq_attachAll, ← List.nil_append (unlinked members numbers).parents]
  refine start.attachAll (.unlinked nodup inRange) (founded_parents _) (fun owner => by simp) ?_
    (List.forall_mem_nil _)
  intro link member
  rw [List.nil_append] at member
  exact inside_of_mem_parents member

end Link

/-! ### Candidates that are listed -/

/-- **Numbers list members that are made of some candidates**, each a member of its own. What the
members are linked to and what they were found to exercise is left open. -/
structure Lists (members : Array Member) (numbers : List Nat) (candidates : List Candidate) :
    Prop where
  nodup : numbers.Nodup
  made : (numbers.map fun number => members[number]?.map Member.candidate) = candidates.map some

section Lists

variable {members : Array Member} {numbers : List Nat} {candidates : List Candidate}
  (lists : Lists members numbers candidates)

include lists

theorem Lists.inRange : ∀ number ∈ numbers, number < members.size := by
  intro number member
  have listed : members[number]?.map Member.candidate ∈ candidates.map some := by
    rw [← lists.made]
    exact List.mem_map_of_mem member
  obtain ⟨_, _, found⟩ := List.mem_map.mp listed
  by_contra outside
  rw [Array.getElem?_eq_none (by omega)] at found
  cases found

theorem Lists.length : candidates.length = numbers.length := by
  have lengths := congrArg List.length lists.made
  simpa using lengths.symm

/-- The forest of a list holds the listed candidates. -/
theorem Lists.candidate_link {place : Nat} (inside : place < candidates.length) :
    (link members numbers).candidate place = candidates[place] := by
  have listed : place < numbers.length := lists.length ▸ inside
  obtain ⟨found, same⟩ := member_unlinked lists.nodup lists.inRange listed
  have made := congrArg (fun list => list[place]?) lists.made
  simp only [List.getElem?_map, List.getElem?_eq_getElem listed, List.getElem?_eq_getElem inside,
    Option.map_some, Array.getElem?_eq_getElem found, Option.some.injEq] at made
  rw [Forest.candidate_link, candidate, same, Member.unlinked_candidate, made]

/-- The listed candidates are those of the places. -/
theorem Lists.map_candidate :
    (List.range candidates.length).map (link members numbers).candidate = candidates := by
  refine List.ext_getElem (by simp) fun place left right => ?_
  rw [List.getElem_map, List.getElem_range, lists.candidate_link right]

/-- The candidates of a kind are those of the places of this kind. -/
theorem Lists.filter_candidate (keep : Candidate → Bool) :
    ((List.range candidates.length).filter fun place =>
      keep ((link members numbers).candidate place)).map
      (link members numbers).candidate = candidates.filter keep := by
  conv_rhs => rw [← lists.map_candidate, List.filter_map]
  rfl

theorem Lists.separate : (link members numbers).Separate := .link lists.nodup lists.inRange

theorem Lists.linked : (link members numbers).Linked (link members numbers).parents :=
  link_linked lists.nodup lists.inRange

theorem Lists.size : (link members numbers).size = candidates.length := by
  rw [size_link, lists.length]

end Lists

/-- Candidates make a list of their own. -/
theorem Lists.ofCandidates (candidates : List Candidate) :
    Lists (candidates.map Member.ofCandidate).toArray (List.range candidates.length)
      candidates := by
  refine ⟨List.nodup_range, List.ext_getElem (by simp) fun place left right => ?_⟩
  simp only [List.length_map, List.length_range] at left
  simp [left, Member.ofCandidate]

/-- A call of a kind that reaches over a range. -/
def spanning (kind : CallKind) (startOffset endOffset : Int) : Candidate :=
  { (default : Candidate) with kind := kind, startOffset := startOffset, endOffset := endOffset }

end TestOutline.Forest
