/-
**What a change to one member leaves alone.**

* `candidate_modify`, `candidate_attach`: links are written without touching candidates, whatever is
  listed.
* `member_modify`: where each place has a member of its own (`Separate`), a change at a place is
  seen there and nowhere else.
* `member_unlinked`: a list of members starts without links, whatever links they had before.
* `member_attach_some`: attaching a place below an owner changes the two of them only.
-/

import Mathlib.Data.List.Nodup
import TestOutline.Outline.Classifier

namespace TestOutline.Forest

/-- **Each place has a member of its own**, and that member exists. -/
structure Separate (forest : Forest) : Prop where
  nodup : forest.numbers.toList.Nodup
  inRange : ∀ number ∈ forest.numbers.toList, number < forest.members.size

variable {forest : Forest} {place other : Nat} {change : Member → Member}

/-- No member stands outside the list. -/
theorem member_outside (outside : forest.size ≤ place) : forest.member place = default := by
  rw [member, Array.getElem?_eq_none outside]
  rfl

/-! ### One change -/

@[simp] theorem numbers_modify : (forest.modify place change).numbers = forest.numbers := by
  unfold modify
  split <;> rfl

@[simp] theorem size_modify : (forest.modify place change).size = forest.size := by
  rw [size, numbers_modify, size]

@[simp] theorem roots_modify : (forest.modify place change).roots = forest.roots := by
  unfold modify
  split <;> rfl

@[simp] theorem rootHooks_modify : (forest.modify place change).rootHooks = forest.rootHooks := by
  unfold modify
  split <;> rfl

@[simp] theorem membersSize_modify :
    (forest.modify place change).members.size = forest.members.size := by
  unfold modify
  split
  · rw [Array.size_modify]
  · rfl

theorem Separate.modify (separate : forest.Separate) : (forest.modify place change).Separate := by
  refine ⟨?_, ?_⟩
  · rw [numbers_modify]
    exact separate.nodup
  · rw [numbers_modify, membersSize_modify]
    exact separate.inRange

/-- What a change keeps of a member it keeps of all of them, also of members that are listed
twice. -/
theorem field_modify {α : Type} {field : Member → α}
    (keeps : ∀ member, field (change member) = field member) :
    field ((forest.modify place change).member other) = field (forest.member other) := by
  unfold member
  rw [numbers_modify]
  cases forest.numbers[other]? with
  | none => rfl
  | some number =>
    unfold Forest.modify
    split
    · next changed _ =>
      simp only [Option.bind_some, Array.getElem?_modify]
      split
      · cases forest.members[number]? with
        | none => rfl
        | some member => exact keeps member
      · rfl
    · rfl

theorem candidate_modify (keeps : ∀ member, (change member).candidate = member.candidate) :
    (forest.modify place change).candidate other = forest.candidate other := field_modify keeps

theorem Separate.exists_member (separate : forest.Separate) (inside : place < forest.size) :
    ∃ number, forest.numbers[place]? = some number ∧ ∃ found : number < forest.members.size,
      forest.member place = forest.members[number] := by
  have inRange := separate.inRange forest.numbers[place] (by simp [size] at inside ⊢)
  refine ⟨forest.numbers[place], Array.getElem?_eq_getElem inside, inRange, ?_⟩
  simp [member, Array.getElem?_eq_getElem inside, Array.getElem?_eq_getElem inRange]

/-- A change at a place is seen there. -/
theorem member_modify_self (separate : forest.Separate) (inside : place < forest.size) :
    (forest.modify place change).member place = change (forest.member place) := by
  obtain ⟨number, found, inRange, same⟩ := separate.exists_member inside
  rw [same]
  simp [member, modify, found, Array.getElem?_modify, inRange]

/-- A change at a place is seen at no other place. -/
theorem member_modify_of_ne (separate : forest.Separate) (different : other ≠ place) :
    (forest.modify place change).member other = forest.member other := by
  unfold Forest.modify
  cases found : forest.numbers[place]? with
  | none => rfl
  | some number =>
    simp only [member]
    cases foundOther : forest.numbers[other]? with
    | none => rfl
    | some otherNumber =>
      have distinct : number ≠ otherNumber := by
        intro equal
        subst equal
        rw [Array.getElem?_eq_some_iff] at found foundOther
        obtain ⟨inside, found⟩ := found
        obtain ⟨insideOther, foundOther⟩ := foundOther
        have same : forest.numbers.toList[other] = forest.numbers.toList[place] := by
          simpa using foundOther.trans found.symm
        exact different ((List.Nodup.getElem_inj_iff separate.nodup).mp same)
      simp [Array.getElem?_modify, distinct]

/-- **A change at a place is seen there and nowhere else.** -/
theorem member_modify (separate : forest.Separate) (inside : place < forest.size) :
    (forest.modify place change).member other =
      if other = place then change (forest.member place) else forest.member other := by
  by_cases same : other = place
  · rw [if_pos same, same, member_modify_self separate inside]
  · rw [if_neg same, member_modify_of_ne separate same]

/-! ### Starting without links -/

theorem Separate.start {members : Array Member} {numbers : List Nat} (nodup : numbers.Nodup)
    (inRange : ∀ number ∈ numbers, number < members.size) :
    Separate ⟨members, numbers.toArray, [], []⟩ :=
  ⟨by simpa using nodup, by simpa using inRange⟩

/-- Taking the links from members one after the other: each is changed once, the others are not. -/
theorem member_foldl_unlinked (places : List Nat) (nodup : places.Nodup) (forest : Forest)
    (separate : forest.Separate) (inside : ∀ place ∈ places, place < forest.size) (other : Nat) :
    (places.foldl (fun forest place => forest.modify place (Member.unlinked place)) forest).member
      other =
      if other ∈ places then (forest.member other).unlinked other else forest.member other := by
  induction places generalizing forest with
  | nil => simp
  | cons place rest ih =>
    obtain ⟨fresh, nodup⟩ := List.nodup_cons.mp nodup
    rw [List.foldl_cons, ih nodup _ separate.modify (fun later member => by
      rw [size_modify]
      exact inside later (List.mem_cons_of_mem _ member))]
    have changed : (forest.modify place (Member.unlinked place)).member other =
        if other = place then (forest.member place).unlinked place else forest.member other :=
      member_modify separate (inside place List.mem_cons_self)
    by_cases same : other = place
    · subst same
      rw [if_neg fresh, changed, if_pos rfl, if_pos List.mem_cons_self]
    · rw [changed, if_neg same]
      simp [same]

theorem foldl_modify_fields (places : List Nat) (change : Nat → Member → Member) (forest : Forest) :
    let changed := places.foldl (fun forest place => forest.modify place (change place)) forest
    changed.numbers = forest.numbers ∧ changed.roots = forest.roots ∧
      changed.rootHooks = forest.rootHooks ∧ changed.members.size = forest.members.size := by
  induction places generalizing forest with
  | nil => exact ⟨rfl, rfl, rfl, rfl⟩
  | cons place rest ih =>
    obtain ⟨numbers, roots, rootHooks, members⟩ := ih (forest.modify place (change place))
    rw [List.foldl_cons]
    exact ⟨numbers.trans numbers_modify, roots.trans roots_modify, rootHooks.trans rootHooks_modify,
      members.trans membersSize_modify⟩

section Start

variable {members : Array Member} {numbers : List Nat}

@[simp] theorem numbers_unlinked : (unlinked members numbers).numbers = numbers.toArray :=
  (foldl_modify_fields _ Member.unlinked _).1

@[simp] theorem roots_unlinked : (unlinked members numbers).roots = [] :=
  (foldl_modify_fields _ Member.unlinked _).2.1

@[simp] theorem rootHooks_unlinked : (unlinked members numbers).rootHooks = [] :=
  (foldl_modify_fields _ Member.unlinked _).2.2.1

@[simp] theorem size_unlinked : (unlinked members numbers).size = numbers.length := by
  rw [size, numbers_unlinked, List.size_toArray]

theorem Separate.unlinked (nodup : numbers.Nodup)
    (inRange : ∀ number ∈ numbers, number < members.size) :
    (unlinked members numbers).Separate := by
  refine ⟨?_, ?_⟩
  · rw [numbers_unlinked]
    exact nodup
  · rw [numbers_unlinked, Forest.unlinked, (foldl_modify_fields _ Member.unlinked _).2.2.2]
    exact inRange

/-- **A list of members starts without links**, whatever links they had before. -/
theorem member_unlinked (nodup : numbers.Nodup)
    (inRange : ∀ number ∈ numbers, number < members.size) {place : Nat}
    (inside : place < numbers.length) :
    ∃ found : numbers[place] < members.size,
      (unlinked members numbers).member place = (members[numbers[place]]).unlinked place := by
  have found := inRange _ (List.getElem_mem inside)
  refine ⟨found, ?_⟩
  rw [Forest.unlinked, member_foldl_unlinked _ List.nodup_range _ (.start nodup inRange)
    (fun place member => by simpa [size] using member), if_pos (List.mem_range.mpr inside)]
  simp [member, inside, found]

end Start

/-! ### Attaching a place -/

variable {parent : Option Nat}

/-- Links are written without touching candidates, whatever is listed. -/
@[simp] theorem candidate_attach :
    (forest.attach place parent).candidate other = forest.candidate other := by
  unfold attach
  cases parent with
  | some owner =>
    simp only
    rw [candidate_modify (Member.adopt_candidate _ place),
      candidate_modify (Member.below_candidate owner _)]
  | none =>
    simp only
    split <;> rfl

@[simp] theorem size_attach : (forest.attach place parent).size = forest.size := by
  unfold attach
  cases parent with
  | some owner => simp
  | none =>
    simp only
    split <;> rfl

theorem Separate.attach (separate : forest.Separate) : (forest.attach place parent).Separate := by
  unfold Forest.attach
  cases parent with
  | some owner => exact separate.modify.modify
  | none =>
    simp only
    split <;> exact ⟨separate.nodup, separate.inRange⟩

theorem member_attach_none : (forest.attach place none).member other = forest.member other := by
  unfold attach
  simp only
  split <;> rfl

/-- **Attaching a place below an owner** changes the two of them only: the owner adopts the place,
and the place notes its owner and its depth. -/
theorem member_attach_some {owner : Nat} (separate : forest.Separate) (inside : place < forest.size)
    (ownerInside : owner < forest.size) (different : place ≠ owner) :
    (forest.attach place (some owner)).member other =
      if other = owner then (forest.member owner).adopt (forest.candidate place).isHook place
      else if other = place then (forest.member place).below owner ((forest.member owner).depth + 1)
      else forest.member other := by
  unfold attach
  simp only
  rw [member_modify separate.modify (by simpa using ownerInside),
    member_modify_of_ne separate (Ne.symm different)]
  by_cases same : other = owner
  · rw [if_pos same, if_pos same]
  · rw [if_neg same, if_neg same, member_modify separate inside]

end TestOutline.Forest
