/-
**The order in which places are linked.**

* `order_perm`: every place comes once.
* `order_precedes`: of two places the one comes first that starts first; of equal starts the one
  that ends last; of equal ranges the one that is listed first.
-/

import TestOutline.Proofs.Forest.Frame

namespace TestOutline

namespace Candidate

theorem contains_iff {outer inner : Candidate} :
    outer.contains inner = true ↔
      outer.startOffset < inner.startOffset ∧ inner.endOffset < outer.endOffset := by
  simp [contains]

theorem comesFirst_iff {left right : Candidate} :
    left.comesFirst right = true ↔
      left.startOffset < right.startOffset ∨
        left.startOffset = right.startOffset ∧ right.endOffset ≤ left.endOffset := by
  simp [comesFirst]

theorem comesFirst_trans (first second third : Candidate) (left : first.comesFirst second = true)
    (right : second.comesFirst third = true) : first.comesFirst third = true := by
  rw [comesFirst_iff] at left right ⊢
  omega

theorem comesFirst_total (left right : Candidate) :
    (left.comesFirst right || right.comesFirst left) = true := by
  rw [Bool.or_eq_true, comesFirst_iff, comesFirst_iff]
  omega

theorem starts_trans (first second third : Candidate)
    (left : decide (first.startOffset ≤ second.startOffset) = true)
    (right : decide (second.startOffset ≤ third.startOffset) = true) :
    decide (first.startOffset ≤ third.startOffset) = true := by
  rw [decide_eq_true_eq] at left right ⊢
  omega

theorem starts_total (left right : Candidate) :
    (decide (left.startOffset ≤ right.startOffset) ||
      decide (right.startOffset ≤ left.startOffset)) = true := by
  rw [Bool.or_eq_true, decide_eq_true_eq, decide_eq_true_eq]
  omega

/-- What lies strictly inside a candidate comes after it. -/
theorem not_comesFirst_of_contains {outer inner : Candidate}
    (inside : outer.contains inner = true) :
    ¬ inner.comesFirst outer = true := by
  rw [contains_iff] at inside
  rw [comesFirst_iff]
  omega

theorem contains_trans {outer middle inner : Candidate} (left : outer.contains middle = true)
    (right : middle.contains inner = true) : outer.contains inner = true := by
  rw [contains_iff] at left right ⊢
  omega

/-- A candidate is a suite, a test or a hook. -/
theorem kinds (candidate : Candidate) :
    candidate.kind = .block .suite ∨ candidate.kind = .block .test ∨
      ∃ hook, candidate.kind = .hook hook := by
  cases candidate.kind with
  | block kind => cases kind <;> simp
  | hook kind => exact .inr (.inr ⟨kind, rfl⟩)

theorem not_isHook_of_isSuite {candidate : Candidate} (isSuite : candidate.isSuite = true) :
    candidate.isHook = false := by
  unfold Candidate.isSuite at isSuite
  rw [beq_iff_eq] at isSuite
  rw [Candidate.isHook, isSuite, CallKind.isHook]

end Candidate

namespace Forest

variable {forest : Forest} {place other : Nat}

/-- **The order in which places are linked**: by range, and places of equal ranges as they are
listed. -/
def Precedes (forest : Forest) (left right : Nat) : Prop :=
  (forest.candidate left).comesFirst (forest.candidate right) = true ∧
    ((forest.candidate right).comesFirst (forest.candidate left) = true → left < right)

theorem Precedes.starts (precedes : forest.Precedes place other) :
    (forest.candidate place).startOffset ≤ (forest.candidate other).startOffset := by
  have ordered := precedes.1
  rw [Candidate.comesFirst_iff] at ordered
  omega

/-- What lies strictly inside a candidate does not precede it. -/
theorem Precedes.not_contains (precedes : forest.Precedes place other) :
    ¬ (forest.candidate other).contains (forest.candidate place) = true :=
  fun inside => Candidate.not_comesFirst_of_contains inside precedes.1

/-- Every place comes once. -/
theorem order_perm : forest.order.Perm (List.range forest.size) := List.mergeSort_perm _ _

theorem mem_order : place ∈ forest.order ↔ place < forest.size := by
  rw [order_perm.mem_iff, List.mem_range]

/-- Places that are listed in this order stay where they are. -/
theorem order_eq_range (sorted : (List.range forest.size).Pairwise fun left right =>
    (forest.candidate left).comesFirst (forest.candidate right) = true) : forest.order =
      List.range forest.size :=
  List.mergeSort_of_pairwise sorted

theorem order_nodup : forest.order.Nodup := order_perm.nodup_iff.mpr List.nodup_range

/-- **Places are linked in their order.** Sorting keeps equal ranges as they are listed: it sorts
places together with where they are listed. -/
theorem order_precedes : forest.order.Pairwise forest.Precedes := by
  unfold order
  rw [← List.mergeSort_zipIdx, List.pairwise_map]
  have nodup : (((List.range forest.size).zipIdx).mergeSort (List.zipIdxLE fun left right =>
      (forest.candidate left).comesFirst (forest.candidate right))).Nodup := by
    refine (List.mergeSort_perm _ _).nodup_iff.mpr ?_
    exact List.Nodup.of_map Prod.fst (by rw [List.zipIdx_map_fst]; exact List.nodup_range)
  have sorted := List.pairwise_mergeSort
    (List.zipIdxLE_trans fun first second third =>
      Candidate.comesFirst_trans (forest.candidate first) (forest.candidate second)
        (forest.candidate third))
    (List.zipIdxLE_total fun left right =>
      Candidate.comesFirst_total (forest.candidate left) (forest.candidate right))
    (List.range forest.size).zipIdx
  refine (sorted.and nodup).imp_of_mem fun {left right} leftMember rightMember both => ?_
  have leftListed : left.1 = left.2 := by
    have := List.mem_zipIdx (List.mem_mergeSort.mp leftMember)
    simpa using this.2.2
  have rightListed : right.1 = right.2 := by
    have := List.mem_zipIdx (List.mem_mergeSort.mp rightMember)
    simpa using this.2.2
  obtain ⟨ordered, different⟩ := both
  unfold List.zipIdxLE at ordered
  split at ordered
  · next first =>
    refine ⟨first, fun second => ?_⟩
    rw [if_pos second, decide_eq_true_eq] at ordered
    have : left.1 ≠ right.1 := fun same => different (Prod.ext same (by omega))
    omega
  · cases ordered

/-- The order depends on the candidates alone. -/
theorem order_congr {first second : Forest} (size : first.size = second.size)
    (same : ∀ place, first.candidate place = second.candidate place) :
    first.order = second.order := by
  unfold order
  rw [size]
  simp only [same]

end Forest

end TestOutline
