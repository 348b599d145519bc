/-
**Bisection.** The first index at which a test stops holding, found by halving an interval.

* `Bisect.lt_partitionPoint_iff` — for a test that never holds again once it has failed, the indexes
  below the partition point are exactly those that pass.
* `Bisect.lt_upperBound_iff`, `Bisect.lt_lowerBound_iff` — in a sorted array the entries that pass
  come first.
* `Bisect.exists_mem_window_iff` — of a sorted array one entry tells whether any lies in a window.
* `Bisect.upperBound_eq_countP` — bisection of a sorted array counts the entries that pass.
-/

namespace TestOutline.Bisect

/-- The least index of `[low, high]` at which the test has stopped holding. -/
def partitionPoint (test : Nat → Bool) (low high : Nat) : Nat :=
  if low < high then
    let middle := (low + high) / 2
    if test middle then partitionPoint test (middle + 1) high
    else partitionPoint test low middle
  else low
termination_by high - low

/-- The number of entries of a sorted array that lie strictly below the value. -/
def lowerBound (values : Array Int) (value : Int) : Nat :=
  partitionPoint (fun index => decide (values.getD index 0 < value)) 0 values.size

/-- The number of entries of a sorted array that do not exceed the value. -/
def upperBound (values : Array Nat) (value : Int) : Nat :=
  partitionPoint (fun index => decide ((values.getD index 0 : Int) ≤ value)) 0 values.size

/-- The partition point lies in the interval. -/
theorem partitionPoint_mem (test : Nat → Bool) (low high : Nat) (ordered : low ≤ high) :
    low ≤ partitionPoint test low high ∧ partitionPoint test low high ≤ high := by
  fun_induction partitionPoint test low high with
  | case1 low high below middle holds ih =>
    have := ih (by omega)
    omega
  | case2 low high below middle fails ih =>
    have := ih (by omega)
    omega
  | case3 low high above => omega

/-- For a test that never holds again once it has failed, the indexes below the partition point are
exactly those that pass. -/
theorem lt_partitionPoint_iff (test : Nat → Bool)
    (low high index : Nat) (monotone : ∀ i j, i ≤ j → j < high → test j = true → test i = true)
    (above : low ≤ index) (below : index < high) :
    index < partitionPoint test low high ↔ test index = true := by
  fun_induction partitionPoint test low high with
  | case1 low high inside middle holds ih =>
    by_cases right : middle + 1 ≤ index
    · exact ih monotone right below
    · have passed : test index = true := monotone index middle (by omega) (by omega) holds
      have := (partitionPoint_mem test (middle + 1) high (by omega)).1
      exact ⟨fun _ => passed, fun _ => by omega⟩
  | case2 low high inside middle fails ih =>
    by_cases left : index < middle
    · exact ih (fun i j ordered within => monotone i j ordered (by omega)) above left
    · have failed : ¬ test index = true :=
        fun passed => fails (monotone middle index (by omega) below passed)
      have := (partitionPoint_mem test low middle (by omega)).2
      exact ⟨fun _ => by omega, fun passed => absurd passed failed⟩
  | case3 low high outside => omega

/-- **Bisection of an array** whose entries never pass again once one has failed: the entries below
the partition point are exactly those that pass. -/
theorem lt_partitionPoint_entries_iff {α : Type} {values : Array α} (below : α → Prop)
    [DecidablePred below] (fallback : α)
    (monotone : values.toList.Pairwise fun left right => below right → below left) {index : Nat}
    (inside : index < values.size) :
    index <
        partitionPoint (fun place => decide (below (values.getD place fallback))) 0 values.size ↔
      below values[index] := by
  have entry : ∀ place (within : place < values.size), values.getD place fallback =
      values[place] := by
    intro place within
    simp [Array.getD, within]
  rw [← entry index inside, ← decide_eq_true_iff (p := below (values.getD index fallback))]
  refine lt_partitionPoint_iff (fun place => decide (below (values.getD place fallback)))
    0 values.size index (fun i j ordered within passed => ?_) (Nat.zero_le _) inside
  rcases Nat.lt_or_eq_of_le ordered with before | rfl
  · rw [decide_eq_true_iff, entry j within] at passed
    rw [decide_eq_true_iff, entry i (by omega)]
    exact List.pairwise_iff_getElem.mp monotone i j (by simp; omega) (by simpa using within)
      before passed
  · exact passed

/-- The entries of a sorted array that do not exceed a value come first. -/
theorem lt_upperBound_iff {values : Array Nat} (sorted : values.toList.Pairwise (· ≤ ·))
    (value : Int) {index : Nat} (inside : index < values.size) :
    index < upperBound values value ↔ (values[index] : Int) ≤ value :=
  lt_partitionPoint_entries_iff (fun entry : Nat => (entry : Int) ≤ value) 0
    (sorted.imp fun ordered passed => by omega) inside

/-- The entries of a sorted array that lie below a value come first. -/
theorem lt_lowerBound_iff {values : Array Int} (sorted : values.toList.Pairwise (· ≤ ·))
    (value : Int) {index : Nat} (inside : index < values.size) :
    index < lowerBound values value ↔ values[index] < value :=
  lt_partitionPoint_entries_iff (fun entry => entry < value) 0
    (sorted.imp fun ordered passed => by omega) inside

/-- **The first entry that is not below a value decides** whether any entry of a sorted array lies
in a window that starts at the value. -/
theorem exists_mem_window_iff {values : Array Int} (sorted : values.toList.Pairwise (· ≤ ·))
    (low high : Int) :
    (∃ entry ∈ values.toList, low ≤ entry ∧ entry ≤ high) ↔
      ∃ entry, values[lowerBound values low]? = some entry ∧ entry ≤ high := by
  constructor
  · rintro ⟨entry, member, above, below⟩
    obtain ⟨index, inside, rfl⟩ := List.mem_iff_getElem.mp member
    rw [Array.length_toList] at inside
    rw [Array.getElem_toList] at above below
    have reached : lowerBound values low ≤ index := by
      rw [← Nat.not_lt, lt_lowerBound_iff sorted low inside]
      omega
    refine ⟨_, Array.getElem?_eq_getElem (by omega), ?_⟩
    rcases Nat.lt_or_eq_of_le reached with earlier | same
    · have := List.pairwise_iff_getElem.mp sorted _ index (by simp; omega)
        (by simpa using inside) earlier
      rw [Array.getElem_toList, Array.getElem_toList] at this
      omega
    · simpa [same] using below
  · rintro ⟨entry, found, below⟩
    obtain ⟨inside, rfl⟩ := Array.getElem?_eq_some_iff.mp found
    have notBelow := mt (lt_lowerBound_iff sorted low inside).mpr (Nat.lt_irrefl _)
    exact ⟨_, Array.mem_toList_iff.mpr (Array.getElem_mem inside), by omega, below⟩

/-- **Bisection of a sorted array counts the entries that pass.** -/
theorem upperBound_eq_countP {values : Array Nat} (sorted : values.toList.Pairwise (· ≤ ·))
    (value : Int) :
    upperBound values value = values.toList.countP fun entry :
      Nat => decide ((entry : Int) ≤ value) := by
  let below (entry : Nat) : Bool := decide ((entry : Int) ≤ value)
  have spec : ∀ (index : Nat) (inside : index < values.size),
      index < upperBound values value ↔ below values[index] = true :=
    fun index inside => (lt_upperBound_iff sorted value inside).trans decide_eq_true_iff.symm
  have bound : upperBound values value ≤ values.toList.length :=
    (partitionPoint_mem _ 0 values.size (Nat.zero_le _)).2
  have taken : ∀ entry ∈ values.toList.take (upperBound values value), below entry = true := by
    intro entry member
    obtain ⟨index, within, rfl⟩ := List.mem_take_iff_getElem.mp member
    rw [Nat.lt_min] at within
    exact (spec index within.2).mp within.1
  have left : ∀ entry ∈ values.toList.drop (upperBound values value), ¬ below entry = true := by
    intro entry member passed
    obtain ⟨index, within, rfl⟩ := List.mem_drop_iff_getElem.mp member
    have := (spec _ (by simpa [Nat.add_comm] using within)).mpr passed
    omega
  calc upperBound values value
      = (values.toList.take (upperBound values value)).length := by
        rw [List.length_take, Nat.min_eq_left bound]
    _ = (values.toList.take (upperBound values value) ++
      values.toList.drop (upperBound values value)).countP below := by
        rw [List.countP_append, List.countP_eq_length.mpr taken, List.countP_eq_zero.mpr left,
          Nat.add_zero]
    _ = values.toList.countP below := by rw [List.take_append_drop]

end TestOutline.Bisect
