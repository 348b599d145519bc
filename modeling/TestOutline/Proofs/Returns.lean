/-
**Computations that come to a result.**

* `Returns`: a computation that may fail does not.
* `returns_bind_iff`: two computations one after the other come to a result if both do; what the
  second one needs may not depend on the first.
* `map_gathered`: changing what is gathered from one computation and others is changing what each of
  them comes to.
* `forall_ok_iff`, `exists_ok_iff`: what is said of all results, or of some result, is said of the
  one that there is.
-/

import TestOutline.Text.CodePoint

namespace TestOutline

variable {ε δ α β : Type}

/-- **A computation comes to a result.** -/
def Returns (result : Except ε α) : Prop := ∃ value, result = .ok value

theorem returns_ok (value : α) : Returns (.ok value : Except ε α) := ⟨value, rfl⟩

theorem not_returns_error (fault : ε) : ¬ Returns (.error fault : Except ε α) := by
  rintro ⟨_, same⟩
  cases same

theorem returns_of_isOk {result : Except ε α} (isOk : result.isOk = true) : Returns result := by
  cases result with
  | error fault => cases isOk
  | ok value => exact returns_ok value

/-- **One computation after the other** comes to a result if both do. -/
theorem returns_bind_iff {result : Except ε α} {next : α → Except ε β} {rest : Prop}
    (always : ∀ value, Returns (next value) ↔ rest) : Returns (result >>= next) ↔
      Returns result ∧ rest := by
  cases result with
  | error fault => exact iff_of_false (not_returns_error fault) fun both =>
    not_returns_error fault both.1
  | ok value => exact (always value).trans (and_iff_right (returns_ok value)).symm

/-- What is done last, and cannot fail, does not matter. -/
theorem returns_bind_pure_iff {result : Except ε α} {change : α → β} :
    Returns (result >>= fun value => pure (change value)) ↔ Returns result := by
  have always : ∀ value, Returns (pure (change value) : Except ε β) ↔ True :=
    fun value => iff_of_true (returns_ok _) trivial
  rw [returns_bind_iff always, and_true]

theorem returns_mapError_iff {result : Except ε α} {change : ε → δ} :
    Returns (result.mapError change) ↔ Returns result := by
  cases result with
  | error fault => exact iff_of_false (not_returns_error _) (not_returns_error _)
  | ok value => exact iff_of_true (returns_ok _) (returns_ok _)

/-- What is gathered may be changed before or after. -/
theorem map_gathered (change : α → β) (found : Except ε (Option α)) (others : Except ε (List α)) :
    Except.map (List.map change) (do
      let found ← found
      let others ← others
      return found.toList ++ others) = (do
      let found ← found.map (Option.map change)
      let others ← others.map (List.map change)
      return found.toList ++ others) := by
  cases found with
  | error fault => rfl
  | ok found =>
    cases others with
    | error fault => rfl
    | ok others => cases found <;> rfl

/-! ### The result that there is -/

section Result

variable {result : Except ε α} {value : α} {fault : ε} {holds : α → Prop}

theorem forall_ok_iff (came : result = .ok value) :
    (∀ found, result = .ok found → holds found) ↔ holds value := by
  simp [came]

theorem exists_ok_iff (came : result = .ok value) :
    (∃ found, result = .ok found ∧ holds found) ↔ holds value := by
  simp [came]

theorem forall_ok_of_error (failed : result = .error fault) :
    ∀ found, result = .ok found → holds found := by
  simp [failed]

theorem not_exists_ok_of_error (failed : result = .error fault) :
    ¬ ∃ found, result = .ok found ∧ holds found := by
  simp [failed]

end Result

/-- Where nothing is read, a result is all that is asked for. -/
theorem returns_ok_iff_of_none {value : α} {holds : β → Prop} :
    Returns (.ok value : Except ε α) ↔ ∀ found, none = some found → holds found :=
  iff_of_true (returns_ok value) (by simp)

/-- Where one thing is read, what is asked for is asked of it. -/
theorem forall_some_iff {value : β} {holds : β → Prop} :
    (∀ found, some value = some found → holds found) ↔ holds value := by
  simp

/-- What holds of all that a list gives holds of what its first element gives and of what the others
give. -/
theorem forall_mem_filterMap_cons {give : α → Option β} {first : α} {rest : List α}
    {holds : β → Prop} :
    (∀ value ∈ (first :: rest).filterMap give, holds value) ↔
      (∀ value, give first = some value → holds value) ∧
        ∀ value ∈ rest.filterMap give, holds value := by
  cases found : give first with
  | none =>
    rw [List.filterMap_cons_none found]
    simp
  | some value => rw [List.filterMap_cons_some found, List.forall_mem_cons, forall_some_iff]

end TestOutline
