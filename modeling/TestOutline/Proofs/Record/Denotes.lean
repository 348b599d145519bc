/-
**Integers among JSON values.**

Integers, booleans, numbers without a fraction and texts may all stand for an integer. Which one
does not depend on how it is read: a number has a rational value, a text a spelling.

* `Binary64.rational?`, `Binary64.integer?_eq_some_iff`: a number is read as the integer that is its
  value.
* `Json.Denotes`: a value denotes an integer; `Json.Spells`: it does so as it is documented.
* `Reading.ReadsIntegers.denotes`, `Reading.ReadsIntegers.integerBy_eq_ok`: a value is read as an
  integer only if it denotes it, and always if it does so as it is documented.
* `Reading.naturalBy_eq_ok_iff`, `Reading.depthLimitBy_eq_some_iff`: bounds and limits are such
  integers, but for the sign of them.
-/

import Mathlib.Algebra.Order.Field.Power
import Mathlib.Data.Rat.Cast.Order
import Mathlib.Tactic.NormNum
import Mathlib.Tactic.Positivity
import TestOutline.Proofs.Record.Spelling
import TestOutline.Record.OptionsReader

namespace TestOutline

/-! ### Numbers -/

namespace Binary64

/-- **The value of a number**, if it is finite. -/
def rational? : Binary64 → Option ℚ
  | .finite negative multiple exponent =>
    some (if negative then -(multiple * 2 ^ exponent) else multiple * 2 ^ exponent)
  | _ => none

theorem size?_eq_some_iff {multiple size : Nat} {exponent : Int} :
    size? multiple exponent = some size ↔ (multiple * 2 ^ exponent : ℚ) = size := by
  unfold size?
  split
  · next large =>
    obtain ⟨power, rfl⟩ := Int.eq_ofNat_of_zero_le large
    rw [Option.some.injEq, zpow_natCast, Int.toNat_natCast]
    exact_mod_cast Iff.rfl
  · next small =>
    obtain ⟨power, rfl⟩ : ∃ power : Nat, exponent = -power := ⟨(-exponent).toNat, by omega⟩
    have positive : 0 < 2 ^ power := Nat.two_pow_pos power
    rw [Int.neg_neg, Int.toNat_natCast, zpow_neg, zpow_natCast, ← div_eq_mul_inv,
      div_eq_iff (by exact_mod_cast positive.ne')]
    show (if multiple % 2 ^ power = 0 then some (multiple / 2 ^ power) else none) = some size ↔ _
    have cast : ((multiple : ℚ) = size * 2 ^ power) ↔ multiple = size * 2 ^ power := by
      exact_mod_cast Iff.rfl
    rw [cast]
    constructor
    · intro found
      split at found
      · next divides =>
        rw [← Option.some.inj found, Nat.div_mul_cancel (Nat.dvd_of_mod_eq_zero divides)]
      · cases found
    · rintro rfl
      rw [if_pos (Nat.mul_mod_left _ _), Nat.mul_div_cancel _ positive]

/-- **A number is read as the integer that is its value.** -/
theorem integer?_eq_some_iff {float : Binary64} {number : Int} :
    float.integer? = some number ↔ float.rational? = some (number : ℚ) := by
  cases float with
  | nan => exact iff_of_false (fun found => nomatch found) (fun found => nomatch found)
  | infinite negative =>
    exact iff_of_false (fun found => nomatch found) (fun found => nomatch found)
  | finite negative multiple exponent =>
    show (size? multiple exponent).map
        (fun size : Nat => if negative then -(size : Int) else size) = some number ↔
      some (if negative then -(multiple * 2 ^ exponent) else multiple * 2 ^ exponent : ℚ) =
        some (number : ℚ)
    rw [Option.map_eq_some_iff, Option.some.injEq]
    have positive : (0 : ℚ) ≤ multiple * 2 ^ exponent := by positivity
    constructor
    · rintro ⟨size, found, rfl⟩
      rw [size?_eq_some_iff.mp found]
      split <;> norm_cast
    · intro same
      cases negative with
      | false =>
        rw [if_neg Bool.false_ne_true] at same
        obtain ⟨size, rfl⟩ :=
          Int.eq_ofNat_of_zero_le (a := number) (by exact_mod_cast same ▸ positive)
        exact ⟨size, size?_eq_some_iff.mpr (by exact_mod_cast same), rfl⟩
      | true =>
        rw [if_pos rfl] at same
        have opposite : (multiple * 2 ^ exponent : ℚ) = ((-number : Int) : ℚ) := by
          rw [Int.cast_neg, ← same, neg_neg]
        obtain ⟨size, isSize⟩ :=
          Int.eq_ofNat_of_zero_le (a := -number) (by exact_mod_cast opposite ▸ positive)
        refine ⟨size, size?_eq_some_iff.mpr ?_, ?_⟩
        · rw [opposite, isSize]
          rfl
        · rw [if_pos rfl, ← isSize, Int.neg_neg]

end Binary64

/-! ### Values -/

namespace Json

/-- **A value denotes an integer.** -/
inductive Denotes : Json → Int → Prop where
  | int (number : Int) : Denotes (.int number) number
  | bool (value : Bool) : Denotes (.bool value) (if value then 1 else 0)
  | float {float : Binary64} {number : Int} : float.rational? = some (number : ℚ) →
      Denotes (.float float) number
  | text {text : Text} {number : Int} : IntegerText.Stands text number →
      Denotes (.string text) number

/-- A value denotes one integer at most. -/
theorem Denotes.unique {json : Json} {first second : Int} (denoted : json.Denotes first)
    (other : json.Denotes second) : first = second := by
  cases denoted with
  | int number =>
    cases other
    rfl
  | bool value =>
    cases other
    rfl
  | float found =>
    cases other with
    | float foundToo => exact Int.cast_injective (Option.some.inj (found.symm.trans foundToo))
  | text stands =>
    cases other with
    | text standsToo => exact stands.unique standsToo

/-- **A value denotes an integer as it is documented**, within the limits for numbers and for
texts. -/
inductive Spells : Json → Int → Prop where
  | int (number : Int) : Spells (.int number) number
  | bool (value : Bool) : Spells (.bool value) (if value then 1 else 0)
  | float {float : Binary64} {number : Int} :
      float.rational? = some (number : ℚ) → Reading.fitsWord number = true →
        Spells (.float float) number
  | text {text : Text} {number : Int} :
      IntegerText.Spells text number → (Text.ofInt number).length ≤ Reading.longestInteger →
        Spells (.string text) number

/-- Whether a value is no limit of depths, although it denotes an integer: a boolean, or a zero that
is not given as an integer. -/
def IsSwitch : Json → Prop
  | .bool _ => True
  | .float number => number.rational? = some 0
  | _ => False

end Json

namespace Reading

variable {ofText : Text → Reading Int} {json : Json} {number : Int}

theorem integerOfFloat_eq_ok_iff {float : Binary64} :
    integerOfFloat float = .ok number ↔
      float.rational? = some (number : ℚ) ∧ fitsWord number = true := by
  rw [← Binary64.integer?_eq_some_iff]
  unfold integerOfFloat
  cases float with
  | nan => exact iff_of_false (fun read => nomatch read) (fun ⟨found, _⟩ => nomatch found)
  | infinite negative =>
    exact iff_of_false (fun read => nomatch read) (fun ⟨found, _⟩ => nomatch found)
  | finite negative multiple exponent =>
    have isFinite : ¬(!(Binary64.finite negative multiple exponent).isFinite) = true :=
      Bool.false_ne_true
    rw [if_neg isFinite]
    constructor
    · intro read
      split at read
      · cases read
      · next found =>
        split at read
        · next fits =>
          cases read
          exact ⟨found, fits⟩
        · cases read
    · rintro ⟨found, fits⟩
      simp only [found, fits, if_true]

/-! ### Integers -/

/-- **A value is read as an integer only if it denotes it.** -/
theorem ReadsIntegers.denotes (lax : ReadsIntegers ofText)
    (read : integerBy ofText json = .ok number) :
    json.Denotes number := by
  cases json with
  | int value =>
    cases read
    exact .int number
  | bool value =>
    cases read
    exact .bool value
  | float float => exact .float (integerOfFloat_eq_ok_iff.mp read).1
  | string text => exact .text (lax.stands read)
  | null => cases read
  | array items => cases read
  | object members => cases read

/-- **A value is read as the integer that it denotes as it is documented.** -/
theorem ReadsIntegers.integerBy_eq_ok (lax : ReadsIntegers ofText) (spells : json.Spells number) :
    integerBy ofText json = .ok number := by
  cases spells with
  | int value => rfl
  | bool value => rfl
  | float found fits => exact integerOfFloat_eq_ok_iff.mpr ⟨found, fits⟩
  | text spelled short => exact lax.reads spelled short

theorem andThen_eq_ok_iff {α β : Type} {reading : Reading α} {next : α → Reading β} {value : β} :
    reading.andThen next = .ok value ↔ ∃ first, reading = .ok first ∧ next first = .ok value := by
  cases reading with
  | ok first => exact ⟨fun same => ⟨first, rfl, same⟩, fun ⟨_, rfl, same⟩ => same⟩
  | refused problems =>
    exact iff_of_false (fun same => nomatch same) (fun ⟨_, same, _⟩ => nomatch same)

/-- **A bound is read as the integer that a value is read as**, unless that is negative. -/
theorem naturalBy_eq_ok_iff :
    naturalBy ofText json = .ok number ↔ integerBy ofText json = .ok number ∧ 0 ≤ number := by
  rw [naturalBy, andThen_eq_ok_iff]
  constructor
  · rintro ⟨first, read, same⟩
    split at same
    · next large =>
      cases same
      exact ⟨read, large⟩
    · cases same
  · rintro ⟨read, large⟩
    exact ⟨number, read, if_pos large⟩

/-! ### Limits of depths -/

theorem under_eq_ok_iff {α : Type} {step : Step} {reading : Reading α} {value : α} :
    reading.under step = .ok value ↔ reading = .ok value := by
  cases reading with
  | ok first => exact Iff.rfl
  | refused problems => exact iff_of_false (fun same => nomatch same) (fun same => nomatch same)

theorem limitOf_eq_ok_iff {reading : Reading Int} {limit : Option Int} :
    limitOf reading = .ok limit ↔ ∃ number, reading = .ok number ∧ limit = some number := by
  cases reading with
  | ok number =>
    constructor
    · intro same
      exact ⟨number, rfl, (Reading.ok.inj same).symm⟩
    · rintro ⟨_, same, rfl⟩
      rw [Reading.ok.inj same]
      rfl
  | refused problems =>
    exact iff_of_false (fun same => nomatch same) (fun ⟨_, same, _⟩ => nomatch same)

/-- Zero is the value of a number that means false. -/
theorem meansFalse_float {float : Binary64} :
    meansFalse (.float float) = true ↔ float.rational? = some 0 := by
  have zero : float.integer? = some 0 ↔ float.rational? = some ((0 : Int) : ℚ) :=
    Binary64.integer?_eq_some_iff
  rw [Int.cast_zero] at zero
  exact beq_iff_eq.trans zero

/-- There is no limit where a switch is off. -/
theorem isSwitch_of_depthLimitBy_eq_none (read : depthLimitBy ofText json = .ok none) :
    json.IsSwitch := by
  unfold depthLimitBy at read
  split at read
  · next isFalse =>
    cases json with
    | bool value => trivial
    | float float => exact meansFalse_float.mp isFalse
    | _ => cases isFalse
  · split at read
    · cases read
    · split at read <;> cases read
    · obtain ⟨_, _, same⟩ := limitOf_eq_ok_iff.mp read
      cases same

/-- **A limit is the integer that a value is read as**, unless the value is a switch; it must not be
negative only where the value is an integer itself. -/
theorem depthLimitBy_eq_some_iff :
    depthLimitBy ofText json = .ok (some number) ↔
      ¬json.IsSwitch ∧ integerBy ofText json = .ok number ∧ (json = .int number → 0 ≤ number) := by
  have limit : ∀ reading : Reading Int, limitOf reading = .ok (some number) ↔
      reading = .ok number := by
    intro reading
    rw [limitOf_eq_ok_iff]
    exact ⟨fun ⟨_, read, same⟩ => Option.some.inj same ▸ read, fun read => ⟨number, read, rfl⟩⟩
  unfold depthLimitBy
  cases json with
  | bool value =>
    refine iff_of_false ?_ fun ⟨noSwitch, _⟩ => noSwitch trivial
    cases value <;> exact fun read => nomatch read
  | int value =>
    rw [if_neg (by exact Bool.false_ne_true)]
    constructor
    · intro read
      simp only at read
      split at read
      · cases read
      · next large =>
        cases read
        exact ⟨id, rfl, fun _ => Int.not_lt.mp large⟩
    · rintro ⟨-, same, large⟩
      cases same
      exact if_neg (Int.not_lt.mpr (large rfl))
  | float float =>
    by_cases zero : float.rational? = some 0
    · rw [if_pos (meansFalse_float.mpr zero)]
      exact iff_of_false (fun read => nomatch read) fun ⟨noSwitch, _⟩ => noSwitch zero
    · rw [if_neg (mt meansFalse_float.mp zero)]
      exact (limit _).trans ⟨fun read => ⟨zero, read, fun same => nomatch same⟩, fun all => all.2.1⟩
  | _ =>
    rw [if_neg (by exact Bool.false_ne_true)]
    exact (limit _).trans ⟨fun read => ⟨id, read, fun same => nomatch same⟩, fun all => all.2.1⟩

end Reading

end TestOutline
