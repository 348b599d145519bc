/-
**Which string literals stand for a text.**

* `escapes`: the escape sequences of a text, found without giving them a meaning.
* `cooked_returns_iff`: a text can be cooked where no escape sequence has a number beyond the last
  code point.
-/

import TestOutline.Proofs.Returns
import TestOutline.Syntax.StringLiteral

namespace TestOutline

/-- A number names a code point where it is not beyond the last one. -/
theorem CodePoint.ofNat?_isSome_iff {number : Nat} :
    (ofNat? number).isSome = true ↔ number < 0x110000 := by
  unfold ofNat?
  split
  · next valid =>
    unfold Nat.isValidChar at valid
    simp only [Option.isSome_some, true_iff]
    omega
  · next invalid =>
    unfold Nat.isValidChar at invalid
    split
    · simp only [Option.isSome_some, true_iff]
      omega
    · simp only [Option.isSome_none, Bool.false_eq_true, false_iff]
      omega

namespace StringLiteral

/-- The escape sequences of a text, in order. -/
def escapes : Text → List Escape
  | [] => []
  | first :: rest =>
    match if first = .scalar '\\' then Escape.read? rest else none with
    | none => escapes rest
    | some (escape, size) => escape :: escapes (rest.drop size)
termination_by text => text.length

/-- An escape sequence stands for a text unless its number is beyond the last code point. -/
theorem Escape.value_returns_iff (escape : Escape) :
    Returns escape.value ↔ ∀ number, escape = .numbered number → number < 0x110000 := by
  cases escape with
  | numbered number =>
    have named := @CodePoint.ofNat?_isSome_iff number
    cases found : CodePoint.ofNat? number with
    | none =>
      rw [found] at named
      simp only [value, found]
      exact iff_of_false (not_returns_error _) fun bounded =>
        absurd (named.mpr (bounded number rfl)) (by simp)
    | some point =>
      rw [found] at named
      simp only [value, found]
      refine iff_of_true (returns_ok _) fun other same => ?_
      cases same
      exact named.mp rfl
  | lineEnd => exact iff_of_true (returns_ok _) (by simp)
  | plain point => exact iff_of_true (returns_ok _) (by simp)

/-- **A text can be cooked** where no escape sequence in it has a number beyond the last code
point. -/
theorem cooked_returns_iff (text : Text) :
    Returns (cooked text) ↔ ∀ number, .numbered number ∈ escapes text → number < 0x110000 := by
  fun_induction escapes text with
  | case1 =>
    rw [cooked]
    exact iff_of_true (returns_ok _) (by simp)
  | case2 first rest found ih =>
    simp only [dite_eq_ite] at found
    rw [cooked, found, ← ih]
    exact returns_bind_pure_iff
  | case3 first rest escape size found ih =>
    simp only [dite_eq_ite] at found
    rw [cooked, found]
    simp only
    rw [returns_bind_iff fun start => returns_bind_pure_iff, ih, Escape.value_returns_iff]
    constructor
    · rintro ⟨here, behind⟩ number member
      rcases List.mem_cons.mp member with same | later
      · exact here number same.symm
      · exact behind number later
    · intro bounded
      exact ⟨fun number same => bounded number (same ▸ List.mem_cons_self),
        fun number later => bounded number (List.mem_cons_of_mem _ later)⟩

end StringLiteral

end TestOutline
