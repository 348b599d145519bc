/-
**Parentheses that belong together.**

A parenthesis is closed by counting: the count goes up and down along a text, and stops where it
comes back.

* `Balanced`: texts whose parentheses belong together, by a grammar.
* `Balanced.count_eq`, `Balanced.count_take_le`: in a balanced text as many parentheses close as
  open, and never more on the way.
* `closingLength?_eq_some_iff`: the count stops behind a balanced text, at the parenthesis that
  closes.
-/

import TestOutline.Metadata.TestCode

namespace TestOutline.TestCode

variable {text inner rest : Text} {point : CodePoint} {length : Nat}

/-! ### Balanced texts -/

/-- **Parentheses that belong together**, with other code points between them. -/
inductive Balanced : Text → Prop
  | nil : Balanced []
  | other {point : CodePoint} {rest : Text} : point ≠ .scalar '(' → point ≠ .scalar ')' →
      Balanced rest →
      Balanced (point :: rest)
  | nest {inner rest : Text} : Balanced inner → Balanced rest →
      Balanced (.scalar '(' :: (inner ++ .scalar ')' :: rest))

/-- What has no parentheses in it may be put before a balanced text. -/
theorem Balanced.append_left {left : Text} (noOpening : .scalar '(' ∉ left)
    (noClosing : .scalar ')' ∉ left)
    (balanced : Balanced text) : Balanced (left ++ text) := by
  induction left with
  | nil => exact balanced
  | cons point left ih =>
    rw [List.mem_cons, not_or] at noOpening noClosing
    exact .other (Ne.symm noOpening.1) (Ne.symm noClosing.1) (ih noOpening.2 noClosing.2)

/-- **As many parentheses close as open.** -/
theorem Balanced.count_eq (balanced : Balanced text) :
    text.count (.scalar '(') = text.count (.scalar ')') := by
  induction balanced with
  | nil => rfl
  | other noOpening noClosing _ ih =>
    rw [List.count_cons_of_ne noOpening, List.count_cons_of_ne noClosing, ih]
  | nest _ _ ihInner ihRest =>
    rw [List.count_cons_self, List.count_append, List.count_cons_of_ne (by decide),
      List.count_cons_of_ne (by decide), List.count_append, List.count_cons_self, ihInner, ihRest]
    omega

/-- **No more parentheses close than open**, however much is read of a balanced text. -/
theorem Balanced.count_take_le (balanced : Balanced text) (length : Nat) :
    (text.take length).count (.scalar ')') ≤ (text.take length).count (.scalar '(') := by
  induction balanced generalizing length with
  | nil => simp
  | other noOpening noClosing _ ih =>
    cases length with
    | zero => simp
    | succ length =>
      rw [List.take_succ_cons, List.count_cons_of_ne noOpening, List.count_cons_of_ne noClosing]
      exact ih length
  | @nest inner rest balancedInner _ ihInner ihRest =>
    cases length with
    | zero => simp
    | succ length =>
      have inside := ihInner length
      rw [List.take_succ_cons, List.count_cons_self, List.count_cons_of_ne (by decide),
        List.take_append, List.count_append, List.count_append]
      -- What is read of the rest has one more parenthesis before it, which closes what was opened
      -- first.
      have later : ((.scalar ')' :: rest).take (length - inner.length)).count (.scalar ')') ≤
          ((.scalar ')' :: rest).take (length - inner.length)).count (.scalar '(') + 1 := by
        cases length - inner.length with
        | zero => simp
        | succ more =>
          have := ihRest more
          rw [List.take_succ_cons, List.count_cons_self, List.count_cons_of_ne (by decide)]
          omega
      omega

/-! ### Counting -/

theorem closingLength?_opening (depth : Nat) (rest : Text) :
    closingLength? depth (.scalar '(' :: rest) = (closingLength? (depth + 1) rest).map (· + 1) := by
  rw [closingLength?, if_pos rfl]

theorem closingLength?_last (rest : Text) : closingLength? 1 (.scalar ')' :: rest) = some 1 := by
  rw [closingLength?, if_neg (by decide), if_pos rfl, if_pos rfl]

theorem closingLength?_closing (depth : Nat) (rest : Text) :
    closingLength? (depth + 2) (.scalar ')' :: rest) =
      (closingLength? (depth + 1) rest).map (· + 1) := by
  rw [closingLength?, if_neg (by decide), if_pos rfl, if_neg (by omega)]
  rfl

theorem closingLength?_other (noOpening : point ≠ .scalar '(') (noClosing : point ≠ .scalar ')')
    (depth : Nat) (rest : Text) :
    closingLength? depth (point :: rest) = (closingLength? depth rest).map (· + 1) := by
  rw [closingLength?, if_neg noOpening, if_neg noClosing]

/-- **The count is the same behind a balanced text.** -/
theorem Balanced.closingLength?_append (balanced : Balanced inner) (depth : Nat) (behind : Text) :
    closingLength? (depth + 1) (inner ++ behind) =
      (closingLength? (depth + 1) behind).map (inner.length + ·) := by
  induction balanced generalizing depth behind with
  | nil => simp
  | other noOpening noClosing _ ih =>
    rw [List.cons_append, closingLength?_other noOpening noClosing, ih, Option.map_map]
    congr 1
    funext size
    simp only [Function.comp_apply, List.length_cons]
    omega
  | @nest inner rest _ _ ihInner ihRest =>
    rw [List.cons_append, List.append_assoc, List.cons_append, closingLength?_opening, ihInner,
      closingLength?_closing, ihRest, Option.map_map, Option.map_map, Option.map_map]
    congr 1
    funext size
    simp only [Function.comp_apply, List.length_cons, List.length_append]
    omega

/-- **Where the count stops**, a balanced text ends and a parenthesis closes one more. -/
theorem exists_balanced {depth length : Nat} {text : Text}
    (found : closingLength? (depth + 1) text = some length) :
    ∃ inner behind, Balanced inner ∧ text = inner ++ .scalar ')' :: behind := by
  cases text with
  | nil => cases found
  | cons point rest =>
    by_cases opening : point = .scalar '('
    · subst opening
      rw [closingLength?_opening] at found
      obtain ⟨size, foundInside, _⟩ := Option.map_eq_some_iff.mp found
      obtain ⟨inner, between, balanced, rfl⟩ := exists_balanced foundInside
      rw [balanced.closingLength?_append, closingLength?_closing] at foundInside
      obtain ⟨_, foundBehind, _⟩ := Option.map_eq_some_iff.mp foundInside
      obtain ⟨_, foundBehind, _⟩ := Option.map_eq_some_iff.mp foundBehind
      obtain ⟨more, behind, balancedMore, rfl⟩ := exists_balanced foundBehind
      exact ⟨_, behind, .nest balanced balancedMore, by simp⟩
    · by_cases closing : point = .scalar ')'
      · exact ⟨[], rest, .nil, by rw [closing, List.nil_append]⟩
      · rw [closingLength?_other opening closing] at found
        obtain ⟨size, foundBehind, _⟩ := Option.map_eq_some_iff.mp found
        obtain ⟨inner, behind, balanced, rfl⟩ := exists_balanced foundBehind
        exact ⟨point :: inner, behind, .other opening closing balanced, rfl⟩
termination_by text.length
decreasing_by
  all_goals simp_all only [List.length_cons, List.length_append]
  all_goals omega

/-- **A parenthesis reaches over a balanced text** to the one that closes it. -/
theorem closingLength?_eq_some_iff : closingLength? 0 (.scalar '(' :: rest) = some length ↔
    ∃ inner behind, Balanced inner ∧ rest = inner ++ .scalar ')' :: behind ∧
      length = inner.length + 2 := by
  rw [closingLength?_opening]
  constructor
  · intro found
    obtain ⟨size, foundInside, rfl⟩ := Option.map_eq_some_iff.mp found
    obtain ⟨inner, behind, balanced, rfl⟩ := exists_balanced foundInside
    rw [balanced.closingLength?_append, closingLength?_last] at foundInside
    have same : inner.length + 1 = size := Option.some.inj foundInside
    exact ⟨inner, behind, balanced, rfl, by omega⟩
  · rintro ⟨inner, behind, balanced, rfl, rfl⟩
    rw [balanced.closingLength?_append, closingLength?_last]
    rfl

end TestOutline.TestCode
