/-
**Integers that are too long to be read.**

* `Traced`: what a reader leaves ends the text that it was given, and the integer that stops it is
  in that text.
* `parse_hugeInteger`: a text that is refused for an integer holds that many digits in a row, more
  than are allowed.
-/

import TestOutline.Json.Reader

namespace TestOutline.Json

/-- So many digits stand in a row in a text, more than an integer may have. -/
def HoldsLongInteger (digits : Nat) (text : Text) : Prop :=
  longestInteger < digits ∧ ∃ run, run <:+: text ∧ run.length = digits ∧ run.all isDigit = true

theorem HoldsLongInteger.mono {digits : Nat} {part whole : Text}
    (holds : HoldsLongInteger digits part) (within : part <:+: whole) :
    HoldsLongInteger digits whole := by
  obtain ⟨long, run, found, facts⟩ := holds
  exact ⟨long, run, found.trans within, facts⟩

/-- **What a reader leaves** ends the text that it was given, and the integer that stops it is in
that text. -/
def Traced {α : Type} (ahead : Text) : Except Refusal (α × Place) → Prop
  | .ok (_, place) => place.ahead <:+ ahead
  | .error (.malformed _ _) => True
  | .error (.hugeInteger digits) => HoldsLongInteger digits ahead

variable {α β : Type} {ahead : Text}

theorem Traced.mono {part whole : Text} {result : Except Refusal (α × Place)}
    (traced : Traced part result) (within : part <:+ whole) : Traced whole result := by
  rcases result with (⟨problem, place⟩ | digits) | ⟨value, place⟩
  · trivial
  · exact HoldsLongInteger.mono traced within.isInfix
  · exact List.IsSuffix.trans traced within

/-- One reader after the other. -/
theorem Traced.bind {result : Except Refusal (α × Place)}
    {next : α × Place → Except Refusal (β × Place)} (first : Traced ahead result)
    (later : ∀ value place, Traced place.ahead (next (value, place))) :
    Traced ahead (result >>= next) := by
  rcases result with (⟨problem, place⟩ | digits) | ⟨value, place⟩
  · trivial
  · exact first
  · exact (later value place).mono first

theorem ahead_move (place : Place) (count : Nat) :
    (place.move count).ahead <:+ place.ahead := List.drop_suffix _ _

theorem ahead_skipBlanks (place : Place) : place.skipBlanks.ahead <:+ place.ahead := ahead_move _ _

theorem traced_refuse (place : Place) (problem : Problem) :
    Traced ahead (place.refuse problem : Except Refusal (α × Place)) := trivial

theorem traced_readString (start fuel : Nat) (place : Place) :
    Traced place.ahead (readString start fuel place) := by
  induction fuel generalizing place with
  | zero => trivial
  | succ fuel ih =>
    -- A point is read, and then the rest of the string.
    have further : ∀ (count : Nat) (point : CodePoint), Traced place.ahead (do
        let found ← readString start fuel (place.move count)
        return (point :: found.1, found.2)) := fun count point =>
      Traced.bind ((ih (place.move count)).mono (ahead_move place count)) fun _ _ =>
        List.suffix_refl _
    unfold readString
    split
    · trivial
    · exact ahead_move place 1
    · split
      · trivial
      · split
        · exact traced_refuse _ _
        · split
          · exact traced_refuse _ _
          · simp only
            split
            · exact traced_refuse _ _
            · exact further _ _
      · split
        · exact traced_refuse _ _
        · exact further _ _
    · split
      · exact traced_refuse _ _
      · exact further _ _

theorem traced_readNumber (place : Place) : Traced place.ahead (readNumber place) := by
  unfold readNumber
  extract_lets negative body allDigits whole afterWhole fraction fractionLength afterFraction
    exponent length
  split
  · exact traced_refuse _ _
  · split
    · split
      · next long =>
        have bodyInside : body <:+ place.ahead := by
          unfold body
          split
          · exact List.drop_suffix _ _
          · exact List.suffix_refl _
        have wholeStarts : whole <+: allDigits := by
          unfold whole
          split
          · exact List.take_prefix _ _
          · exact List.prefix_refl _
        have digitsStart : allDigits <+: body := List.takeWhile_prefix _
        refine ⟨long, whole, ?_, rfl, ?_⟩
        · exact (wholeStarts.trans digitsStart).isInfix.trans bodyInside.isInfix
        · rw [List.all_eq_true]
          intro point member
          exact List.all_eq_true.mp List.all_takeWhile point (wholeStarts.subset member)
      · exact ahead_move place _
    · exact ahead_move place _

theorem traced_readPlain (place : Place) : Traced place.ahead (readPlain place) := by
  unfold readPlain
  split
  · exact ahead_move place _
  · exact traced_readNumber place

mutual

theorem traced_readValue :
    (fuel : Nat) → (place : Place) → Traced place.ahead (readValue fuel place)
  | 0, place => traced_refuse _ _
  | fuel + 1, place => by
    have inside : (place.move 1).skipBlanks.ahead <:+ place.ahead :=
      (ahead_skipBlanks _).trans (ahead_move place 1)
    unfold readValue
    split
    · exact Traced.bind ((traced_readString _ _ _).mono (ahead_move place 1)) fun _ _ =>
        List.suffix_refl _
    · simp only
      split
      · exact (ahead_move _ 1).trans inside
      · exact (traced_readMembers fuel [] _).mono inside
    · simp only
      split
      · exact (ahead_move _ 1).trans inside
      · exact (traced_readItems fuel [] _).mono inside
    · exact traced_readPlain place

theorem traced_readMembers : (fuel : Nat) → (members : List (Text × Json)) → (place : Place) →
    Traced place.ahead (readMembers fuel members place)
  | 0, _, place => traced_refuse _ _
  | fuel + 1, members, place => by
    unfold readMembers
    split
    · exact traced_refuse _ _
    · refine Traced.bind ((traced_readString _ _ _).mono (ahead_move place 1))
        fun key behindKey => ?_
      simp only
      split
      · exact traced_refuse _ _
      · have colon : (behindKey.skipBlanks.move 1).skipBlanks.ahead <:+ behindKey.ahead :=
          (ahead_skipBlanks _).trans ((ahead_move _ 1).trans (ahead_skipBlanks _))
        refine Traced.bind ((traced_readValue fuel _).mono colon) fun value behindValue => ?_
        simp only
        split
        · exact (ahead_move _ 1).trans (ahead_skipBlanks _)
        · split
          · refine (traced_readMembers fuel _ _).mono ?_
            exact (ahead_skipBlanks _).trans ((ahead_move _ 1).trans (ahead_skipBlanks _))
          · exact traced_refuse _ _

theorem traced_readItems : (fuel : Nat) → (items : List Json) → (place : Place) →
    Traced place.ahead (readItems fuel items place)
  | 0, _, place => traced_refuse _ _
  | fuel + 1, items, place => by
    unfold readItems
    refine Traced.bind (traced_readValue fuel place) fun item behind => ?_
    simp only
    split
    · exact (ahead_move _ 1).trans (ahead_skipBlanks _)
    · split
      · refine (traced_readItems fuel _ _).mono ?_
        exact (ahead_skipBlanks _).trans ((ahead_move _ 1).trans (ahead_skipBlanks _))
      · exact traced_refuse _ _

end

/-- **A text is refused for an integer only if it holds that many digits in a row**, more than are
allowed. -/
theorem parse_hugeInteger {text : Text} {digits : Nat}
    (refused : parse text = .error (.hugeInteger digits)) :
    HoldsLongInteger digits text := by
  unfold parse at refused
  split at refused
  · cases refused
  · have traced := traced_readValue (2 * text.length + 2) (Place.skipBlanks ⟨text, 0⟩)
    simp only at refused
    cases read : readValue (2 * text.length + 2) (Place.skipBlanks ⟨text, 0⟩) with
    | error refusal =>
      rw [read] at refused traced
      cases refused
      exact HoldsLongInteger.mono traced (ahead_skipBlanks _).isInfix
    | ok found =>
      rw [read] at refused
      by_cases ended : found.2.skipBlanks.ahead.isEmpty = true
      · simp [ended, bind, Except.bind] at refused
      · simp [ended, bind, Except.bind, Place.refuse] at refused

end TestOutline.Json
