/-
**The test that stands behind metadata.**

The text of a test is searched in the mask of a source: a window says where the parenthesis of its
call has to open, and a count of parentheses says where it closes, in the window or beyond. A mask
is as long as its text, so that what is found in one is cut out of the other.

* `CallsAt`, `ClosedAt`: a call of a test function in a mask, and where a parenthesis is closed.
* `findCall?_window_offset`, `callRange?_eq_some_iff`: the search finds the first call, and how far
  it reaches.
* `balanced_slice`, `not_balanced_slice`: a call is balanced, and not before its end.
* `testCode_characterised`: when a text is found, and which.
-/

import TestOutline.Outline.Basic
import TestOutline.Proofs.Metadata.Marker
import TestOutline.Proofs.Metadata.Parentheses

namespace TestOutline.TestCode

variable {text mask : Text} {length : Nat}

/-! ### Calls -/

/-- **A call of a test function stands in a mask**: it starts at an offset with the name of the
function, which is no part of a longer name or of a member's, and its parenthesis opens at another
one, behind blanks. -/
def CallsAt (mask : Text) (start parenthesis : Nat) : Prop :=
  ∃ before name blanks behind : Text, mask = before ++ (name ++ (blanks ++ .scalar '(' :: behind)) ∧
    name ∈ testFunctions ∧ blanks.isBlank = true ∧ before.getLast?.any continuesName = false ∧
    start = before.length ∧ parenthesis = before.length + (name.length + blanks.length)

/-- **A parenthesis of a mask is closed by another one**, with a balanced text between them. -/
def ClosedAt (mask : Text) (parenthesis closing : Nat) : Prop :=
  ∃ before inner behind, mask = before ++ .scalar '(' :: (inner ++ .scalar ')' :: behind) ∧
    Balanced inner ∧
    parenthesis = before.length ∧ closing = before.length + 1 + inner.length

/-- **The first call behind an offset** whose parenthesis opens before `stop`. -/
structure IsFirstCall (mask : Text) (offset : Int) (stop start parenthesis : Nat) : Prop where
  calls : CallsAt mask start parenthesis
  late : offset ≤ start
  inside : parenthesis < stop
  first : ∀ earlier other, CallsAt mask earlier other → offset ≤ earlier → other < stop →
    start ≤ earlier

theorem CallsAt.lt_length {start parenthesis : Nat} (calls : CallsAt mask start parenthesis) :
    start ≤ parenthesis ∧ parenthesis < mask.length := by
  obtain ⟨before, name, blanks, behind, rfl, _, _, _, rfl, rfl⟩ := calls
  simp only [List.length_append, List.length_cons]
  omega

theorem callOf?_eq_some_iff {function : Text} : callOf? function text = some length ↔
    ∃ blanks behind : Text, blanks.isBlank = true ∧
      text = function ++ (blanks ++ .scalar '(' :: behind) ∧
      length = function.length + blanks.length + 1 := by
  constructor
  · intro found
    unfold callOf? at found
    split at found
    · next starts =>
      obtain ⟨rest, rfl⟩ := List.isPrefixOf_iff_prefix.mp starts
      simp only [List.drop_left] at found
      split at found
      · next opens =>
        obtain ⟨behind, same⟩ := List.head?_eq_some_iff.mp opens
        obtain ⟨blanks, blank, rfl⟩ := (Text.stripStart_eq_cons_iff (by decide)).mp same
        refine ⟨blanks, behind, blank, rfl, ?_⟩
        rw [← Option.some.inj found, same]
        simp only [List.length_append]
        omega
      · cases found
    · cases found
  · rintro ⟨blanks, behind, blank, rfl, rfl⟩
    have opens : Text.stripStart (blanks ++ .scalar '(' :: behind) = .scalar '(' :: behind :=
      (Text.stripStart_eq_cons_iff (by decide)).mpr ⟨blanks, blank, rfl⟩
    unfold callOf?
    rw [if_pos (List.isPrefixOf_iff_prefix.mpr (List.prefix_append _ _))]
    simp only [List.drop_left, opens, List.head?_cons, if_pos]
    congr 1
    simp only [List.length_append]
    omega

/-- A call is that of one function: no name of a test function starts another one. -/
theorem callLength?_eq_some_iff : callLength? text = some length ↔
    ∃ name ∈ testFunctions, callOf? name text = some length := by
  constructor
  · exact List.exists_of_findSome?_eq_some
  · rintro ⟨name, member, found⟩
    rcases List.mem_cons.mp member with rfl | member
    · rw [callLength?, testFunctions, List.findSome?_cons, found]
    · obtain rfl := List.mem_singleton.mp member
      have other : callOf? "it" text = none := by
        obtain ⟨blanks, behind, _, rfl, _⟩ := callOf?_eq_some_iff.mp found
        rfl
      rw [callLength?, testFunctions, List.findSome?_cons, other, List.findSome?_cons, found]

/-- The length of the call at a place of a text, if one stands there. -/
def callAt? (text : Text) (place : Nat) : Option Nat :=
  if (text.take place).getLast?.any continuesName then none else callLength? (text.drop place)

theorem callAt?_eq_some_iff {place : Nat} : callAt? text place = some length ↔
    ∃ parenthesis, CallsAt text place parenthesis ∧ place + length = parenthesis + 1 := by
  constructor
  · intro found
    unfold callAt? at found
    split at found
    · cases found
    · next free =>
      obtain ⟨name, member, found⟩ := callLength?_eq_some_iff.mp found
      obtain ⟨blanks, behind, blank, here, rfl⟩ := callOf?_eq_some_iff.mp found
      obtain ⟨before, rfl, rfl⟩ := Text.exists_eq_append_of_drop (by simp) here
      rw [List.take_left] at free
      exact ⟨_, ⟨before, name, blanks, behind, rfl, member, blank, by simpa using free, rfl, rfl⟩,
        by omega⟩
  · rintro ⟨_, ⟨before, name, blanks, behind, rfl, member, blank, free, rfl, rfl⟩, size⟩
    rw [callAt?, List.take_left, free, if_neg (by decide), List.drop_left]
    exact callLength?_eq_some_iff.mpr
      ⟨name, member, callOf?_eq_some_iff.mpr ⟨blanks, behind, blank, rfl, by omega⟩⟩

/-- Where a call starts says where its parenthesis opens. -/
theorem CallsAt.parenthesis_eq {start parenthesis other : Nat}
    (calls : CallsAt mask start parenthesis) (again : CallsAt mask start other) :
    parenthesis = other := by
  have ordered := calls.lt_length
  have orderedAgain := again.lt_length
  have here := callAt?_eq_some_iff.mpr
    ⟨parenthesis, calls, (by omega : start + (parenthesis + 1 - start) = parenthesis + 1)⟩
  have there :=
    callAt?_eq_some_iff.mpr ⟨other, again, (by omega : start + (other + 1 - start) = other + 1)⟩
  rw [here] at there
  have sizes := Option.some.inj there
  omega

/-- There is one first call. -/
theorem IsFirstCall.parenthesis_eq {offset : Int} {stop start parenthesis place other : Nat}
    (first : IsFirstCall mask offset stop start parenthesis)
    (second : IsFirstCall mask offset stop place other) :
    parenthesis = other := by
  obtain rfl : start =
      place := Nat.le_antisymm (first.first _ _ second.calls second.late second.inside)
    (second.first _ _ first.calls first.late first.inside)
  exact first.calls.parenthesis_eq second.calls

/-- **A search finds the first call** of a test function behind a part of a text. -/
theorem findCall?_eq_some_iff {front back : Text} {start : Nat} :
    findCall? front.getLast? back = some (start, length) ↔
      callAt? (front ++ back) (front.length + start) = some length ∧
        ∀ place < start, callAt? (front ++ back) (front.length + place) = none := by
  induction back generalizing front start with
  | nil =>
    refine iff_of_false (by simp [findCall?]) ?_
    rintro ⟨here, _⟩
    obtain ⟨_, ⟨before, name, blanks, behind, parts, _, _, _, place, _⟩, _⟩ :=
      callAt?_eq_some_iff.mp here
    have lengths := congrArg List.length parts
    simp only [List.length_append, List.length_cons, List.length_nil] at lengths
    omega
  | cons point rest ih =>
    have here : callAt? (front ++ point :: rest) front.length =
        if front.getLast?.any continuesName then none else callLength? (point :: rest) := by
      rw [callAt?, List.take_left, List.drop_left]
    have later := @ih (front ++ [point])
    rw [List.getLast?_concat, List.append_assoc, List.singleton_append, List.length_append,
      List.length_singleton] at later
    rw [findCall?, ← here]
    cases found : callAt? (front ++ point :: rest) front.length with
    | some size =>
      constructor
      · rintro ⟨⟩
        exact ⟨found, fun place before => absurd before (Nat.not_lt_zero place)⟩
      · rintro ⟨other, first⟩
        cases start with
        | zero =>
          rw [Nat.add_zero, found] at other
          rw [Option.some.inj other]
        | succ start =>
          have never := first 0 (Nat.succ_pos start)
          rw [Nat.add_zero, found] at never
          cases never
    | none =>
      simp only [Option.map_eq_some_iff, Prod.mk.injEq, Prod.exists]
      constructor
      · rintro ⟨_, _, behind, rfl, rfl⟩
        obtain ⟨there, first⟩ := later.mp behind
        refine ⟨by rwa [Nat.add_assoc, Nat.add_comm 1] at there, fun place before => ?_⟩
        cases place with
        | zero => exact found
        | succ place =>
          have never := first place (Nat.lt_of_succ_lt_succ before)
          rwa [Nat.add_assoc, Nat.add_comm 1] at never
      · rintro ⟨there, first⟩
        cases start with
        | zero =>
          rw [Nat.add_zero, found] at there
          cases there
        | succ start =>
          refine ⟨start, length,
            later.mpr ⟨by rwa [Nat.add_assoc, Nat.add_comm 1], fun place before => ?_⟩, rfl, rfl⟩
          rw [Nat.add_assoc, Nat.add_comm 1]
          exact first (place + 1) (Nat.succ_lt_succ before)

/-- What stands behind its parenthesis does not matter to a call. -/
theorem callsAt_take_iff {start parenthesis stop : Nat} :
    CallsAt (mask.take stop) start parenthesis ↔
      CallsAt mask start parenthesis ∧ parenthesis < stop := by
  constructor
  · intro calls
    have inside := calls.lt_length.2
    rw [List.length_take] at inside
    obtain ⟨before, name, blanks, behind, parts, others⟩ := calls
    have whole : mask =
        before ++ (name ++ (blanks ++ .scalar '(' :: (behind ++ mask.drop stop))) := by
      have joined := congrArg (· ++ mask.drop stop) parts
      simpa only [List.take_append_drop, List.append_assoc, List.cons_append] using joined
    exact ⟨⟨before, name, blanks, behind ++ mask.drop stop, whole, others⟩, by omega⟩
  · rintro ⟨⟨before, name, blanks, behind, rfl, member, blank, free, rfl, rfl⟩, inside⟩
    obtain ⟨more, rfl⟩ : ∃ more, stop =
        before.length + (name.length + (blanks.length + (more + 1))) :=
      ⟨stop - (before.length + (name.length + (blanks.length + 1))), by omega⟩
    refine ⟨before, name, blanks, behind.take more, ?_, member, blank, free, rfl, rfl⟩
    rw [List.take_length_add_append, List.take_length_add_append, List.take_length_add_append,
      List.take_succ_cons]

/-! ### Windows -/

section Windows

variable {offset : Int} {start stop place parenthesis : Nat}

/-- **A window is searched for its first call**; what stands before the window is seen. -/
theorem findCall?_window (start_le : start ≤ mask.length) :
    findCall? (if start = 0 then none else mask[start - 1]?) (mask.slice start stop) =
      some (place, length) ↔
      callAt? (mask.take stop) (start + place) = some length ∧
        ∀ earlier < place, callAt? (mask.take stop) (start + earlier) = none := by
  have window : mask.slice start stop = (mask.take stop).drop start := List.drop_take.symm
  rcases Nat.lt_or_ge start (mask.take stop).length with inside | past
  · have size : ((mask.take stop).take start).length = start := by
      rw [List.length_take, Nat.min_eq_left (Nat.le_of_lt inside)]
    have before : (if start = 0 then none else mask[start - 1]?) =
        ((mask.take stop).take start).getLast? := by
      rw [List.length_take] at inside
      rw [List.take_take, Nat.min_eq_left (by omega), List.getLast?_take]
      split
      · rfl
      · rw [List.getElem?_eq_getElem (by omega), Option.some_or]
    rw [before, window, findCall?_eq_some_iff, List.take_append_drop, size]
  · rw [window, List.drop_eq_nil_of_le past]
    refine iff_of_false (by simp [findCall?]) ?_
    rintro ⟨here, _⟩
    obtain ⟨parenthesis, calls, _⟩ := callAt?_eq_some_iff.mp here
    have := calls.lt_length
    omega

/-- Nothing calls behind a text. -/
theorem late_iff (calls : CallsAt mask place parenthesis) :
    min offset.toNat mask.length ≤ place ↔ offset ≤ place := by
  have := calls.lt_length
  omega

/-- **The window of an offset is searched for the first call behind the offset.** -/
theorem findCall?_window_offset :
    findCall?
        (if min offset.toNat mask.length = 0 then none
          else mask[min offset.toNat mask.length - 1]?)
        (mask.slice (min offset.toNat mask.length) stop) = some (place, length) ↔
      ∃ parenthesis, IsFirstCall mask offset stop (min offset.toNat mask.length + place)
        parenthesis ∧
        min offset.toNat mask.length + place + length = parenthesis + 1 := by
  rw [findCall?_window (Nat.min_le_right _ _), callAt?_eq_some_iff]
  generalize clamped : min offset.toNat mask.length = start
  constructor
  · rintro ⟨⟨parenthesis, calls, size⟩, first⟩
    obtain ⟨calls, inside⟩ := callsAt_take_iff.mp calls
    refine ⟨parenthesis,
      ⟨calls, (late_iff calls).mp (by omega), inside, fun earlier other again late early => ?_⟩,
      size⟩
    refine Nat.le_of_not_lt fun before => ?_
    have reached := (late_iff again).mpr late
    have never := first (earlier - start) (by omega)
    rw [Nat.add_sub_cancel' (by omega),
      callAt?_eq_some_iff.mpr ⟨other, callsAt_take_iff.mpr ⟨again, early⟩,
        (by have := again.lt_length; omega : earlier + (other + 1 - earlier) = other + 1)⟩] at never
    cases never
  · rintro ⟨parenthesis, first, size⟩
    refine ⟨⟨parenthesis, callsAt_take_iff.mpr ⟨first.calls, first.inside⟩, size⟩,
      fun earlier before => ?_⟩
    refine Option.eq_none_iff_forall_ne_some.mpr fun other here => ?_
    obtain ⟨another, calls, _⟩ := callAt?_eq_some_iff.mp here
    obtain ⟨calls, inside⟩ := callsAt_take_iff.mp calls
    have := first.first _ _ calls ((late_iff calls).mp (by omega)) inside
    omega

/-- The parenthesis of a call opens. -/
theorem CallsAt.exists_drop (calls : CallsAt mask start parenthesis) :
    ∃ rest, mask.drop parenthesis = .scalar '(' :: rest := by
  obtain ⟨before, name, blanks, behind, rfl, _, _, _, _, rfl⟩ := calls
  exact ⟨behind, by rw [List.drop_length_add_append, List.drop_length_add_append, List.drop_left]⟩

/-- **A parenthesis reaches up to the one that closes it.** -/
theorem closingLength?_drop_iff {rest : Text}
    (opens : mask.drop parenthesis = .scalar '(' :: rest) :
    closingLength? 0 (mask.drop parenthesis) = some length ↔
      ∃ closing, ClosedAt mask parenthesis closing ∧ parenthesis + length = closing + 1 := by
  rw [opens, closingLength?_eq_some_iff]
  constructor
  · rintro ⟨inner, behind, balanced, rfl, rfl⟩
    obtain ⟨before, rfl, rfl⟩ := Text.exists_eq_append_of_drop (List.cons_ne_nil _ _) opens
    exact ⟨_, ⟨before, inner, behind, rfl, balanced, rfl, rfl⟩, by omega⟩
  · rintro ⟨_, ⟨before, inner, behind, rfl, balanced, rfl, rfl⟩, size⟩
    rw [List.drop_left] at opens
    obtain ⟨_, rfl⟩ := List.cons.inj opens
    exact ⟨inner, behind, balanced, rfl, by omega⟩

/-- **A call is found with the parenthesis that closes it**, in the window or beyond. -/
theorem callRange?_eq_some_iff {stop' : Nat} :
    callRange? mask (min offset.toNat mask.length) stop = some (start, stop') ↔
      ∃ parenthesis closing, IsFirstCall mask offset stop start parenthesis ∧
        ClosedAt mask parenthesis closing ∧
        stop' = closing + 1 := by
  unfold callRange?
  simp only [Option.bind_eq_bind, Option.bind_eq_some_iff, Prod.exists, findCall?_window_offset]
  constructor
  · rintro ⟨place, length, ⟨parenthesis, first, size⟩, reach, closes, same⟩
    cases same
    have here : min offset.toNat mask.length + place + length - 1 = parenthesis := by omega
    obtain ⟨rest, opens⟩ := first.calls.exists_drop
    rw [here] at closes ⊢
    obtain ⟨closing, closed, size⟩ := (closingLength?_drop_iff opens).mp closes
    exact ⟨parenthesis, closing, first, closed, size⟩
  · rintro ⟨parenthesis, closing, first, closed, rfl⟩
    have reached := (late_iff first.calls).mpr first.late
    have ordered := first.calls.lt_length.1
    obtain ⟨place, rfl⟩ := Nat.exists_eq_add_of_le reached
    obtain ⟨rest, opens⟩ := first.calls.exists_drop
    refine ⟨place, parenthesis + 1 - (min offset.toNat mask.length + place),
      ⟨parenthesis, first, by omega⟩, ?_⟩
    have here : min offset.toNat
        mask.length + place + (parenthesis + 1 - (min offset.toNat mask.length + place)) - 1 =
        parenthesis := by omega
    have behind : parenthesis < closing := by
      obtain ⟨before, inner, _, _, _, rfl, rfl⟩ := closed
      omega
    rw [here]
    refine ⟨closing + 1 - parenthesis,
      (closingLength?_drop_iff opens).mpr ⟨closing, closed, by omega⟩, ?_⟩
    rw [Nat.add_sub_cancel' (by omega)]
    rfl

end Windows

/-! ### The text of a test -/

section Reach

variable {start parenthesis closing stop : Nat}

theorem parentheses_not_mem_of_isBlank {blanks : Text} (blank : blanks.isBlank = true) :
    .scalar '(' ∉ blanks ∧ .scalar ')' ∉ blanks := by
  constructor
  all_goals
    intro member
    have := List.all_eq_true.mp blank _ member
    revert this
    decide

/-- **The parts of a call that is closed**: what leads to its parenthesis has none in it. -/
theorem exists_parts (calls : CallsAt mask start parenthesis)
    (closed : ClosedAt mask parenthesis closing) :
    ∃ before head inner behind : Text,
      mask = before ++ (head ++ .scalar '(' :: (inner ++ .scalar ')' :: behind)) ∧
        .scalar '(' ∉ head ∧
        .scalar ')' ∉ head ∧ Balanced inner ∧ start = before.length ∧
        parenthesis = before.length + head.length ∧
        closing = before.length + (head.length + (1 + inner.length)) := by
  obtain ⟨before, name, blanks, rest, rfl, member, blank, _, rfl, place⟩ := calls
  obtain ⟨front, inner, behind, parts, balanced, rfl, rfl⟩ := closed
  have cut : before ++ (name ++ blanks) ++ .scalar '(' :: rest =
      front ++ .scalar '(' :: (inner ++ .scalar ')' :: behind) := by
    rw [← parts]
    simp only [List.append_assoc]
  obtain ⟨_, same⟩ := List.append_inj cut (by simp only [List.length_append]; omega)
  obtain ⟨_, rfl⟩ := List.cons.inj same
  have noneInNames : ∀ name ∈ testFunctions, .scalar '(' ∉ name ∧ .scalar ')' ∉ name := by decide
  have inName := noneInNames name member
  have inBlanks := parentheses_not_mem_of_isBlank blank
  refine ⟨before, name ++ blanks, inner, behind,
    by simp only [List.append_assoc], ?_, ?_, balanced, rfl, ?_, ?_⟩
  · rw [List.mem_append, not_or]
    exact ⟨inName.1, inBlanks.1⟩
  · rw [List.mem_append, not_or]
    exact ⟨inName.2, inBlanks.2⟩
  · rw [place, List.length_append]
  · rw [place, List.length_append]
    omega

/-- **A call that is closed is balanced.** -/
theorem balanced_slice (calls : CallsAt mask start parenthesis)
    (closed : ClosedAt mask parenthesis closing) :
    Balanced (mask.slice start (closing + 1)) := by
  obtain ⟨before, head, inner, behind, rfl, noOpening, noClosing, balanced, rfl, _, rfl⟩ :=
    exists_parts calls closed
  have reach : before.length + (head.length + (1 + inner.length)) + 1 - before.length =
      head.length + ((inner.length + 1) + 1) := by omega
  rw [Text.slice, List.drop_left, reach, List.take_length_add_append, List.take_succ_cons,
    List.take_length_add_append, List.take_succ_cons, List.take_zero]
  exact (Balanced.nest balanced .nil).append_left noOpening noClosing

/-- **No part of it that opens its parenthesis is balanced before the end.** -/
theorem not_balanced_slice (calls : CallsAt mask start parenthesis)
    (closed : ClosedAt mask parenthesis closing) (opened : parenthesis < stop)
    (early : stop ≤ closing) :
    ¬ Balanced (mask.slice start stop) := by
  obtain ⟨before, head, inner, behind, rfl, noOpening, noClosing, balanced, rfl, rfl, rfl⟩ :=
    exists_parts calls closed
  obtain ⟨more, rfl⟩ : ∃ more, stop = before.length + (head.length + (more + 1)) :=
    ⟨stop - (before.length + (head.length + 1)), by omega⟩
  intro whole
  have counts := whole.count_eq
  have inside := balanced.count_take_le more
  rw [Text.slice, List.drop_left, Nat.add_sub_cancel_left, List.take_length_add_append,
    List.take_succ_cons, List.take_append_of_le_length (by omega), List.count_append,
    List.count_append, List.count_cons_self, List.count_cons_of_ne (by decide),
    List.count_eq_zero_of_not_mem noOpening, List.count_eq_zero_of_not_mem noClosing] at counts
  omega

theorem ClosedAt.lt_length (closed : ClosedAt mask parenthesis closing) :
    closing < mask.length := by
  obtain ⟨before, inner, behind, rfl, _, _, rfl⟩ := closed
  simp only [List.length_append, List.length_cons]
  omega

end Reach

/-- **The first call behind metadata** in a window of so many lines. -/
def FollowsBlock (source : Source) (block : MetadataBlock) (window : Int)
    (start parenthesis : Nat) : Prop :=
  IsFirstCall source.text.masked block.endOffset (windowEnd source block.endLine window) start
    parenthesis

theorem testCode?_eq_some_iff {source : Source} {block : MetadataBlock} {window : Int}
    {code : Text} :
    source.testCode? block.endLine block.endOffset window = some code ↔
      ∃ start parenthesis closing, FollowsBlock source block window start parenthesis ∧
        ClosedAt source.text.masked parenthesis closing ∧
        code = source.text.slice start (closing + 1) := by
  unfold Source.testCode?
  simp only [Option.map_eq_some_iff, Prod.exists, callRange?_eq_some_iff]
  constructor
  · rintro ⟨start, _, ⟨parenthesis, closing, first, closed, rfl⟩, rfl⟩
    exact ⟨start, parenthesis, closing, first, closed, source.slice_eq _ _⟩
  · rintro ⟨start, parenthesis, closing, first, closed, rfl⟩
    exact ⟨start, closing + 1, ⟨parenthesis, closing, first, closed, rfl⟩, source.slice_eq _ _⟩

/-- **The text of the test behind metadata**: that of the first call in the window whose parenthesis
is closed, be it beyond the window. What is found in the mask stands in the source as well; it is
balanced, and not before its end. No text is found where no call opens in the window, and where the
parenthesis of the first one is never closed. -/
theorem testCode_characterised (source : Source) (block : MetadataBlock) (window : Int) :
    (∀ code, source.testCode? block.endLine block.endOffset window = some code ↔
      ∃ start parenthesis closing, FollowsBlock source block window start parenthesis ∧
        ClosedAt source.text.masked parenthesis closing ∧
        code = source.text.slice start (closing + 1)) ∧
    (∀ start parenthesis closing, FollowsBlock source block window start parenthesis →
      ClosedAt source.text.masked parenthesis closing → start ≤ parenthesis ∧
        closing < source.text.length ∧
        Balanced (source.text.masked.slice start (closing + 1)) ∧
        ∀ stop, parenthesis < stop → stop ≤ closing →
          ¬ Balanced (source.text.masked.slice start stop)) ∧
    (source.testCode? block.endLine block.endOffset window = none ↔
      (¬ ∃ start parenthesis, FollowsBlock source block window start parenthesis) ∨
        ∃ start parenthesis, FollowsBlock source block window start parenthesis ∧
          ∀ closing, ¬ ClosedAt source.text.masked parenthesis closing) := by
  refine ⟨fun code => testCode?_eq_some_iff, fun start parenthesis closing first closed => ?_, ?_⟩
  · have inside := closed.lt_length
    rw [Text.length_masked] at inside
    exact ⟨first.calls.lt_length.1, inside, balanced_slice first.calls closed,
      fun stop => not_balanced_slice first.calls closed⟩
  · rw [Option.eq_none_iff_forall_ne_some]
    constructor
    · intro nothing
      by_cases follows : ∃ start parenthesis, FollowsBlock source block window start parenthesis
      · obtain ⟨start, parenthesis, first⟩ := follows
        exact .inr ⟨start, parenthesis, first, fun closing closed =>
          nothing _ (testCode?_eq_some_iff.mpr ⟨start, parenthesis, closing, first, closed, rfl⟩)⟩
      · exact .inl follows
    · intro missing code found
      obtain ⟨start, parenthesis, closing, first, closed, _⟩ := testCode?_eq_some_iff.mp found
      rcases missing with never | ⟨other, another, firstOther, unclosed⟩
      · exact never ⟨start, parenthesis, first⟩
      · rw [first.parenthesis_eq firstOther] at closed
        exact unclosed closing closed

end TestOutline.TestCode
