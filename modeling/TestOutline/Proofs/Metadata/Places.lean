/-
**Markers by their places.**

* `search_eq_some_iff`, `search_eq_none_iff`: a search finds the first place at which a marker
  starts.
* `opening_le_endLabel`, `closing_le_closing`: the name of the end of metadata does not start within
  a marker.
* `openingLength?_of_append`, `closingLength?_of_append`: a marker that ends in a part of a text is
  one whatever comes behind the part.
* `firstPair?_eq_some_iff`: the first pair by the places of its markers; `exists_isFirst`: there is
  one where a closing marker comes behind an opening one.
* `firstPair?_of_append`: nor does it matter to the first pair what comes behind a part in which it
  ends.
* `OpensAt`, `ClosesAt`: a marker starts at a place.
-/

import TestOutline.Proofs.Metadata.Plain

namespace TestOutline.Marker

variable {scope : Scope} {text behind : Text} {start stop place length size : Nat}

/-! ### Searches -/

section Searches

variable {length? : Text → Option Nat} (nothing : length? [] = none)

include nothing

/-- **A search finds nothing** where no marker starts. -/
theorem search_eq_none_iff :
    search length? text = none ↔ ∀ place, length? (text.drop place) = none := by
  induction text with
  | nil => simp [search, nothing]
  | cons point rest ih =>
    rw [search]
    cases here : length? (point :: rest) with
    | some size =>
      refine iff_of_false (by simp) fun never => ?_
      have first := never 0
      rw [List.drop_zero, here] at first
      cases first
    | none =>
      simp only [Option.map_eq_none_iff, ih]
      refine ⟨fun never place => ?_, fun never place => never (place + 1)⟩
      cases place with
      | zero => exact here
      | succ place => exact never place

/-- **A search finds the first place** at which a marker starts. -/
theorem search_eq_some_iff : search length? text = some (start, length) ↔
    length? (text.drop start) = some length ∧
      ∀ place < start, length? (text.drop place) = none := by
  induction text generalizing start with
  | nil => simp [search, nothing]
  | cons point rest ih =>
    rw [search]
    cases here : length? (point :: rest) with
    | some size =>
      constructor
      · rintro ⟨⟩
        exact ⟨here, fun place before => absurd before (Nat.not_lt_zero place)⟩
      · rintro ⟨found, first⟩
        cases start with
        | zero =>
          rw [List.drop_zero, here] at found
          rw [Option.some.inj found]
        | succ start =>
          have before := first 0 (Nat.succ_pos start)
          rw [List.drop_zero, here] at before
          cases before
    | none =>
      simp only [Option.map_eq_some_iff, Prod.mk.injEq, Prod.exists]
      constructor
      · rintro ⟨later, size, found, rfl, rfl⟩
        obtain ⟨found, first⟩ := ih.mp found
        refine ⟨found, fun place before => ?_⟩
        cases place with
        | zero => exact here
        | succ place => exact first place (Nat.lt_of_succ_lt_succ before)
      · rintro ⟨found, first⟩
        cases start with
        | zero =>
          rw [List.drop_zero, here] at found
          cases found
        | succ start =>
          have firstBehind : ∀ place < start, length? (rest.drop place) = none :=
            fun place before =>
            first (place + 1) (Nat.succ_lt_succ before)
          exact ⟨start, length, ih.mpr ⟨found, firstBehind⟩, rfl, rfl⟩

end Searches

theorem openingLength?_nil (scope : Scope) : openingLength? scope [] = none := rfl

theorem closingLength?_nil (scope : Scope) :
    closingLength? scope [] = none := by cases scope <;> rfl

/-! ### Markers do not overlap -/

/-- A text with one mark has it at one place, and no other one before its end. -/
theorem eq_or_le_of_getElem?_mark {skipped rest : Text} (noMark : .scalar '@' ∉ skipped)
    (noMarkBehind : .scalar '@' ∉ rest)
    (here : (skipped ++ (.scalar '@' :: rest ++ behind))[place]? = some (.scalar '@')) :
    place = skipped.length ∨ skipped.length + (1 + rest.length) ≤ place := by
  rcases Nat.lt_trichotomy place skipped.length with before | same | later
  · rw [List.getElem?_append_left before] at here
    exact absurd (List.mem_of_getElem? here) noMark
  · exact .inl same
  · right
    obtain ⟨gap, rfl⟩ : ∃ gap, place = skipped.length + (gap + 1) :=
      ⟨place - skipped.length - 1, by omega⟩
    rw [List.getElem?_append_right (by omega), Nat.add_sub_cancel_left, List.cons_append,
      List.getElem?_cons_succ] at here
    rcases Nat.lt_or_ge gap rest.length with short | long
    · rw [List.getElem?_append_left short] at here
      exact absurd (List.mem_of_getElem? here) noMarkBehind
    · omega

/-- A name of metadata has a mark at its start only, and so has the name of the end. -/
theorem exists_label_eq_cons (scope : Scope) :
    ∃ rest, label scope = .scalar '@' :: rest ∧ .scalar '@' ∉ rest := by
  cases scope <;> exact ⟨_, rfl, by decide⟩

theorem exists_endLabel_eq_cons (scope : Scope) :
    ∃ rest, endLabel scope = .scalar '@' :: rest ∧ .scalar '@' ∉ rest := by
  cases scope <;> exact ⟨_, rfl, by decide⟩

/-- An opening marker has a mark where the name in it starts only. -/
theorem IsOpening.exists_mark {mark : Text} (opens : IsOpening scope mark) :
    ∃ skipped rest, mark = skipped ++ label scope ∧ label scope = .scalar '@' :: rest ∧
      .scalar '@' ∉ skipped ∧
      .scalar '@' ∉ rest := by
  obtain ⟨blanks, blank, rfl⟩ := opens
  obtain ⟨rest, parts, noMark⟩ := exists_label_eq_cons scope
  refine ⟨_, rest, rfl, parts, fun member => ?_, noMark⟩
  rcases List.mem_append.mp member with inStart | inBlanks
  · revert inStart
    decide
  · exact mark_not_mem_of_isBlank blank inBlanks

/-- A closing marker has a mark at its start only. -/
theorem IsClosing.exists_mark {mark : Text} (closes : IsClosing scope mark) :
    ∃ rest, mark = .scalar '@' :: rest ∧ .scalar '@' ∉ rest := by
  obtain ⟨blanks, blank, rfl⟩ := closes
  obtain ⟨rest, parts, noMark⟩ := exists_endLabel_eq_cons scope
  refine ⟨rest ++ blanks ++ "*/", by rw [parts]; rfl, fun member => ?_⟩
  rcases List.mem_append.mp member with before | inEnd
  · rcases List.mem_append.mp before with inRest | inBlanks
    · exact noMark inRest
    · exact mark_not_mem_of_isBlank blank inBlanks
  · revert inEnd
    decide

theorem getElem?_of_drop_eq_cons {point : CodePoint} {rest : Text}
    (here : text.drop place = point :: rest) :
    text[place]? = some point := by
  rw [← List.head?_drop, here]
  rfl

theorem openingLength_pos (opens : openingLength? scope text = some length) : 0 < length := by
  obtain ⟨mark, _, isOpening, _, _, rfl⟩ := openingLength?_eq_some_iff.mp opens
  obtain ⟨rest, rfl, _⟩ := isOpening.exists_eq_cons
  exact Nat.succ_pos _

/-- **The name of the end of metadata does not start in an opening marker**, since the name in that
does not go on. -/
theorem opening_le_endLabel (opens : openingLength? scope (text.drop start) = some length)
    (named : text.drop stop = endLabel scope ++ behind) (ordered : start ≤ stop) :
    start + length ≤ stop := by
  obtain ⟨mark, back, isOpening, here, ends, rfl⟩ := openingLength?_eq_some_iff.mp opens
  obtain ⟨skipped, rest, rfl, parts, noMarkBefore, noMark⟩ := isOpening.exists_mark
  obtain ⟨other, starts, _⟩ := exists_endLabel_eq_cons scope
  obtain ⟨gap, rfl⟩ := Nat.exists_eq_add_of_le ordered
  rw [← List.drop_drop, here] at named
  have marked : (skipped ++ (.scalar '@' :: rest ++ back) : Text)[gap]? = some (.scalar '@') := by
    rw [← parts, ← List.append_assoc]
    exact getElem?_of_drop_eq_cons (named.trans (by rw [starts, List.cons_append]))
  rcases eq_or_le_of_getElem?_mark noMarkBefore noMark marked with rfl | later
  · rw [List.append_assoc, List.drop_left, endLabel, List.append_assoc] at named
    have goesOn : (("-end" : Text) ++ behind).head?.any continuesLabel = true := by
      have dash : ("-end" : Text).head? = some (.scalar '-') := by decide
      have continues : continuesLabel (.scalar '-') = true := by simp [continuesLabel]
      rw [List.head?_append, dash, Option.some_or, Option.any_some, continues]
    rw [List.append_cancel_left named, goesOn] at ends
    cases ends
  · rw [List.length_append, parts, List.length_cons]
    omega

theorem opening_le_closing (opens : openingLength? scope (text.drop start) = some length)
    (closes : closingLength? scope (text.drop stop) = some size) (ordered : start ≤ stop) :
    start + length ≤ stop := by
  obtain ⟨_, back, ⟨blanks, _, rfl⟩, named, _⟩ := closingLength?_eq_some_iff.mp closes
  rw [List.append_assoc, List.append_assoc] at named
  exact opening_le_endLabel opens named ordered

theorem closingLength_pos (closes : closingLength? scope text = some size) : 0 < size := by
  obtain ⟨mark, _, isClosing, _, rfl⟩ := closingLength?_eq_some_iff.mp closes
  obtain ⟨rest, rfl, _⟩ := isClosing.exists_mark
  exact Nat.succ_pos _

/-- **A closing marker does not start in another one.** -/
theorem closing_le_closing (closes : closingLength? scope (text.drop start) = some size)
    (again : closingLength? scope (text.drop stop) = some length) (ordered : start < stop) :
    start + size ≤ stop := by
  obtain ⟨mark, back, isClosing, here, rfl⟩ := closingLength?_eq_some_iff.mp closes
  obtain ⟨_, _, others, named, _⟩ := closingLength?_eq_some_iff.mp again
  obtain ⟨rest, rfl, noMark⟩ := isClosing.exists_mark
  obtain ⟨_, rfl, _⟩ := others.exists_mark
  obtain ⟨gap, rfl⟩ := Nat.exists_eq_add_of_le (Nat.le_of_lt ordered)
  rw [← List.drop_drop, here] at named
  have marked : ([] ++ (.scalar '@' :: rest ++ back) : Text)[gap]? = some (.scalar '@') :=
    getElem?_of_drop_eq_cons named
  rcases eq_or_le_of_getElem?_mark List.not_mem_nil noMark marked with same | behind
  · rw [List.length_nil] at same
    omega
  · rw [List.length_nil] at behind
    rw [List.length_cons]
    omega

/-! ### Markers in a part of a text -/

section Parts

variable {part back : Text} (more : Text)

/-- **An opening marker that ends before the end of a part** of a text is one whatever comes behind
the part. -/
theorem openingLength?_of_append (opens : openingLength? scope (part ++ back) = some length)
    (inside : length < part.length) : openingLength? scope (part ++ more) = some length := by
  obtain ⟨mark, behind, isOpening, parts, ends, rfl⟩ := openingLength?_eq_some_iff.mp opens
  obtain ⟨between, rfl, rfl⟩ | ⟨between, rfl, rfl⟩ := List.append_eq_append_iff.mp parts
  · rw [List.length_append] at inside
    omega
  · refine openingLength?_eq_some_iff.mpr
      ⟨mark, between ++ more, isOpening, List.append_assoc _ _ _, ?_, rfl⟩
    cases between with
    | nil => simp at inside
    | cons point between => exact ends

/-- **A closing marker in a part** of a text is one whatever comes behind the part. -/
theorem closingLength?_of_append (closes : closingLength? scope (part ++ back) = some size)
    (inside : size ≤ part.length) : closingLength? scope (part ++ more) = some size := by
  obtain ⟨mark, behind, isClosing, parts, rfl⟩ := closingLength?_eq_some_iff.mp closes
  obtain ⟨between, rfl, rfl⟩ | ⟨between, rfl, rfl⟩ := List.append_eq_append_iff.mp parts
  · rw [List.length_append] at inside
    obtain rfl : between = [] := List.eq_nil_of_length_eq_zero (by omega)
    exact closingLength?_eq_some_iff.mpr ⟨_, more, isClosing, by rw [List.append_nil], rfl⟩
  · exact closingLength?_eq_some_iff.mpr
      ⟨mark, between ++ more, isClosing, List.append_assoc _ _ _, rfl⟩

theorem openingLength?_drop_of_append
    (opens : openingLength? scope ((part ++ back).drop start) = some length)
    (inside : start + length < part.length) : openingLength? scope ((part ++ more).drop start) =
      some length := by
  rw [List.drop_append_of_le_length (by omega)] at opens ⊢
  exact openingLength?_of_append more opens (by rw [List.length_drop]; omega)

theorem closingLength?_drop_of_append
    (closes : closingLength? scope ((part ++ back).drop stop) = some size)
    (inside : stop + size ≤ part.length) :
    closingLength? scope ((part ++ more).drop stop) = some size := by
  rcases Nat.lt_or_ge part.length stop with far | near
  · omega
  · rw [List.drop_append_of_le_length near] at closes ⊢
    exact closingLength?_of_append more closes (by rw [List.length_drop]; omega)

end Parts

/-! ### The first pair -/

/-- **The first pair of a text, by its places**: the first opening marker, and the first closing
marker behind it. -/
structure IsFirst (scope : Scope) (text : Text) (pair : Pair) : Prop where
  opens : openingLength? scope (text.drop pair.openingStart) =
    some (pair.openingStop - pair.openingStart)
  opens_first : ∀ place < pair.openingStart, openingLength? scope (text.drop place) = none
  openingStart_le : pair.openingStart ≤ pair.openingStop
  openingStop_le : pair.openingStop ≤ pair.closingStart
  closes : closingLength? scope (text.drop pair.closingStart) =
    some (pair.closingStop - pair.closingStart)
  closes_first : ∀ place < pair.closingStart, pair.openingStop ≤ place →
    closingLength? scope (text.drop place) = none
  closingStart_le : pair.closingStart ≤ pair.closingStop

theorem firstPair?_eq_some_iff {pair : Pair} :
    firstPair? scope text = some pair ↔ IsFirst scope text pair := by
  unfold firstPair?
  simp only [Option.bind_eq_bind, Option.bind_eq_some_iff, Prod.exists,
    search_eq_some_iff (openingLength?_nil scope), search_eq_some_iff (closingLength?_nil scope),
    List.drop_drop]
  constructor
  · rintro ⟨start, length, ⟨opens, opensFirst⟩, stop, size, ⟨closes, closesFirst⟩, ⟨⟩⟩
    refine ⟨by rwa [Nat.add_sub_cancel_left], opensFirst, Nat.le_add_right _ _,
      Nat.le_add_right _ _, by rwa [Nat.add_sub_cancel_left], fun place before behind => ?_,
      Nat.le_add_right _ _⟩
    simp only at before behind
    have never := closesFirst (place - (start + length)) (by omega)
    rwa [Nat.add_sub_cancel' behind] at never
  · intro first
    have opened := Nat.add_sub_cancel' first.openingStart_le
    have between := Nat.add_sub_cancel' first.openingStop_le
    have closed := Nat.add_sub_cancel' first.closingStart_le
    refine ⟨pair.openingStart, pair.openingStop - pair.openingStart,
      ⟨first.opens, first.opens_first⟩, pair.closingStart - pair.openingStop,
      pair.closingStop - pair.closingStart, ⟨?_, fun place before => ?_⟩, ?_⟩
    · rw [opened, between]
      exact first.closes
    · exact first.closes_first _ (by omega) (by omega)
    · rw [opened, between, closed]
      rfl

/-- There is a first pair where a closing marker comes behind an opening one, and both of its
markers come no later. -/
theorem exists_isFirst (opens : openingLength? scope (text.drop start) = some length)
    (closes : closingLength? scope (text.drop stop) = some size) (ordered : start ≤ stop) :
    ∃ pair, IsFirst scope text pair ∧ pair.openingStart ≤ start ∧ pair.closingStart ≤ stop := by
  cases opened : search (openingLength? scope) text with
  | none =>
    have never := (search_eq_none_iff (openingLength?_nil scope)).mp opened start
    rw [opens] at never
    cases never
  | some found =>
    obtain ⟨first, firstLength⟩ := found
    obtain ⟨opensFirst, noneBefore⟩ := (search_eq_some_iff (openingLength?_nil scope)).mp opened
    have early : first ≤ start := Nat.le_of_not_lt fun late => by
      have never := noneBefore start late
      rw [opens] at never
      cases never
    -- The first opening marker comes no later than the given one, and so it ends before the closing
    -- one as well.
    have ahead := opening_le_closing opensFirst closes (Nat.le_trans early ordered)
    have closesBehind : closingLength? scope
        ((text.drop (first + firstLength)).drop (stop - (first + firstLength))) =
        some size := by
      rw [List.drop_drop, Nat.add_sub_cancel' ahead]
      exact closes
    cases closed : search (closingLength? scope) (text.drop (first + firstLength)) with
    | none =>
      have never :=
        (search_eq_none_iff (closingLength?_nil scope)).mp closed (stop - (first + firstLength))
      rw [closesBehind] at never
      cases never
    | some last =>
      have noneBetween := ((search_eq_some_iff (closingLength?_nil scope)).mp closed).2
      have earlyToo : last.1 ≤ stop - (first + firstLength) := Nat.le_of_not_lt fun late => by
        have never := noneBetween _ late
        rw [closesBehind] at never
        cases never
      refine ⟨⟨first, first + firstLength, first + firstLength + last.1,
        first + firstLength + last.1 + last.2⟩, firstPair?_eq_some_iff.mp ?_, early, ?_⟩
      · unfold firstPair?
        rw [opened, Option.bind_eq_bind, Option.bind_some]
        simp only [closed]
        rfl
      · simp only
        omega

/-- **The first pair of a part of a text** is the first one whatever comes behind the part. -/
theorem firstPair?_of_append {part back more : Text} {pair : Pair}
    (found : firstPair? scope (part ++ back) = some pair)
    (inside : pair.closingStop ≤ part.length) : firstPair? scope (part ++ more) = some pair := by
  have first := firstPair?_eq_some_iff.mp found
  obtain ⟨opens, opensFirst, openingStart, openingStop, closes, closesFirst, closingStart⟩ := first
  have closingSize := closingLength_pos closes
  have stillCloses := closingLength?_drop_of_append more closes (by omega)
  refine firstPair?_eq_some_iff.mpr
    ⟨openingLength?_drop_of_append more opens (by omega), fun place before => ?_, openingStart,
      openingStop, stillCloses, fun place before behind => ?_, closingStart⟩
  · -- An opening marker ends before the closing one, so that what comes behind does not matter to
    -- it.
    refine Option.eq_none_iff_forall_ne_some.mpr fun length opensEarlier => ?_
    have ahead := opening_le_closing opensEarlier stillCloses (by omega)
    have earlier := openingLength?_drop_of_append back opensEarlier (by omega)
    rw [opensFirst place before] at earlier
    cases earlier
  · -- Nor to a closing marker before the one that was found.
    refine Option.eq_none_iff_forall_ne_some.mpr fun size closesEarlier => ?_
    have ahead := closing_le_closing closesEarlier stillCloses before
    have earlier := closingLength?_drop_of_append back closesEarlier (by omega)
    rw [closesFirst place before behind] at earlier
    cases earlier

/-! ### Pairs -/

/-- Pairs start no earlier than the text that they are in. -/
theorem le_openingStart_of_mem {offset : Nat} {text : Text} {pair : Pair}
    (member : pair ∈ pairsFrom scope offset text) : offset ≤ pair.openingStart := by
  rw [← Nat.add_zero offset, pairsFrom_add] at member
  obtain ⟨one, _, rfl⟩ := List.mem_map.mp member
  exact Nat.le_add_right _ _

theorem pairsFrom_eq_nil_iff (offset : Nat) {text : Text} :
    pairsFrom scope offset text = [] ↔ ¬ ∃ pair, IsFirst scope text pair := by
  cases found : firstPair? scope text with
  | none =>
    rw [pairsFrom_of_none offset found]
    refine iff_of_true rfl fun ⟨pair, first⟩ => ?_
    rw [firstPair?_eq_some_iff.mpr first] at found
    cases found
  | some pair =>
    rw [pairsFrom_of_some offset found]
    exact iff_of_false (List.cons_ne_nil _ _) fun never =>
      never ⟨pair, firstPair?_eq_some_iff.mp found⟩

/-! ### Places -/

/-- An opening marker starts at a place. -/
def OpensAt (scope : Scope) (text : Text) (place : Nat) : Prop :=
  (openingLength? scope (text.drop place)).isSome = true

/-- A closing marker starts at a place. -/
def ClosesAt (scope : Scope) (text : Text) (place : Nat) : Prop :=
  (closingLength? scope (text.drop place)).isSome = true

instance (text : Text) : DecidablePred (OpensAt scope text) :=
  fun _ => inferInstanceAs (Decidable (_ = true))

instance (text : Text) : DecidablePred (ClosesAt scope text) :=
  fun _ => inferInstanceAs (Decidable (_ = true))

theorem ClosesAt.lt_length {text : Text} (closes : ClosesAt scope text place) :
    place < text.length := by
  refine Nat.lt_of_not_le fun past => ?_
  rw [ClosesAt, List.drop_eq_nil_of_le past, closingLength?_nil] at closes
  cases closes

end TestOutline.Marker
