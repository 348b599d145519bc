/-
**What markers are.**

A marker is found by reading a text from its start; here it is told apart as a text of its own, with
what stands behind it.

* `IsOpening`, `IsClosing`: the texts that are markers. The blanks in them are free.
* `openingLength?_eq_some_iff`, `closingLength?_eq_some_iff`: what is found at the start of a text
  is a marker, and an opening one does not go on as a longer name.
* `search_eq_some`, `firstPair?_eq_some`: a search finds what stands at the place that it gives.
* `Misses`: no marker starts in a part of a text, so that a search may leave it out
  (`search_of_misses`).
-/

import TestOutline.Metadata.Marker

namespace TestOutline

/-- Blanks before what is not blank are what is dropped from the start of a text. -/
theorem Text.stripStart_append {blanks text : Text} (blank : blanks.isBlank = true)
    (stops : ∀ point, text.head? = some point → point.isBlank = false) :
    stripStart (blanks ++ text) = text := by
  induction blanks with
  | nil =>
    cases text with
    | nil => rfl
    | cons point rest =>
      rw [List.nil_append, stripStart, List.dropWhile_cons_of_neg]
      simp [stops point rfl]
  | cons point rest ih =>
    rw [isBlank, List.all_cons, Bool.and_eq_true] at blank
    obtain ⟨here, others⟩ := blank
    rw [List.cons_append, stripStart, List.dropWhile_cons_of_pos here]
    exact ih others

/-- A text is made of the blanks at its start and the rest. -/
theorem Text.exists_blanks (text : Text) :
    ∃ blanks : Text, blanks.isBlank = true ∧ text = blanks ++ stripStart text :=
  ⟨text.takeWhile CodePoint.isBlank, List.all_takeWhile, List.takeWhile_append_dropWhile.symm⟩

/-- A text whose blanks at its start are dropped starts with what stands behind them. -/
theorem Text.stripStart_eq_cons_iff {text behind : Text} {point : CodePoint}
    (visible : point.isBlank = false) :
    stripStart text = point :: behind ↔
      ∃ blanks : Text, blanks.isBlank = true ∧ text = blanks ++ point :: behind := by
  constructor
  · intro same
    obtain ⟨blanks, blank, parts⟩ := exists_blanks text
    exact ⟨blanks, blank, same ▸ parts⟩
  · rintro ⟨blanks, blank, rfl⟩
    refine stripStart_append blank fun first head => ?_
    cases head
    exact visible

/-- A text is cut where something starts. -/
theorem Text.exists_eq_append_of_drop {text rest : Text} {start : Nat} (rest_ne : rest ≠ [])
    (here : text.drop start = rest) : ∃ before : Text, text = before ++ rest ∧
      start = before.length := by
  have inside : start < text.length := Nat.lt_of_not_le fun past => by
    rw [List.drop_eq_nil_of_le past] at here
    exact rest_ne here.symm
  refine ⟨text.take start, ?_, ?_⟩
  · rw [← here, List.take_append_drop]
  · rw [List.length_take, Nat.min_eq_left (Nat.le_of_lt inside)]

namespace Marker

variable {scope other : Scope} {mark text behind : Text}

/-! ### The texts that are markers -/

/-- The name at the end of what stands between the marks of a comment. -/
def endLabel (scope : Scope) : Text := label scope ++ "-end"

/-- **An opening marker**: the start of a comment, blanks, and the name of metadata. -/
def IsOpening (scope : Scope) (mark : Text) : Prop :=
  ∃ blanks : Text, blanks.isBlank = true ∧ mark = "/*" ++ blanks ++ label scope

/-- **A closing marker**: the name of the end of metadata, blanks, and the end of a comment. -/
def IsClosing (scope : Scope) (mark : Text) : Prop :=
  ∃ blanks : Text, blanks.isBlank = true ∧ mark = endLabel scope ++ blanks ++ "*/"

theorem isOpening_opening (scope : Scope) : IsOpening scope (opening scope) := ⟨" ", by decide, rfl⟩

theorem isClosing_closing (scope : Scope) :
    IsClosing scope (closing scope) := ⟨" ", by decide, by cases scope <;> rfl⟩

/-- A name of metadata starts with a mark that is not blank, and has no slash in it. -/
theorem head_label (scope : Scope) :
    (label scope).head? = some (.scalar '@') := by cases scope <;> rfl

theorem slash_not_mem_endLabel (scope : Scope) :
    .scalar '/' ∉ endLabel scope := by cases scope <;> decide

theorem slash_not_mem_label (scope : Scope) : .scalar '/' ∉ label scope :=
  fun member => slash_not_mem_endLabel scope (List.mem_append_left _ member)

theorem slash_not_mem_of_isBlank {blanks : Text} (blank : blanks.isBlank = true) :
    .scalar '/' ∉ blanks := by
  intro member
  have := List.all_eq_true.mp blank _ member
  revert this
  decide

/-- An opening marker starts with a slash and has no other one. -/
theorem IsOpening.exists_eq_cons (opens : IsOpening scope mark) :
    ∃ rest, mark = .scalar '/' :: rest ∧ .scalar '/' ∉ rest := by
  obtain ⟨blanks, blank, rfl⟩ := opens
  refine ⟨.scalar '*' :: (blanks ++ label scope), rfl, fun member => ?_⟩
  rcases List.mem_cons.mp member with star | behind
  · cases star
  · rcases List.mem_append.mp behind with inBlanks | inLabel
    · exact slash_not_mem_of_isBlank blank inBlanks
    · exact slash_not_mem_label scope inLabel

/-- A closing marker ends with a slash and has no other one. -/
theorem IsClosing.exists_eq_append (closes : IsClosing scope mark) :
    ∃ rest, mark = rest ++ [.scalar '/'] ∧ .scalar '/' ∉ rest := by
  obtain ⟨blanks, blank, rfl⟩ := closes
  have ending : ("*/" : Text) = [.scalar '*', .scalar '/'] := rfl
  refine ⟨endLabel scope ++ (blanks ++ [.scalar '*']), by simp [ending], fun member => ?_⟩
  rcases List.mem_append.mp member with inLabel | behind
  · exact slash_not_mem_endLabel scope inLabel
  · rcases List.mem_append.mp behind with inBlanks | star
    · exact slash_not_mem_of_isBlank blank inBlanks
    · cases List.mem_singleton.mp star

/-- The names of the scopes differ, whatever stands behind them. -/
theorem scope_eq_of_label_append {left right : Text}
    (same : label scope ++ left = label other ++ right) :
    scope = other := by
  revert same
  cases scope <;> cases other <;> simp [label, Scope.word, Text.ofString]

/-- **What is found at the start of a text is an opening marker** with no longer name. -/
theorem openingLength?_eq_some_iff {length : Nat} : openingLength? scope text = some length ↔
    ∃ mark behind, IsOpening scope mark ∧ text = mark ++ behind ∧
      behind.head?.any continuesLabel = false ∧
      length = mark.length := by
  constructor
  · intro found
    unfold openingLength? at found
    simp only at found
    split at found
    · next starts =>
      split at found
      · next named =>
        obtain ⟨named, ends⟩ := named
        obtain ⟨rest, rfl⟩ := List.isPrefixOf_iff_prefix.mp starts
        rw [List.drop_left] at named ends found
        obtain ⟨blanks, blank, parts⟩ := Text.exists_blanks rest
        obtain ⟨behind, inside⟩ := List.isPrefixOf_iff_prefix.mp named
        rw [← inside, List.drop_left] at ends
        refine ⟨"/*" ++ blanks ++ label scope, behind, ⟨blanks, blank, rfl⟩, ?_,
          by simpa using ends, ?_⟩
        · rw [List.append_assoc, List.append_assoc, inside, ← parts]
        · have lengths := congrArg List.length parts
          rw [← Option.some.inj found]
          simp only [List.length_append] at lengths ⊢
          omega
      · cases found
    · cases found
  · rintro ⟨_, behind, ⟨blanks, blank, rfl⟩, rfl, ends, rfl⟩
    have inside : Text.stripStart (blanks ++ (label scope ++ behind)) = label scope ++ behind := by
      refine Text.stripStart_append blank fun point head => ?_
      rw [List.head?_append, head_label, Option.some_or] at head
      cases head
      decide
    unfold openingLength?
    simp only [List.append_assoc]
    rw [if_pos (List.isPrefixOf_iff_prefix.mpr (List.prefix_append _ _)), List.drop_left, inside,
      List.drop_left,
      if_pos ⟨List.isPrefixOf_iff_prefix.mpr (List.prefix_append _ _), by simp [ends]⟩]
    congr 1
    simp only [List.length_append]
    omega

/-- **What is found at the start of a text is a closing marker.** -/
theorem closingLength?_eq_some_iff {length : Nat} : closingLength? scope text = some length ↔
    ∃ mark behind, IsClosing scope mark ∧ text = mark ++ behind ∧ length = mark.length := by
  constructor
  · intro found
    unfold closingLength? at found
    simp only at found
    split at found
    · next starts =>
      split at found
      · next ended =>
        obtain ⟨rest, rfl⟩ := List.isPrefixOf_iff_prefix.mp starts
        rw [List.drop_left] at ended found
        obtain ⟨blanks, blank, parts⟩ := Text.exists_blanks rest
        obtain ⟨behind, inside⟩ := List.isPrefixOf_iff_prefix.mp ended
        refine ⟨endLabel scope ++ blanks ++ "*/", behind, ⟨blanks, blank, rfl⟩, ?_, ?_⟩
        · rw [endLabel, List.append_assoc _ _ behind, inside, List.append_assoc _ blanks, ← parts]
        · have lengths := congrArg List.length parts
          have insideLengths := congrArg List.length inside
          rw [← Option.some.inj found]
          simp only [List.length_append, endLabel] at lengths insideLengths ⊢
          omega
      · cases found
    · cases found
  · rintro ⟨_, behind, ⟨blanks, blank, rfl⟩, rfl, rfl⟩
    have mark : Text.stripStart (blanks ++ ("*/" ++ behind)) = "*/" ++ behind := by
      refine Text.stripStart_append blank fun point head => ?_
      cases Option.some.inj head
      decide
    unfold closingLength?
    simp only [endLabel, List.append_assoc]
    rw [← List.append_assoc (label scope),
      if_pos (List.isPrefixOf_iff_prefix.mpr (List.prefix_append _ _)), List.drop_left, mark,
      if_pos (List.isPrefixOf_iff_prefix.mpr (List.prefix_append _ _))]
    congr 1
    simp only [List.length_append]
    omega

/-! ### Searches -/

variable {length? : Text → Option Nat} {front back : Text} {start length : Nat}

/-- **A search finds what stands at the place that it gives.** -/
theorem search_eq_some (found : search length? text = some (start, length)) :
    start < text.length ∧ length? (text.drop start) = some length := by
  induction text generalizing start with
  | nil => cases found
  | cons point rest ih =>
    rw [search] at found
    split at found
    · next here =>
      cases found
      exact ⟨Nat.succ_pos _, here⟩
    · obtain ⟨⟨later, size⟩, foundLater, same⟩ := Option.map_eq_some_iff.mp found
      cases same
      obtain ⟨inside, there⟩ := ih foundLater
      exact ⟨Nat.succ_lt_succ inside, there⟩

/-- **No marker starts in a part of a text**; `back` is what stands behind the part. -/
def Misses (length? : Text → Option Nat) (back : Text) : Text → Prop
  | [] => True
  | point :: rest => length? (point :: rest ++ back) = none ∧ Misses length? back rest

theorem misses_append_iff {middle : Text} :
    Misses length? back (front ++ middle) ↔
      Misses length? (middle ++ back) front ∧ Misses length? back middle := by
  induction front with
  | nil => simp [Misses]
  | cons point rest ih => rw [List.cons_append, Misses, Misses, ih, and_assoc, List.cons_append,
      List.append_assoc, List.cons_append]

/-- No marker starts in a part that has no marker at the start of any part of it. -/
theorem misses_of_forall
    (nowhere : ∀ left right, front = left ++ right → right ≠ [] → length? (right ++ back) = none) :
    Misses length? back front := by
  induction front with
  | nil => trivial
  | cons point rest ih =>
    refine ⟨nowhere [] _ rfl (List.cons_ne_nil _ _),
      ih fun left right parts => nowhere (point :: left) right ?_⟩
    rw [parts, List.cons_append]

/-- **A search may leave out a part in which no marker starts.** -/
theorem search_of_misses (misses : Misses length? back front) :
    search length? (front ++ back) = (search length? back).map fun found =>
      (front.length + found.1, found.2) := by
  induction front with
  | nil => simp
  | cons point rest ih =>
    obtain ⟨here, others⟩ := misses
    rw [List.cons_append] at here
    rw [List.cons_append, search, here, ih others]
    simp only [Option.map_map, List.length_cons, Function.comp_def, Nat.add_right_comm]

/-- A search ends where a marker starts. -/
theorem search_of_some (text_ne : text ≠ []) (here : length? text = some length) :
    search length? text = some (0, length) := by
  obtain ⟨point, rest, rfl⟩ := List.exists_cons_of_ne_nil text_ne
  rw [search, here]

/-! ### Pairs -/

/-- **The first pair of a text** is where an opening marker stands behind a part without one, and
then a closing one behind a part without one. -/
theorem firstPair?_of_misses {inside closingMark : Text}
    (opens : openingLength? scope (mark ++ (inside ++ (closingMark ++ back))) = some mark.length)
    (closes : closingLength? scope (closingMark ++ back) = some closingMark.length)
    (before : Misses (openingLength? scope) (mark ++ (inside ++ (closingMark ++ back))) front)
    (between : Misses (closingLength? scope) (closingMark ++ back) inside) (mark_ne : mark ≠ [])
    (closing_ne : closingMark ≠ []) :
    firstPair? scope (front ++ (mark ++ (inside ++ (closingMark ++ back)))) =
      some ⟨front.length, front.length + mark.length, front.length + mark.length + inside.length,
        front.length + mark.length + inside.length + closingMark.length⟩ := by
  have opened : search (openingLength? scope)
      (front ++ (mark ++ (inside ++ (closingMark ++ back)))) =
      some (front.length, mark.length) := by
    rw [search_of_misses before, search_of_some (by simp [mark_ne]) opens]
    rfl
  have closed : search (closingLength? scope) (inside ++ (closingMark ++ back)) =
      some (inside.length, closingMark.length) := by
    rw [search_of_misses between, search_of_some (by simp [closing_ne]) closes]
    rfl
  have behind : (front ++ (mark ++ (inside ++ (closingMark ++ back)))).drop
      (front.length + mark.length) =
      inside ++ (closingMark ++ back) := by
    rw [← List.append_assoc, ← List.length_append, List.drop_left]
  unfold firstPair?
  rw [opened]
  simp only [Option.bind_eq_bind, Option.bind_some, behind]
  rw [closed]
  rfl

/-- **The first pair lies in the text**, and its closing marker comes behind the opening one. -/
theorem firstPair?_inside {pair : Pair} (found : firstPair? scope text = some pair) :
    pair.openingStart ≤ pair.openingStop ∧ pair.openingStop ≤ pair.closingStart ∧
      ∃ before mark behind, IsClosing scope mark ∧ text = before ++ (mark ++ behind) ∧
        pair.closingStart = before.length ∧ pair.closingStop = before.length + mark.length := by
  unfold firstPair? at found
  obtain ⟨⟨start, length⟩, opened, found⟩ := Option.bind_eq_some_iff.mp found
  obtain ⟨⟨stop, closingLength⟩, closed, found⟩ := Option.bind_eq_some_iff.mp found
  cases found
  obtain ⟨within, closes⟩ := search_eq_some closed
  obtain ⟨mark, behind, closing, parts, rfl⟩ := closingLength?_eq_some_iff.mp closes
  rw [List.length_drop] at within
  rw [List.drop_drop] at parts
  have place : (text.take (start + length + stop)).length = start + length + stop := by
    rw [List.length_take]
    omega
  refine ⟨Nat.le_add_right _ _, Nat.le_add_right _ _, text.take (start + length + stop), mark,
    behind, closing, ?_, place.symm, ?_⟩
  · rw [← parts, List.take_append_drop]
  · rw [place]

theorem pairsFrom_of_none (offset : Nat) (missing : firstPair? scope text = none) :
    pairsFrom scope offset text = [] := by
  cases text with
  | nil => rw [pairsFrom]
  | cons point rest => rw [pairsFrom, missing]

theorem closingStop_mem {pair : Pair} (found : firstPair? scope text = some pair) :
    0 < pair.closingStop ∧ pair.closingStop ≤ text.length := by
  obtain ⟨_, _, before, mark, behind, closing, rfl, _, stop⟩ := firstPair?_inside found
  obtain ⟨rest, rfl, _⟩ := closing.exists_eq_append
  simp only [stop, List.length_append, List.length_singleton]
  omega

theorem drop_closingStop {pair : Pair} {point : CodePoint} {rest : Text}
    (found : firstPair? scope (point :: rest) = some pair) :
    (point :: rest).drop pair.closingStop = rest.drop (pair.closingStop - 1) := by
  have positive := (closingStop_mem found).1
  rw [show pair.closingStop =
    (pair.closingStop - 1) + 1 by omega, List.drop_succ_cons, Nat.add_sub_cancel]

/-- The pairs of a text are the first one and those behind it. -/
theorem pairsFrom_of_some (offset : Nat) {pair : Pair} (found : firstPair? scope text = some pair) :
    pairsFrom scope offset text =
      pair.shift offset ::
        pairsFrom scope (offset + pair.closingStop) (text.drop pair.closingStop) := by
  cases text with
  | nil => cases found
  | cons point rest => rw [pairsFrom, found, drop_closingStop found]

@[simp] theorem Pair.closingStop_shift (count : Nat) (pair : Pair) :
    (pair.shift count).closingStop = count + pair.closingStop := rfl

theorem Pair.shift_shift (first second : Nat) (pair : Pair) :
    (pair.shift second).shift first = pair.shift (first + second) := by
  simp only [shift, Nat.add_assoc]

/-- The first pair of a text stands as far behind a part in which none opens. -/
theorem firstPair?_append_of_misses (misses : Misses (openingLength? scope) back front) :
    firstPair? scope (front ++ back) = (firstPair? scope back).map (Pair.shift front.length) := by
  unfold firstPair?
  rw [search_of_misses misses]
  cases search (openingLength? scope) back with
  | none => rfl
  | some opened =>
    simp only [Option.map_some, Option.bind_eq_bind, Option.bind_some, Nat.add_assoc,
      List.drop_length_add_append]
    cases search (closingLength? scope) (back.drop (opened.1 + opened.2)) with
    | none => rfl
    | some closed => rfl

/-- **The pairs of a text stand as far behind a part in which none opens.** -/
theorem pairsFrom_of_misses (offset : Nat) (misses : Misses (openingLength? scope) back front) :
    pairsFrom scope offset (front ++ back) = pairsFrom scope (offset + front.length) back := by
  have first := firstPair?_append_of_misses misses
  cases found : firstPair? scope back with
  | none =>
    rw [found] at first
    rw [pairsFrom_of_none _ found, pairsFrom_of_none _ first]
  | some pair =>
    rw [found] at first
    rw [pairsFrom_of_some _ found, pairsFrom_of_some _ first, Pair.shift_shift,
      Pair.closingStop_shift, List.drop_length_add_append, Nat.add_assoc]

/-- Where a text starts is where its pairs are counted from. -/
theorem pairsFrom_add (scope : Scope) (offset start : Nat) (text : Text) :
    pairsFrom scope (offset + start) text =
      (pairsFrom scope start text).map (Pair.shift offset) := by
  cases found : firstPair? scope text with
  | none => rw [pairsFrom_of_none _ found, pairsFrom_of_none _ found, List.map_nil]
  | some pair =>
    have inside := closingStop_mem found
    rw [pairsFrom_of_some _ found, pairsFrom_of_some _ found, List.map_cons, Pair.shift_shift,
      Nat.add_assoc, pairsFrom_add scope offset]
termination_by text.length
decreasing_by
  rw [List.length_drop]
  omega

/-- **The pairs of a text lie in it**, with the opening marker before the closing one. -/
theorem inside_of_mem_pairsFrom {offset : Nat} {text : Text} {pair : Pair}
    (member : pair ∈ pairsFrom scope offset text) :
    pair.openingStart ≤ pair.openingStop ∧ pair.openingStop ≤ pair.closingStart ∧
      pair.closingStart ≤ pair.closingStop ∧ pair.closingStop ≤ offset + text.length := by
  cases found : firstPair? scope text with
  | none =>
    rw [pairsFrom_of_none offset found] at member
    cases member
  | some first =>
    have inside := closingStop_mem found
    rw [pairsFrom_of_some offset found] at member
    rcases List.mem_cons.mp member with rfl | later
    · obtain ⟨opening, content, before, mark, behind, _, _, closing, stop⟩ :=
        firstPair?_inside found
      simp only [Pair.shift]
      omega
    · have := inside_of_mem_pairsFrom later
      rw [List.length_drop] at this
      omega
termination_by text.length
decreasing_by
  rw [List.length_drop]
  omega

end Marker

end TestOutline
