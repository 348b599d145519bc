/-
**What expressions match.**

A search for a match asks, at each place that an expression can come to, whether what follows
accepts it. Here a match is told as a relation of two places in a text, without an order in which it
is looked for and without a bound on repetitions.

* `Leads`: a place lies ahead of another one in the same text.
* `Matches`: an expression matches what lies between two places.
* `Iterated.moves`: a repetition that moves at all may be taken to move with its first step, so that
  a search may refuse other steps beyond the least number; `iterate_eq_true_iff`.
* `run_eq_true_iff`: a search finds a match that what follows accepts, if there is one.
* `occursIn_eq_true_iff`: so does a search through a whole text.
-/

import TestOutline.Pattern.Basic

namespace TestOutline

namespace TextPlace

variable {place next : TextPlace}

/-- **A place lies ahead** of another one, which has some more text before it. -/
def Leads (place next : TextPlace) : Prop :=
  ∃ passed : Text, place.ahead = passed ++ next.ahead ∧ next.before = passed.reverse ++ place.before

theorem Leads.refl (place : TextPlace) : place.Leads place := ⟨[], rfl, rfl⟩

theorem Leads.trans {last : TextPlace} (first : place.Leads next) (second : next.Leads last) :
    place.Leads last := by
  obtain ⟨passed, ahead, before⟩ := first
  obtain ⟨further, ahead', before'⟩ := second
  refine ⟨passed ++ further, ?_, ?_⟩
  · rw [ahead, ahead', List.append_assoc]
  · rw [before', before, List.reverse_append, List.append_assoc]

theorem Leads.length_le (leads : place.Leads next) : next.ahead.length ≤ place.ahead.length := by
  obtain ⟨passed, ahead, _⟩ := leads
  rw [ahead, List.length_append]
  omega

/-- **A place is known by how much lies ahead of it.** -/
theorem Leads.unique {other : TextPlace} (leads : place.Leads next) (leadsOther : place.Leads other)
    (same : next.ahead.length = other.ahead.length) : next = other := by
  obtain ⟨passed, ahead, before⟩ := leads
  obtain ⟨passed', ahead', before'⟩ := leadsOther
  obtain ⟨rfl, aheads⟩ := List.append_inj' (ahead.symm.trans ahead') same
  cases next
  cases other
  cases aheads
  cases before.trans before'.symm
  rfl

theorem Leads.eq_of_length_le (leads : place.Leads next)
    (short : place.ahead.length ≤ next.ahead.length) :
    next = place := leads.unique (.refl place) (Nat.le_antisymm leads.length_le short)

theorem leads_advance (place : TextPlace) : place.Leads place.advance := by
  unfold advance
  cases ahead : place.ahead with
  | nil => exact .refl place
  | cons point rest => exact ⟨[point], ahead, rfl⟩

theorem leads_of_back (place : TextPlace) (count : Nat) : (place.back count).Leads place :=
  ⟨(place.before.take count).reverse, rfl, by simp [back]⟩

/-- A place that leads to another one lies some code points before it. -/
theorem Leads.exists_back (leads : next.Leads place) :
    ∃ count ≤ place.before.length, place.back count = next := by
  obtain ⟨passed, ahead, before⟩ := leads
  refine ⟨passed.length, ?_, ?_⟩
  · rw [before, List.length_append, List.length_reverse]
    omega
  · have cut : passed.length = passed.reverse.length := List.length_reverse.symm
    rw [back, before, cut, List.drop_left, List.take_left, List.reverse_reverse, ← ahead]

end TextPlace

namespace Regex

/-- Steps of a kind, so many of them, lead from one place to another. -/
def Iterated (step : TextPlace → TextPlace → Prop) : Nat → TextPlace → TextPlace → Prop
  | 0, place, next => next = place
  | count + 1, place, next => ∃ middle, step place middle ∧ Iterated step count middle next

/-- **An expression matches what lies between two places** of a text. -/
def Matches : Regex → TextPlace → TextPlace → Prop
  | .nothing, place, next => next = place
  | .one set, place, next =>
    ∃ point, place.ahead.head? = some point ∧ set.contains point = true ∧ next = place.advance
  | .anchor mark, place, next => place.satisfies mark = true ∧ next = place
  | .sequence first second, place, next => ∃ middle, Matches first place middle ∧
      Matches second middle next
  | .choice first second, place, next => Matches first place next ∨ Matches second place next
  | .repeated least most inner, place, next =>
    ∃ count, least ≤ count ∧ (∀ bound, most = some bound → count ≤ bound) ∧
      Iterated (Matches inner) count place next
  | .lookAhead wanted inner, place, next => ((∃ later, Matches inner place later) ↔ wanted = true) ∧
      next = place
  | .lookBehind wanted inner, place,
      next => ((∃ earlier, Matches inner earlier place) ↔ wanted = true) ∧ next = place

/-! ### Steps -/

section Steps

variable {search : (TextPlace → Bool) → TextPlace → Bool} {step : TextPlace → TextPlace → Prop}
  (onward : ∀ place next, step place next → place.Leads next)

include onward

theorem Iterated.leads {count : Nat} {place next : TextPlace}
    (steps : Iterated step count place next) :
    place.Leads next := by
  induction count generalizing place with
  | zero =>
    obtain rfl : next = place := steps
    exact .refl next
  | succ count ih =>
    obtain ⟨middle, first, others⟩ := steps
    exact (onward place middle first).trans (ih others)

/-- **Steps that do not move can be left out** before the first one that does. -/
theorem Iterated.moves {count : Nat} {place next : TextPlace}
    (steps : Iterated step count place next) :
    next = place ∨ ∃ fewer < count, ∃ middle, step place middle ∧
    middle.ahead.length < place.ahead.length ∧
      Iterated step fewer middle next := by
  induction count with
  | zero => exact .inl steps
  | succ count ih =>
    obtain ⟨middle, first, others⟩ := steps
    rcases Nat.lt_or_ge middle.ahead.length place.ahead.length with moved | stayed
    · exact .inr ⟨count, by omega, middle, first, moved, others⟩
    · obtain rfl := (onward place middle first).eq_of_length_le stayed
      exact (ih others).imp_right fun ⟨fewer, less, rest⟩ => ⟨fewer, by omega, rest⟩

/-- **Repeating finds every number of steps in its bounds** that leads to a place that is accepted.
A step beyond the least number has to move, and so there is fuel for all of them. -/
theorem iterate_eq_true_iff
    (spec : ∀ follow place, search follow place = true ↔ ∃ next, step place next ∧
      follow next = true)
    {fuel least : Nat} {most : Option Nat} {follow : TextPlace → Bool} {place : TextPlace}
    (enough : least + place.ahead.length ≤ fuel) :
    iterate search fuel least most follow place = true ↔
      ∃ next, (∃ count, least ≤ count ∧ (∀ bound, most = some bound → count ≤ bound) ∧
        Iterated step count place next) ∧ follow next = true := by
  induction fuel generalizing least most place with
  | zero =>
    obtain ⟨rfl, empty⟩ : least = 0 ∧ place.ahead.length = 0 := by omega
    rw [iterate, Bool.and_eq_true, and_iff_right BEq.rfl]
    constructor
    · exact fun accepted => ⟨place, ⟨0, Nat.le_refl _, fun _ _ => Nat.zero_le _, rfl⟩, accepted⟩
    · rintro ⟨next, ⟨count, _, _, steps⟩, accepted⟩
      obtain rfl := (steps.leads onward).eq_of_length_le (by omega)
      exact accepted
  | succ fuel ih =>
    rw [iterate, Bool.or_eq_true, Bool.and_eq_true, Bool.and_eq_true, beq_iff_eq, bne_iff_ne, spec]
    constructor
    · rintro (⟨rfl, accepted⟩ | ⟨allowed, middle, first, found⟩)
      · exact ⟨place, ⟨0, Nat.le_refl _, fun _ _ => Nat.zero_le _, rfl⟩, accepted⟩
      · rw [Bool.and_eq_true, Bool.or_eq_true, decide_eq_true_iff, decide_eq_true_iff] at found
        have shorter := (onward place middle first).length_le
        obtain ⟨next, ⟨count, atLeast, atMost, steps⟩, accepted⟩ := (ih (by omega)).mp found.2
        refine ⟨next, ⟨count + 1, by omega, fun bound same => ?_, middle, first, steps⟩, accepted⟩
        have below := atMost (bound - 1) (by rw [same]; rfl)
        have positive : bound ≠ 0 := fun zero => allowed (zero ▸ same)
        omega
    · rintro ⟨next, ⟨count, atLeast, atMost, steps⟩, accepted⟩
      -- A first step that is needed or moves leaves a repetition with bounds that are less by one.
      have further : ∀ fewer < count, ∀ middle, step place middle → least ≤ fewer + 1 →
          (0 < least ∨ middle.ahead.length < place.ahead.length) → Iterated step fewer middle next →
          most ≠ some 0 ∧ ∃ middle, step place middle ∧
            ((decide (0 < least) || decide (middle.ahead.length < place.ahead.length)) &&
              iterate search fuel (least - 1) (most.map (· - 1)) follow middle) = true := by
        intro fewer less middle first needed counts rest
        have shorter := (onward place middle first).length_le
        refine ⟨fun none => by have := atMost 0 none; omega, middle, first, ?_⟩
        rw [Bool.and_eq_true, Bool.or_eq_true, decide_eq_true_iff, decide_eq_true_iff]
        refine ⟨counts,
          (ih (by omega)).mpr ⟨next, ⟨fewer, by omega, fun bound same => ?_, rest⟩, accepted⟩⟩
        obtain ⟨original, given, rfl⟩ := Option.map_eq_some_iff.mp same
        have := atMost original given
        omega
      rcases Nat.eq_zero_or_pos least with rfl | needed
      · rcases steps.moves onward with rfl | ⟨fewer, less, middle, first, moved, rest⟩
        · exact .inl ⟨rfl, accepted⟩
        · exact .inr (further fewer less middle first (by omega) (.inr moved) rest)
      · obtain ⟨fewer, rfl⟩ : ∃ fewer, count = fewer + 1 := ⟨count - 1, by omega⟩
        obtain ⟨middle, first, rest⟩ := steps
        exact .inr (further fewer (by omega) middle first (by omega) (.inl needed) rest)

/-- **Looking back from a place** finds what leads to it. -/
theorem any_back_eq_true_iff
    (spec : ∀ follow place, search follow place = true ↔ ∃ next, step place next ∧
      follow next = true)
    (place : TextPlace) :
    (List.range (place.before.length + 1)).any (fun count =>
      search (fun next => next.ahead.length == place.ahead.length) (place.back count)) = true ↔
        ∃ earlier, step earlier place := by
  rw [List.any_eq_true]
  constructor
  · rintro ⟨count, _, matched⟩
    obtain ⟨next, inside, here⟩ := (spec _ _).mp matched
    rw [beq_iff_eq] at here
    obtain rfl := (onward _ _ inside).unique (place.leads_of_back count) here
    exact ⟨_, inside⟩
  · rintro ⟨earlier, inside⟩
    obtain ⟨count, short, rfl⟩ := (onward _ _ inside).exists_back
    exact ⟨count, List.mem_range.mpr (by omega), (spec _ _).mpr ⟨place, inside, by simp⟩⟩

end Steps

/-! ### Searches -/

/-- A match lies ahead of where it starts. -/
theorem Matches.leads (regex : Regex) :
    ∀ place next, Matches regex place next → place.Leads next := by
  induction regex with
  | nothing =>
    rintro place _ rfl
    exact .refl _
  | one set =>
    rintro place _ ⟨_, _, _, rfl⟩
    exact TextPlace.leads_advance _
  | anchor mark =>
    rintro place _ ⟨_, rfl⟩
    exact .refl _
  | sequence first second ihFirst ihSecond =>
    rintro place next ⟨middle, left, right⟩
    exact (ihFirst place middle left).trans (ihSecond middle next right)
  | choice first second ihFirst ihSecond =>
    rintro place next (left | right)
    · exact ihFirst place next left
    · exact ihSecond place next right
  | repeated least most inner ih =>
    rintro place next ⟨count, _, _, steps⟩
    exact steps.leads ih
  | lookAhead wanted inner ih =>
    rintro place _ ⟨_, rfl⟩
    exact .refl _
  | lookBehind wanted inner ih =>
    rintro place _ ⟨_, rfl⟩
    exact .refl _

/-- What is wanted of a test is what holds where the test is decided. -/
theorem beq_eq_true_iff_of_iff {test wanted : Bool} {holds : Prop} (decides : test = true ↔ holds) :
    (test == wanted) = true ↔ (holds ↔ wanted = true) := by
  rw [beq_iff_eq, ← decides, Bool.eq_iff_iff]

/-- **A search finds a match that what follows accepts**, if there is one. -/
theorem run_eq_true_iff (regex : Regex) (follow : TextPlace → Bool) (place : TextPlace) :
    run regex follow place = true ↔ ∃ next, Matches regex place next ∧ follow next = true := by
  -- What matches without extent leaves the place to what follows.
  have stays : ∀ {holds : Prop} {follow : TextPlace → Bool} {place : TextPlace},
      holds ∧ follow place = true ↔ ∃ next, (holds ∧ next = place) ∧ follow next = true := by
    intro holds follow place
    exact ⟨fun both => ⟨place, ⟨both.1, rfl⟩, both.2⟩,
      fun ⟨_, ⟨held, same⟩, accepted⟩ => ⟨held, same ▸ accepted⟩⟩
  induction regex generalizing follow place with
  | nothing => simp [run, Matches]
  | one set =>
    rw [run, Bool.and_eq_true, Option.any_eq_true]
    constructor
    · rintro ⟨⟨point, head, contained⟩, accepted⟩
      exact ⟨place.advance, ⟨point, head, contained, rfl⟩, accepted⟩
    · rintro ⟨_, ⟨point, head, contained, rfl⟩, accepted⟩
      exact ⟨⟨point, head, contained⟩, accepted⟩
  | anchor mark =>
    rw [run, Bool.and_eq_true]
    exact stays
  | sequence first second ihFirst ihSecond =>
    rw [run]
    constructor
    · intro found
      obtain ⟨middle, left, later⟩ := (ihFirst _ _).mp found
      obtain ⟨next, right, accepted⟩ := (ihSecond _ _).mp later
      exact ⟨next, ⟨middle, left, right⟩, accepted⟩
    · rintro ⟨next, ⟨middle, left, right⟩, accepted⟩
      exact (ihFirst _ _).mpr ⟨middle, left, (ihSecond _ _).mpr ⟨next, right, accepted⟩⟩
  | choice first second ihFirst ihSecond =>
    rw [run, Bool.or_eq_true]
    refine (or_congr (ihFirst _ _) (ihSecond _ _)).trans ?_
    simp only [Matches, or_and_right, exists_or]
  | repeated least most inner ih =>
    rw [run]
    exact iterate_eq_true_iff (Matches.leads inner) ih (by omega)
  | lookAhead wanted inner ih =>
    have found : run inner (fun _ => true) place = true ↔ ∃ later, Matches inner place later := by
      simp [ih]
    rw [run, Bool.and_eq_true, beq_eq_true_iff_of_iff found]
    exact stays
  | lookBehind wanted inner ih =>
    have found := any_back_eq_true_iff (Matches.leads inner) ih place
    rw [run, Bool.and_eq_true, beq_eq_true_iff_of_iff found]
    exact stays

theorem occursFrom_eq_true_iff (regex : Regex) (before text : Text) :
    occursFrom regex before text = true ↔
      ∃ passed ahead next, text = passed ++ ahead ∧
        Matches regex ⟨passed.reverse ++ before, ahead⟩ next := by
  have here : ∀ place, run regex (fun _ => true) place = true ↔
      ∃ next, Matches regex place next := by
    intro place
    simp [run_eq_true_iff]
  induction text generalizing before with
  | nil =>
    rw [occursFrom, here]
    constructor
    · rintro ⟨next, inside⟩
      exact ⟨[], [], next, rfl, inside⟩
    · rintro ⟨passed, ahead, next, parts, inside⟩
      obtain ⟨rfl, rfl⟩ := List.append_eq_nil_iff.mp parts.symm
      exact ⟨next, inside⟩
  | cons point rest ih =>
    rw [occursFrom, Bool.or_eq_true, here]
    refine (or_congr_right (ih _)).trans ?_
    constructor
    · rintro (⟨next, inside⟩ | ⟨passed, ahead, next, rfl, inside⟩)
      · exact ⟨[], _, next, rfl, inside⟩
      · exact ⟨point :: passed, ahead, next, rfl, by simpa using inside⟩
    · rintro ⟨passed, ahead, next, parts, inside⟩
      rcases List.cons_eq_append_iff.mp parts with ⟨rfl, rfl⟩ | ⟨passed, rfl, rfl⟩
      · exact .inl ⟨next, inside⟩
      · exact .inr ⟨passed, ahead, next, rfl, by simpa using inside⟩

/-- **A search through a text finds a match** that starts at any place of it, if there is one. -/
theorem occursIn_eq_true_iff (regex : Regex) (text : Text) :
    occursIn regex text = true ↔
      ∃ passed ahead next, text = passed ++ ahead ∧ Matches regex ⟨passed.reverse, ahead⟩ next := by
  simp only [occursIn, occursFrom_eq_true_iff, List.append_nil]

end Regex

end TestOutline
