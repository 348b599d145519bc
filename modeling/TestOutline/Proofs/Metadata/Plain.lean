/-
**Texts without names of metadata.**

Every name of metadata starts with the same marks. Where these do not come up, no marker starts,
unless its name stands behind the text.

* `Text.infix_append_cons_iff`: a text stands on one side of a code point that it does not have.
* `Marker.misses_closing`, `Marker.misses_opening`: no marker starts in a text without these marks.
* `Marker.misses_opening_opening`: nor does one at the marker of another scope.
-/

import TestOutline.Proofs.Metadata.Marker

namespace TestOutline

namespace Text

theorem contains_iff_infix {text part : Text} : text.contains part = true ↔ part <:+: text := by
  induction text with
  | nil => simp [contains]
  | cons point rest ih =>
    rw [contains, Bool.or_eq_true, ih, List.isPrefixOf_iff_prefix, List.infix_cons_iff]

/-- A text that starts another one ends before a code point that it does not have. -/
theorem prefix_of_append_cons {part left right : Text} {point : CodePoint} (absent : point ∉ part)
    (starts : part <+: left ++ point :: right) : part <+: left := by
  rcases List.prefix_or_prefix_of_prefix starts
      (List.prefix_append left (point :: right)) with short | ⟨more, rfl⟩
  · exact short
  · cases more with
    | nil => simp
    | cons first more =>
      have next : first :: more <+: point :: right := (List.prefix_append_right_inj left).mp starts
      obtain ⟨rfl, _⟩ := List.cons_prefix_cons.mp next
      simp at absent

/-- **A text stands on one side of a code point that it does not have.** -/
theorem infix_append_cons_iff {part left right : Text} {point : CodePoint} (absent : point ∉ part) :
    part <:+: left ++ point :: right ↔ part <:+: left ∨ part <:+: right := by
  constructor
  · intro inside
    induction left with
    | nil =>
      rcases List.infix_cons_iff.mp inside with starts | later
      · exact .inl (prefix_of_append_cons absent starts).isInfix
      · exact .inr later
    | cons first rest ih =>
      rcases List.infix_cons_iff.mp inside with starts | later
      · exact .inl (prefix_of_append_cons absent starts).isInfix
      · exact (ih later).imp_left fun before => before.trans (List.suffix_cons first rest).isInfix
  · rintro (before | behind)
    · exact before.trans (List.prefix_append left _).isInfix
    · exact behind.trans ((List.suffix_cons point right).trans (List.suffix_append left _)).isInfix

end Text

namespace Marker

variable {scope other : Scope} {part back : Text}

/-! ### Texts without names of metadata -/

/-- What every name of metadata starts with. -/
def anchor : Text := "@apicize-"

theorem anchor_prefix_label (scope : Scope) : anchor <+: label scope := by
  rw [label, List.append_assoc]
  exact List.prefix_append _ _

theorem plain_nil : ¬ anchor <:+: [] := by decide

/-- A code point that is in no name of metadata may stand before a text. -/
theorem plain_cons {point : CodePoint} (absent : point ∉ anchor) (plain : ¬ anchor <:+: part) :
    ¬ anchor <:+: point :: part := by
  rw [← List.nil_append (point :: part), Text.infix_append_cons_iff absent]
  exact not_or.mpr ⟨plain_nil, plain⟩

/-- A code point that is in no name of metadata may stand behind a text. -/
theorem plain_concat {point : CodePoint} (absent : point ∉ anchor) (plain : ¬ anchor <:+: part) :
    ¬ anchor <:+: part ++ [point] := by
  rw [Text.infix_append_cons_iff absent]
  exact not_or.mpr ⟨plain, plain_nil⟩

/-- A name of metadata does not start in a text without one, unless it goes on behind the text. -/
theorem not_anchor_prefix (plain : ¬ anchor <:+: part) (part_ne : part ≠ [])
    (seam : ∀ point, back.head? = some point → point ∉ anchor.tail) :
    ¬ anchor <+: part ++ back := by
  intro starts
  rcases List.prefix_or_prefix_of_prefix starts
      (List.prefix_append part back) with inside | ⟨more, parts⟩
  · exact plain inside.isInfix
  · obtain ⟨first, rest, rfl⟩ := List.exists_cons_of_ne_nil part_ne
    cases more with
    | nil =>
      rw [← parts, List.append_nil] at plain
      exact plain List.infix_rfl
    | cons point more =>
      have next : point :: more <+: back := by
        rw [← parts] at starts
        exact (List.prefix_append_right_inj _).mp starts
      obtain ⟨behind, rfl⟩ := next
      refine seam point rfl ?_
      rw [← parts]
      simp

/-- **No closing marker starts in a text without names of metadata.** -/
theorem misses_closing (plain : ¬ anchor <:+: part)
    (seam : ∀ point, back.head? = some point → point ∉ anchor.tail) :
    Misses (closingLength? scope) back part := by
  refine misses_of_forall fun left right parts right_ne =>
    Option.eq_none_iff_forall_ne_some.mpr fun length found => ?_
  obtain ⟨_, behind, ⟨blanks, _, rfl⟩, same, _⟩ := closingLength?_eq_some_iff.mp found
  have plainRight : ¬ anchor <:+: right := fun inside =>
    plain (inside.trans (parts ▸ (List.suffix_append left right).isInfix))
  refine not_anchor_prefix plainRight right_ne seam ?_
  rw [same, endLabel]
  simp only [List.append_assoc]
  exact (anchor_prefix_label scope).trans (List.prefix_append _ _)

theorem mark_not_mem_of_isBlank {blanks : Text} (blank : blanks.isBlank = true) :
    .scalar '@' ∉ blanks := by
  intro member
  have := List.all_eq_true.mp blank _ member
  revert this
  decide

/-- **No opening marker starts in a text without names of metadata**, unless the name of the scope
comes behind it before any slash. -/
theorem misses_opening (plain : ¬ anchor <:+: part)
    (seam : ∀ point, back.head? = some point → point ∉ anchor.tail)
    (unnamed : ∀ skipped rest, .scalar '@' ∉ skipped → .scalar '/' ∉ skipped →
      back ≠ skipped ++ (label scope ++ rest)) :
    Misses (openingLength? scope) back part := by
  refine misses_of_forall fun left right parts right_ne =>
    Option.eq_none_iff_forall_ne_some.mpr fun length found => ?_
  obtain ⟨_, behind, ⟨blanks, blank, rfl⟩, same, _⟩ := openingLength?_eq_some_iff.mp found
  have plainRight : ¬ anchor <:+: right := fun inside =>
    plain (inside.trans (parts ▸ (List.suffix_append left right).isInfix))
  have start : ("/*" ++ blanks : Text) = .scalar '/' :: .scalar '*' :: blanks := rfl
  rw [List.append_assoc, start] at same
  rcases List.append_eq_append_iff.mp same with ⟨more, skipped, named⟩ | ⟨more, rfl, named⟩
  · -- The name stands behind the part, and what is skipped before it belongs to a comment that has
    -- just begun.
    obtain ⟨first, rest, rfl⟩ := List.exists_cons_of_ne_nil right_ne
    obtain ⟨_, skipped⟩ := List.cons.inj skipped
    have inComment : ∀ point ∈ more, point = .scalar '*' ∨ point ∈ blanks := fun point member =>
      List.mem_cons.mp (skipped ▸ List.mem_append_right rest member)
    refine unnamed more behind (fun member => ?_) (fun member => ?_) named
    · rcases inComment _ member with star | inBlanks
      · cases star
      · exact mark_not_mem_of_isBlank blank inBlanks
    · rcases inComment _ member with star | inBlanks
      · cases star
      · exact slash_not_mem_of_isBlank blank inBlanks
  · -- The name starts in the part, or right behind it.
    by_cases nothing : more = []
    · subst nothing
      exact unnamed [] behind (List.not_mem_nil) (List.not_mem_nil) named.symm
    · have plainMore : ¬ anchor <:+: more :=
        fun inside => plainRight (inside.trans (List.suffix_append _ more).isInfix)
      refine not_anchor_prefix plainMore nothing seam ?_
      rw [← named]
      exact (anchor_prefix_label scope).trans (List.prefix_append _ _)

/-- No opening marker starts in a text without names of metadata if that is the end or a slash comes
behind it. -/
theorem misses_opening_of_slash (plain : ¬ anchor <:+: part)
    (ends : ∀ point, back.head? = some point → point = .scalar '/') :
    Misses (openingLength? scope) back part := by
  have slash : .scalar '/' ∉ anchor.tail := by decide
  refine misses_opening plain (fun point head => ends point head ▸ slash)
    fun skipped rest _ noSlash same => ?_
  cases skipped with
  | nil =>
    have mark :=
      ends (.scalar '@')
        (by rw [same, List.nil_append, List.head?_append, head_label, Option.some_or])
    cases mark
  | cons point more =>
    rw [ends point (by rw [same]; rfl)] at noSlash
    exact noSlash List.mem_cons_self

/-- No opening marker starts where there is no slash. -/
theorem misses_opening_of_no_slash (noSlash : .scalar '/' ∉ part) :
    Misses (openingLength? scope) back part := by
  refine misses_of_forall fun left right parts right_ne =>
    Option.eq_none_iff_forall_ne_some.mpr fun length found => ?_
  obtain ⟨mark, behind, opening, same, _⟩ := openingLength?_eq_some_iff.mp found
  obtain ⟨rest, rfl, _⟩ := opening.exists_eq_cons
  obtain ⟨first, more, rfl⟩ := List.exists_cons_of_ne_nil right_ne
  obtain ⟨rfl, _⟩ := List.cons.inj same
  rw [parts] at noSlash
  simp at noSlash

/-! ### Names of different scopes -/

/-- The scope of the first name of metadata is the same, whatever stands before it. -/
theorem scope_eq_of_first_label {skipped before left right : Text} (noMark : .scalar '@' ∉ skipped)
    (noMarkBefore : .scalar '@' ∉ before)
    (same : skipped ++ (label scope ++ left) = before ++ (label other ++ right)) :
    scope = other := by
  have startsLabel : ∀ {one : Scope} {more rest behind : Text}, label one ++ rest = more ++ behind →
      .scalar '@' ∉ more → more = [] := by
    intro one more rest behind parts noMore
    cases more with
    | nil => rfl
    | cons point more =>
      have head := congrArg List.head? parts
      rw [List.head?_append, head_label] at head
      cases Option.some.inj head
      exact absurd List.mem_cons_self noMore
  rcases List.append_eq_append_iff.mp same with ⟨more, rfl, parts⟩ | ⟨more, rfl, parts⟩
  · obtain rfl := startsLabel parts fun member => noMarkBefore (List.mem_append_right _ member)
    exact scope_eq_of_label_append parts
  · obtain rfl := startsLabel parts fun member => noMark (List.mem_append_right _ member)
    exact (scope_eq_of_label_append parts).symm

/-- The opening marker of one scope does not open another. -/
theorem misses_opening_opening (different : scope ≠ other) :
    Misses (openingLength? scope) back (opening other) := by
  have noMark : .scalar '@' ∉ ("/* " : Text) := by decide
  obtain ⟨rest, parts, noSlash⟩ := (isOpening_opening other).exists_eq_cons
  rw [parts]
  refine ⟨Option.eq_none_iff_forall_ne_some.mpr fun length found => ?_,
    misses_opening_of_no_slash noSlash⟩
  obtain ⟨_, behind, ⟨blanks, blank, rfl⟩, same, _⟩ := openingLength?_eq_some_iff.mp found
  rw [← parts, opening, List.append_assoc, List.append_assoc _ (label scope)] at same
  refine different (scope_eq_of_first_label (fun member => ?_) noMark same.symm)
  rcases List.mem_append.mp member with inStart | inBlanks
  · revert inStart
    decide
  · exact mark_not_mem_of_isBlank blank inBlanks

end Marker

end TestOutline
