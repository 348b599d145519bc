/-
**What is left in a mask.**

A mask shows its text with spaces in it. It has no quotes and opens no comments: what could do so in
the text is blanked out, and a space puts nothing together that stood apart. So a mask is its own
mask.

* `shows_masked`: a mask shows each code point of its text, or a space in its place, and keeps every
  line end.
* `IsBare`: a text without quotes and openings of comments; `isBare_masked`, `masked_eq_of_isBare`.
* `masked_characterised`: all of it, by offsets.
-/

import TestOutline.Metadata.Mask

namespace TestOutline.Mask

variable {text rest : Text} {state : State} {point shown : CodePoint}

/-! ### Spaces in the place of a text -/

/-- A code point is shown as it is, or as a space if it ends no line. -/
def Shows (shown point : CodePoint) : Prop :=
  shown = point ∨ (shown = .scalar ' ' ∧ point ≠ Text.lineFeed)

theorem shows_blank (point : CodePoint) : Shows (blank point) point := by
  unfold blank
  split
  · exact .inl rfl
  · next other => exact .inr ⟨rfl, other⟩

theorem Shows.eq_lineFeed_iff (shows : Shows shown point) :
    shown = Text.lineFeed ↔ point = Text.lineFeed := by
  rcases shows with rfl | ⟨rfl, other⟩
  · exact Iff.rfl
  · exact iff_of_false (by decide) other

/-- **What a mask shows at an offset** is what stands there, or a space. -/
theorem shows_blankedFrom (state : State) (text : Text) (offset : Nat) :
    Option.Rel Shows (blankedFrom state text)[offset]? text[offset]? := by
  induction text generalizing state offset with
  | nil => exact .none
  | cons point rest ih =>
    cases offset with
    | zero =>
      refine .some ?_
      split
      · exact .inl rfl
      · exact shows_blank point
    | succ offset => exact ih _ offset

theorem shows_masked (text : Text) (offset : Nat) :
    Option.Rel Shows text.masked[offset]? text[offset]? :=
  shows_blankedFrom .code text offset

/-- A mask starts with a space if it does not start as its text does. -/
theorem head?_eq_of_head?_blankedFrom (starts : (blankedFrom state text).head? = some shown)
    (visible : shown ≠ .scalar ' ') : text.head? = some shown := by
  have shows := shows_blankedFrom state text 0
  rw [← List.head?_eq_getElem?, ← List.head?_eq_getElem?, starts] at shows
  cases found : text.head? with
  | none =>
    rw [found] at shows
    cases shows
  | some point =>
    rw [found] at shows
    obtain ⟨rfl | ⟨space, _⟩⟩ := shows
    · rfl
    · exact absurd space visible

/-! ### Quotes and openings of comments -/

/-- **A text without quotes and openings of comments.** -/
structure IsBare (text : Text) : Prop where
  noQuote : ∀ point ∈ text, isQuote point = false
  noLineComment : ¬ "//" <:+: text
  noBlockComment : ¬ "/*" <:+: text

/-- A place stays in code behind what is no quote and opens no comment. -/
theorem afterCode_eq_code_iff {next : Option CodePoint} : afterCode point next = .code ↔
    isQuote point = false ∧ ¬ (point = .scalar '/' ∧ next = some (.scalar '/')) ∧
      ¬ (point = .scalar '/' ∧ next = some (.scalar '*')) := by
  unfold afterCode
  split
  · next line => exact iff_of_false (by decide) fun stays => stays.2.1 line
  · next noLine =>
    split
    · next block => exact iff_of_false (by decide) fun stays => stays.2.2 block
    · next noBlock =>
      split
      · next quote =>
        exact iff_of_false (by rintro ⟨⟩) fun stays => by rw [quote] at stays; cases stays.1
      · next noQuote => exact iff_of_true rfl ⟨by simpa using noQuote, noLine, noBlock⟩

theorem isQuote_blank (point : CodePoint) : isQuote (blank point) = false := by
  unfold blank
  split
  · next feed =>
    rw [feed]
    decide
  · decide

theorem not_isQuote_of_mem (member : shown ∈ blankedFrom state text) : isQuote shown = false := by
  induction text generalizing state with
  | nil => cases member
  | cons point rest ih =>
    rcases List.mem_cons.mp member with rfl | later
    · split
      · next kept =>
        obtain ⟨rfl, stays⟩ := kept
        exact (afterCode_eq_code_iff.mp stays).1
      · exact isQuote_blank point
    · exact ih later

/-- **No comment opens in a mask.** The first mark of an opening would be left as it is, and so
would the second one. -/
theorem not_opening_infix {mark : CodePoint} (opens : mark = .scalar '/' ∨ mark = .scalar '*') :
    ¬ [.scalar '/', mark] <:+: blankedFrom state text := by
  have visible : mark ≠ .scalar ' ' := by rcases opens with rfl | rfl <;> decide
  induction text generalizing state with
  | nil => simp [blankedFrom]
  | cons point rest ih =>
    rw [blankedFrom, List.infix_cons_iff, List.cons_prefix_cons, not_or]
    refine ⟨?_, ih⟩
    rintro ⟨slash, starts⟩
    split at slash
    · next kept =>
      obtain ⟨rfl, stays⟩ := kept
      subst slash
      obtain ⟨behind, parts⟩ := starts
      have next : rest.head? = some mark :=
        head?_eq_of_head?_blankedFrom (by rw [← parts]; rfl) visible
      obtain ⟨_, noLine, noBlock⟩ := afterCode_eq_code_iff.mp stays
      rcases opens with rfl | rfl
      · exact noLine ⟨rfl, next⟩
      · exact noBlock ⟨rfl, next⟩
    · unfold blank at slash
      split at slash
      · next feed =>
        rw [feed] at slash
        cases slash
      · cases slash

theorem isBare_masked (text : Text) : IsBare text.masked where
  noQuote _ member := not_isQuote_of_mem member
  noLineComment := not_opening_infix (.inl rfl)
  noBlockComment := not_opening_infix (.inr rfl)

theorem IsBare.tail (bare : IsBare (point :: rest)) : IsBare rest where
  noQuote other member := bare.noQuote other (List.mem_cons_of_mem point member)
  noLineComment inside := bare.noLineComment (inside.trans (List.suffix_cons point rest).isInfix)
  noBlockComment inside := bare.noBlockComment (inside.trans (List.suffix_cons point rest).isInfix)

/-- **A text without quotes and openings of comments is its own mask.** -/
theorem masked_eq_of_isBare (bare : IsBare text) : text.masked = text := by
  unfold Text.masked
  induction text with
  | nil => rfl
  | cons point rest ih =>
    have opens : ∀ mark, rest.head? = some mark → [point, mark] <:+: point :: rest := by
      intro mark next
      obtain ⟨behind, rfl⟩ := List.head?_eq_some_iff.mp next
      exact (List.prefix_append [point, mark] behind).isInfix
    have stays : State.code.next point rest.head? = .code := by
      refine afterCode_eq_code_iff.mpr ⟨bare.noQuote point List.mem_cons_self, ?_, ?_⟩
      · rintro ⟨rfl, next⟩
        exact bare.noLineComment (opens _ next)
      · rintro ⟨rfl, next⟩
        exact bare.noBlockComment (opens _ next)
    simp only [blankedFrom, stays, and_self, if_true, ih bare.tail]

/-! ### The mask as a whole -/

/-- **What a mask is**: a text of the same length that has at every offset what the text has there,
or a space, and has its line ends where the text has them. No quote and no opening of a comment is
in it, so that the mask of a mask is the mask; and no other text is its own mask. -/
theorem masked_characterised (text : Text) :
    text.masked.length = text.length ∧
    (∀ offset : Nat, text.masked[offset]? = text[offset]? ∨
      text.masked[offset]? = some (.scalar ' ')) ∧
    (∀ offset : Nat, text.masked[offset]? = some Text.lineFeed ↔
      text[offset]? = some Text.lineFeed) ∧
    .scalar '\'' ∉ text.masked ∧ .scalar '"' ∉ text.masked ∧ .scalar '\x60' ∉ text.masked ∧
    ¬ "//" <:+: text.masked ∧ ¬ "/*" <:+: text.masked ∧
    text.masked.masked = text.masked ∧ (text.masked = text ↔ IsBare text) := by
  have bare := isBare_masked text
  have noQuote : ∀ quote, isQuote quote = true → quote ∉ text.masked := by
    intro quote isQuote member
    rw [bare.noQuote quote member] at isQuote
    cases isQuote
  refine ⟨text.length_masked, fun offset => ?_, fun offset => ?_, noQuote _ (by decide),
    noQuote _ (by decide), noQuote _ (by decide), bare.noLineComment, bare.noBlockComment,
    masked_eq_of_isBare bare, fun same => same ▸ bare, masked_eq_of_isBare⟩
  · have shows := shows_masked text offset
    generalize text.masked[offset]? = shown, text[offset]? = stands at shows ⊢
    cases shows with
    | none => exact .inl rfl
    | some shows => exact shows.imp (congrArg some) fun space => congrArg some space.1
  · have shows := shows_masked text offset
    generalize text.masked[offset]? = shown, text[offset]? = stands at shows ⊢
    cases shows with
    | none => exact iff_of_false nofun nofun
    | some shows => rw [Option.some.injEq, Option.some.injEq, shows.eq_lineFeed_iff]

end TestOutline.Mask
