/-
**Integers in texts.**

What a reader of integers takes from a text is its own, within two bounds. A text that is spelled as
documented is taken for the integer that it spells: blanks may stand around its digits, single
underscores between them, and a minus sign in front. A text that is taken at all is laid out as an
integer, so that its digits and its sign say which one it is.

* `Spells`: a text spells an integer as it is documented.
* `Stands`, `Stands.unique`: a text that is laid out as an integer stands for one integer only.
* `Reading.ReadsIntegers`: what is known of a reader of integers.
* `Reading.readsIntegers_integerOfText`: so much holds of `Reading.integerOfText`.
-/

import Mathlib.Data.List.TakeWhile
import TestOutline.Record.Scalar

namespace TestOutline

namespace IntegerText

/-! ### Digits -/

/-- A digit is one of ten characters. -/
theorem satisfies_isDigit_iff {point : CodePoint} :
    point.satisfies Char.isDigit = true ↔ ∃ digit < 10, point = .scalar (Nat.digitChar digit) := by
  constructor
  · intro isDigit
    cases point with
    | surrogate index => cases isDigit
    | scalar char =>
      obtain ⟨low, high⟩ := Char.isDigit_iff_toNat.mp isDigit
      have zero : '0'.toNat = 48 := rfl
      have nine : '9'.toNat = 57 := rfl
      refine ⟨char.toNat - 48, by omega, congrArg _ (Char.toNat_inj.mp ?_)⟩
      rw [Nat.toNat_digitChar_of_lt_ten (by omega)]
      omega
  · rintro ⟨digit, small, rfl⟩
    show (Nat.digitChar digit).isDigit = true
    rw [Nat.isDigit_digitChar, decide_eq_true small]

theorem ne_of_isDigit {point : CodePoint} {char : Char}
    (digit : point.satisfies Char.isDigit = true) (other : char.isDigit = false) :
    point ≠ .scalar char := by
  rintro rfl
  exact Bool.false_ne_true (other.symm.trans digit)

theorem value_digitChar {digit : Nat} (small : digit < 10) :
    (CodePoint.scalar (Nat.digitChar digit)).value - 48 = digit := by
  rw [CodePoint.value_scalar, Nat.toNat_digitChar_of_lt_ten small]
  omega

theorem ofDigits_concat (digits : Text) (last : CodePoint) :
    ofDigits (digits ++ [last]) = ofDigits digits * 10 + (last.value - 48) := by
  rw [ofDigits, List.foldl_append]
  rfl

theorem ofNat_of_lt {number : Nat} (small : number < 10) :
    Text.ofNat number = [.scalar (Nat.digitChar number)] := by
  rw [Text.ofNat, Nat.toDigits_of_lt_base small]
  rfl

theorem ofNat_of_le {number : Nat} (large : 10 ≤ number) :
    Text.ofNat number = Text.ofNat (number / 10) ++ [.scalar (Nat.digitChar (number % 10))] := by
  rw [Text.ofNat, Nat.toDigits_of_base_le (by omega) large, Text.ofNat, Text.ofChars, Text.ofChars,
    List.map_append]
  rfl

/-- The decimal digits of a number stand for it. -/
theorem ofDigits_ofNat (number : Nat) : ofDigits (Text.ofNat number) = number := by
  induction number using Nat.strongRecOn with
  | ind number ih =>
    rcases Nat.lt_or_ge number 10 with small | large
    · rw [ofNat_of_lt small]
      show 0 * 10 + _ = number
      rw [value_digitChar small, Nat.zero_mul, Nat.zero_add]
    · rw [ofNat_of_le large, ofDigits_concat, ih _ (by omega),
        value_digitChar (Nat.mod_lt _ (by omega))]
      omega

theorem digits_ofNat {number : Nat} {point : CodePoint} (member : point ∈ Text.ofNat number) :
    point.satisfies Char.isDigit = true := by
  obtain ⟨char, digit, rfl⟩ := List.mem_map.mp member
  exact Nat.isDigit_of_mem_toDigits (by omega) (Nat.le_refl 10) digit

/-! ### Underscores -/

/-- **Code points with underscores** between some of them, one in a place. -/
inductive Grouped : Text → Text → Prop where
  | last (point : CodePoint) : Grouped [point] [point]
  | next (point : CodePoint) {points text : Text} :
      Grouped points text → Grouped (point :: points) (point :: text)
  | gap (point : CodePoint) {points text : Text} :
      Grouped points text → Grouped (point :: points) (point :: .scalar '_' :: text)

namespace Grouped

variable {points text : Text} {point : CodePoint}

theorem head?_eq (grouped : Grouped points text) : text.head? = points.head? := by
  cases grouped <;> rfl

theorem ne_nil (grouped : Grouped points text) : text ≠ [] := by
  cases grouped <;> exact List.cons_ne_nil _ _

theorem mem (grouped : Grouped points text) (member : point ∈ text) :
    point = .scalar '_' ∨ point ∈ points := by
  induction grouped with
  | last other => exact .inr member
  | next other rest ih =>
    rcases List.mem_cons.mp member with rfl | member
    · exact .inr List.mem_cons_self
    · exact (ih member).imp_right (List.mem_cons_of_mem other)
  | gap other rest ih =>
    rcases List.mem_cons.mp member with rfl | member
    · exact .inr List.mem_cons_self
    · rcases List.mem_cons.mp member with rfl | member
      · exact .inl rfl
      · exact (ih member).imp_right (List.mem_cons_of_mem other)

end Grouped

/-- Digits are taken out of a text with underscores between them. -/
theorem Grouped.ungrouped?_eq {digits text : Text} (grouped : Grouped digits text)
    (allDigits : ∀ point ∈ digits, point.satisfies Char.isDigit = true) :
    ungrouped? text = some digits := by
  induction grouped with
  | last point => rw [ungrouped?, if_pos (allDigits point List.mem_cons_self)]
  | @next point points text rest ih =>
    obtain ⟨digit, others⟩ := List.forall_mem_cons.mp allDigits
    have first := rest.head?_eq
    cases text with
    | nil => exact absurd rfl rest.ne_nil
    | cons second text =>
      have noGap : second ≠ .scalar '_' :=
        ne_of_isDigit (others _ (List.mem_of_mem_head? first.symm)) rfl
      rw [ungrouped?, if_pos digit, if_neg noGap, ih others]
      rfl
  | gap point rest ih =>
    obtain ⟨digit, others⟩ := List.forall_mem_cons.mp allDigits
    rw [ungrouped?, if_pos digit, if_pos rfl, ih others]
    rfl

/-! ### Texts that stand for integers -/

/-- **Digits with underscores among them**, which stand for a number. -/
structure IsBody (text : Text) (size : Nat) : Prop where
  points : ∀ point ∈ text, point.satisfies Char.isDigit = true ∨ point = .scalar '_'
  nonempty : ∃ point ∈ text, point.satisfies Char.isDigit = true
  value : ofDigits (text.filter (·.satisfies Char.isDigit)) = size

/-- A point with nothing but zeros behind it, or nothing at all. -/
def IsFraction (text : Text) : Prop :=
  text = [] ∨ ∃ zeros, text = .scalar '.' :: zeros ∧ ∀ point ∈ zeros, point = .scalar '0'

/-- A sign, or nothing; whether it makes an integer negative. -/
inductive IsSign : Text → Bool → Prop where
  | none : IsSign [] false
  | plus : IsSign [.scalar '+'] false
  | minus : IsSign [.scalar '-'] true

/-- **A text stands for an integer**: but for blanks around it, it has a sign, such digits and such
a fraction. -/
inductive Stands : Text → Int → Prop where
  | intro {before sign body fraction after : Text} {negative : Bool} {size : Nat} :
      (∀ point ∈ before, isSpace point = true) → (∀ point ∈ after, isSpace point = true) →
      IsSign sign negative → IsBody body size → IsFraction fraction →
      Stands (before ++ (sign ++ (body ++ (fraction ++ after)))) (if negative then -size else size)

/-! ### One integer for a text -/

theorem isSpace_of_isDigit {point : CodePoint} (digit : point.satisfies Char.isDigit = true) :
    isSpace point = false := by
  have none : ∀ digit < 10, isSpace (.scalar (Nat.digitChar digit)) = false := by decide
  obtain ⟨number, small, rfl⟩ := satisfies_isDigit_iff.mp digit
  exact none number small

/-- Blanks are no digits. -/
theorem filter_isDigit_of_isSpace {blanks : Text}
    (allBlank : ∀ point ∈ blanks, isSpace point = true) :
    blanks.filter (·.satisfies Char.isDigit) = [] := by
  rw [List.filter_eq_nil_iff]
  intro point member digit
  exact Bool.false_ne_true ((isSpace_of_isDigit digit).symm.trans (allBlank point member))

theorem notMem_of_isSpace {blanks : Text} (allBlank : ∀ point ∈ blanks, isSpace point = true)
    {point : CodePoint} (noSpace : isSpace point = false) : point ∉ blanks :=
  fun member => Bool.false_ne_true (noSpace.symm.trans (allBlank point member))

/-- The digits of a text in front of its point. -/
def wholeDigits (text : Text) : Text :=
  (text.takeWhile (· != .scalar '.')).filter (·.satisfies Char.isDigit)

/-- The integer that the digits and the sign of a text say. -/
def saidBy (text : Text) : Int :=
  if .scalar '-' ∈ text then -(ofDigits (wholeDigits text) : Int) else ofDigits (wholeDigits text)

theorem wholeDigits_append {front : Text} (plain : .scalar '.' ∉ front) (rest : Text) :
    wholeDigits (front ++ rest) = front.filter (·.satisfies Char.isDigit) ++ wholeDigits rest := by
  have inside : ∀ point ∈ front, (point != CodePoint.scalar '.') = true :=
    fun point member => bne_iff_ne.mpr fun same => plain (same ▸ member)
  rw [wholeDigits, List.takeWhile_append_of_pos inside, List.filter_append, wholeDigits]

/-- There are no digits in blanks, or behind a point. -/
theorem wholeDigits_fraction {fraction after : Text} (zeros : IsFraction fraction)
    (back : ∀ point ∈ after, isSpace point = true) : wholeDigits (fraction ++ after) = [] := by
  obtain rfl | ⟨zeros, rfl, -⟩ := zeros
  · exact filter_isDigit_of_isSpace fun point member =>
      back point ((List.takeWhile_prefix _).subset member)
  · rfl

theorem IsBody.notMem {text : Text} {size : Nat} (body : IsBody text size) {point : CodePoint}
    (noDigit : point.satisfies Char.isDigit = false) (other : point ≠ .scalar '_') :
    point ∉ text := by
  intro member
  rcases body.points point member with digit | same
  · exact Bool.false_ne_true (noDigit.symm.trans digit)
  · exact other same

theorem IsFraction.notMem {fraction : Text} (zeros : IsFraction fraction) :
    .scalar '-' ∉ fraction := by
  obtain rfl | ⟨zeros, rfl, allZero⟩ := zeros
  · exact List.not_mem_nil
  · intro member
    rcases List.mem_cons.mp member with same | member
    · cases same
    · cases allZero _ member

theorem Stands.eq_saidBy {text : Text} {number : Int} (stands : Stands text number) :
    number = saidBy text := by
  cases stands with
  | @intro before sign body fraction after negative size front back isSign isBody zeros =>
    have digits : wholeDigits (before ++ (sign ++ (body ++ (fraction ++ after)))) =
        body.filter (·.satisfies Char.isDigit) := by
      have noPoint : .scalar '.' ∉ sign := by cases isSign <;> decide
      have noDigit : sign.filter (·.satisfies Char.isDigit) = [] := by cases isSign <;> rfl
      rw [wholeDigits_append (notMem_of_isSpace front rfl), wholeDigits_append noPoint,
        wholeDigits_append (isBody.notMem rfl (by decide)), wholeDigits_fraction zeros back,
        filter_isDigit_of_isSpace front, noDigit, List.nil_append, List.nil_append, List.append_nil]
    have minus : .scalar '-' ∈ before ++ (sign ++ (body ++ (fraction ++ after))) ↔
        negative = true := by
      have inSign : .scalar '-' ∈ sign ↔ negative = true := by cases isSign <;> decide
      have inFront : .scalar '-' ∉ before := notMem_of_isSpace front rfl
      have inBack : .scalar '-' ∉ after := notMem_of_isSpace back rfl
      have inBody : .scalar '-' ∉ body := isBody.notMem rfl (by decide)
      simp only [List.mem_append, inSign, inFront, inBack, inBody, zeros.notMem, or_false, false_or]
    rw [saidBy, digits, isBody.value]
    simp only [minus]

/-- A text stands for one integer at most. -/
theorem Stands.unique {text : Text} {first second : Int} (stands : Stands text first)
    (other : Stands text second) :
    first = second := stands.eq_saidBy.trans other.eq_saidBy.symm

/-! ### Documented spellings -/

/-- **An integer as it is documented to be spelled**: its digits with single underscores between
them, behind a minus sign if it is negative. -/
inductive Spelling : Text → Int → Prop where
  | plain {size : Nat} {grouped : Text} : Grouped (Text.ofNat size) grouped → Spelling grouped size
  | negative {size : Nat} {grouped : Text} :
      Grouped (Text.ofNat size) grouped → Spelling (.scalar '-' :: grouped) (-size)

/-- **A text spells an integer**: but for blanks around it, it is spelled so. -/
def Spells (text : Text) (number : Int) : Prop :=
  ∃ before spelling after, (∀ point ∈ before, isSpace point = true) ∧
    (∀ point ∈ after, isSpace point = true) ∧
    text = before ++ (spelling ++ after) ∧ Spelling spelling number

/-! ### Blanks -/

/-- What is dropped from the ends of a text is blank. -/
theorem exists_blanks (text : Text) :
    ∃ before after, (∀ point ∈ before, isSpace point = true) ∧
      (∀ point ∈ after, isSpace point = true) ∧
      text = before ++ (trim text ++ after) := by
  have front := List.takeWhile_append_dropWhile (p := isSpace) (l := text)
  have back :=
    List.takeWhile_append_dropWhile (p := isSpace) (l := (text.dropWhile isSpace).reverse)
  refine ⟨text.takeWhile isSpace, ((text.dropWhile isSpace).reverse.takeWhile isSpace).reverse,
    fun point member => List.mem_takeWhile_imp member,
    fun point member => List.mem_takeWhile_imp (List.mem_reverse.mp member), ?_⟩
  rw [trim, ← List.reverse_append, back, List.reverse_reverse, front]

theorem dropWhile_isSpace_append {text : Text} (inside : ∀ point ∈ text, isSpace point = false)
    (nonempty : text ≠ []) (after : Text) : (text ++ after).dropWhile isSpace = text ++ after := by
  obtain ⟨first, rest, rfl⟩ := List.exists_cons_of_ne_nil nonempty
  rw [List.cons_append,
    List.dropWhile_cons_of_neg (Bool.not_eq_true _ ▸ inside first List.mem_cons_self)]

/-- Blanks around a text are dropped from it. -/
theorem trim_append {before text after : Text} (front : ∀ point ∈ before, isSpace point = true)
    (back : ∀ point ∈ after, isSpace point = true) (inside : ∀ point ∈ text, isSpace point = false)
    (nonempty : text ≠ []) : trim (before ++ (text ++ after)) = text := by
  have reversed := dropWhile_isSpace_append
    (fun point member => inside point (List.mem_reverse.mp member))
    (List.reverse_ne_nil_iff.mpr nonempty) []
  rw [List.append_nil] at reversed
  rw [trim, List.dropWhile_append_of_pos front, dropWhile_isSpace_append inside nonempty,
    List.reverse_append, List.dropWhile_append_of_pos fun point member =>
      back point (List.mem_reverse.mp member), reversed, List.reverse_reverse]

/-! ### Reading a text -/

/-- What is left of a text without its underscores are its digits. -/
theorem isBody_of_ungrouped? {text digits : Text} (found : ungrouped? text = some digits) :
    IsBody text (ofDigits digits) := by
  suffices parts : (∀ point ∈ text, point.satisfies Char.isDigit = true ∨ point = .scalar '_') ∧
      (∃ point ∈ text, point.satisfies Char.isDigit = true) ∧
      text.filter (·.satisfies Char.isDigit) = digits from
    ⟨parts.1, parts.2.1, congrArg ofDigits parts.2.2⟩
  fun_induction ungrouped? text generalizing digits with
  | case1 => cases found
  | case2 point digit =>
    cases found
    exact ⟨List.forall_mem_singleton.mpr (.inl digit), ⟨point, List.mem_cons_self, digit⟩,
      List.filter_cons_of_pos digit⟩
  | case3 => cases found
  | case4 point second rest digit behindGap behind =>
    obtain ⟨others, later, rfl⟩ := Option.map_eq_some_iff.mp found
    by_cases isGap : second = .scalar '_'
    · subst isGap
      rw [if_pos rfl] at later
      obtain ⟨points, -, same⟩ := behindGap later
      refine ⟨List.forall_mem_cons.mpr ⟨.inl digit, List.forall_mem_cons.mpr ⟨.inr rfl, points⟩⟩,
        ⟨point, List.mem_cons_self, digit⟩, ?_⟩
      rw [List.filter_cons_of_pos digit, List.filter_cons_of_neg (by decide), same]
    · rw [if_neg isGap] at later
      obtain ⟨points, -, same⟩ := behind later
      refine ⟨List.forall_mem_cons.mpr ⟨.inl digit, points⟩, ⟨point, List.mem_cons_self, digit⟩, ?_⟩
      rw [List.filter_cons_of_pos digit, same]
  | case5 => cases found

theorem IsFraction.of_isFraction {text : Text} (isFraction : isFraction text = true) :
    IsFraction text := by
  cases text with
  | nil => exact .inl rfl
  | cons point zeros =>
    simp only [IntegerText.isFraction, Bool.and_eq_true, beq_iff_eq, List.all_eq_true] at isFraction
    obtain ⟨⟨rfl, -⟩, allZero⟩ := isFraction
    exact .inr ⟨zeros, rfl, allZero⟩

/-- A text without a sign that is taken for a number is laid out as one. -/
theorem exists_body {text : Text} {size : Nat} (found : size? text = some size) :
    ∃ body fraction, text = body ++ fraction ∧ IsBody body size ∧ IsFraction fraction := by
  unfold size? at found
  extract_lets whole at found
  split at found
  · next zeros =>
    obtain ⟨digits, ungrouped, rfl⟩ := Option.map_eq_some_iff.mp found
    have parts : whole ++ text.drop whole.length = text :=
      List.prefix_iff_eq_append.mp (List.takeWhile_prefix _)
    exact ⟨whole, text.drop whole.length, parts.symm, isBody_of_ungrouped? ungrouped,
      .of_isFraction zeros⟩
  · cases found

/-- **A text that is taken for an integer stands for it.** -/
theorem stands_of_signed? {text : Text} {number : Int} (found : signed? (trim text) = some number) :
    Stands text number := by
  obtain ⟨before, after, front, back, parts⟩ := exists_blanks text
  -- What is left of the text without its sign is a body and a fraction.
  have laid : ∀ {sign rest : Text} {negative : Bool} {size : Nat}, trim text = sign ++ rest →
      IsSign sign negative → size? rest = some size →
      Stands text (if negative then -size else size) := by
    intro sign rest negative size same isSign found
    obtain ⟨body, fraction, rfl, isBody, zeros⟩ := exists_body found
    rw [same] at parts
    rw [parts, List.append_assoc, List.append_assoc]
    exact .intro front back isSign isBody zeros
  unfold signed? at found
  split at found
  · next rest same =>
    obtain ⟨size, sized, rfl⟩ := Option.map_eq_some_iff.mp found
    exact laid same .minus sized
  · next rest same =>
    obtain ⟨size, sized, rfl⟩ := Option.map_eq_some_iff.mp found
    exact laid same .plus sized
  · obtain ⟨size, sized, rfl⟩ := Option.map_eq_some_iff.mp found
    exact laid rfl .none sized

theorem size?_of_grouped {size : Nat} {grouped : Text}
    (layout : Grouped (Text.ofNat size) grouped) :
    size? grouped = some size := by
  have whole : grouped.takeWhile (· != CodePoint.scalar '.') = grouped := by
    refine List.takeWhile_eq_self_iff.mpr fun point member => bne_iff_ne.mpr ?_
    rcases layout.mem member with rfl | digit
    · decide
    · exact ne_of_isDigit (digits_ofNat digit) rfl
  have noFraction : isFraction [] = true := rfl
  simp only [size?, whole, List.drop_length, noFraction, if_true]
  rw [layout.ungrouped?_eq fun _ => digits_ofNat, Option.map_some, ofDigits_ofNat]

theorem Grouped.isSpace_eq {size : Nat} {grouped : Text}
    (layout : Grouped (Text.ofNat size) grouped) {point : CodePoint} (member : point ∈ grouped) :
    isSpace point = false := by
  rcases layout.mem member with rfl | digit
  · rfl
  · exact isSpace_of_isDigit (digits_ofNat digit)

/-- **A text is taken for the integer that it spells.** -/
theorem signed?_of_spells {text : Text} {number : Int} (spells : Spells text number) :
    signed? (trim text) = some number := by
  obtain ⟨before, spelling, after, front, back, rfl, spelled⟩ := spells
  cases spelled with
  | @plain size _ layout =>
    rw [trim_append front back (fun _ member => layout.isSpace_eq member) layout.ne_nil]
    have noSign : ∀ {char : Char} {rest : Text}, char.isDigit = false →
        spelling ≠ .scalar char :: rest := by
      rintro char rest noDigit rfl
      have first := layout.head?_eq
      exact ne_of_isDigit (digits_ofNat (List.mem_of_mem_head? first.symm)) noDigit rfl
    unfold signed?
    split
    · exact absurd rfl (noSign rfl)
    · exact absurd rfl (noSign rfl)
    · rw [size?_of_grouped layout]
      rfl
  | @negative size grouped layout =>
    have inside : ∀ point ∈ .scalar '-' :: grouped, isSpace point = false :=
      List.forall_mem_cons.mpr ⟨rfl, fun _ member => layout.isSpace_eq member⟩
    rw [trim_append front back inside (List.cons_ne_nil _ _)]
    show (size? grouped).map _ = _
    rw [size?_of_grouped layout]
    rfl

end IntegerText

namespace Reading

/-- **What is known of a reader of integers**: it takes a text as it is documented to be spelled,
unless that is too long, and what it takes stands for the integer. -/
structure ReadsIntegers (ofText : Text → Reading Int) : Prop where
  reads : ∀ {text number}, IntegerText.Spells text number →
    (Text.ofInt number).length ≤ longestInteger →
    ofText text = .ok number
  stands : ∀ {text number}, ofText text = .ok number → IntegerText.Stands text number

theorem readsIntegers_integerOfText : ReadsIntegers integerOfText where
  reads spells short := by
    rw [integerOfText, IntegerText.signed?_of_spells spells]
    exact if_neg (Nat.not_lt_of_le short)
  stands read := by
    unfold integerOfText at read
    split at read
    · cases read
    · next number found =>
      split at read
      · cases read
      · cases read
        exact IntegerText.stands_of_signed? found

end Reading

end TestOutline
