/-
**Text as a list of code points.**

A text may hold halves of surrogate pairs that stand alone, which no `Char` can hold; so a code
point is either a character or such a half.

* `CodePoint.ofNat?_value` — a number that names a code point is the value of that code point.
* `Text.chars?_ofChars` — a text made of characters gives them back.
-/

namespace TestOutline

/-- A code point: a Unicode scalar value, or one half of a surrogate pair that stands alone. -/
inductive CodePoint where
  | scalar (char : Char)
  | surrogate (index : Fin 2048)
  deriving DecidableEq, Inhabited, Repr

namespace CodePoint

def value : CodePoint → Nat
  | .scalar char => char.toNat
  | .surrogate index => 0xD800 + index.val

/-- The code point of a number, if the number is below `0x110000`. -/
def ofNat? (number : Nat) : Option CodePoint :=
  if number.isValidChar then
    some (.scalar (Char.ofNat number))
  else if half : number - 0xD800 < 2048 ∧ 0xD800 ≤ number then
    some (.surrogate ⟨number - 0xD800, half.1⟩)
  else
    none

instance : Coe Char CodePoint := ⟨.scalar⟩

/-- Whether the code point is half of a surrogate pair. -/
def isSurrogate : CodePoint → Bool
  | .scalar _ => false
  | .surrogate _ => true

/-- The character, if the code point is one. -/
def char? : CodePoint → Option Char
  | .scalar char => some char
  | .surrogate _ => none

/-- Whether the code point is a character with the property. -/
def satisfies (test : Char → Bool) : CodePoint → Bool
  | .scalar char => test char
  | .surrogate _ => false

@[simp] theorem value_scalar (char : Char) : value (.scalar char) = char.toNat := rfl

@[simp] theorem isSurrogate_scalar (char : Char) : isSurrogate (.scalar char) = false := rfl

@[simp] theorem char?_scalar (char : Char) : char? (.scalar char) = some char := rfl

/-- A number that names a code point is the value of that code point. -/
theorem ofNat?_value {number : Nat} {point : CodePoint} (found : ofNat? number = some point) :
    point.value = number := by
  unfold ofNat? at found
  split at found
  · next valid =>
    cases found
    unfold value Char.ofNat
    rw [dif_pos valid]
    rfl
  · split at found
    · next half =>
      cases found
      simp only [value]
      omega
    · cases found

end CodePoint

/-- A text: a list of code points. -/
abbrev Text := List CodePoint

namespace Text

def ofChars (chars : List Char) : Text := chars.map .scalar

def ofString (string : String) : Text := ofChars string.toList

instance : Coe String Text := ⟨ofString⟩

/-- The decimal digits of a number. -/
def ofNat (number : Nat) : Text := ofChars (Nat.toDigits 10 number)

/-- The decimal digits of an integer, with a minus sign in front of a negative one. -/
def ofInt : Int → Text
  | .ofNat number => ofNat number
  | .negSucc number => .scalar '-' :: ofNat (number + 1)

/-- The most digits with which an integer is written or read. -/
def mostDigits : Nat := 4300

/-- Whether an integer has no more digits than can be written. -/
def canWrite (number : Int) : Bool := (ofNat number.natAbs).length ≤ mostDigits

/-- The characters of a text without surrogates. -/
def chars? (text : Text) : Option (List Char) := text.mapM CodePoint.char?

/-- The code points from `start` up to `stop`. -/
def slice (text : Text) (start stop : Nat) : Text := (text.drop start).take (stop - start)

theorem slice_isInfix (text : Text) (start stop : Nat) : text.slice start stop <:+: text :=
  (List.take_prefix _ _).isInfix.trans (List.drop_suffix _ _).isInfix

/-- What lies between two places that enclose others holds what lies between those. -/
theorem slice_isInfix_slice (text : Text) {start stop first last : Nat} (late : start ≤ first)
    (early : last ≤ stop) :
    text.slice first last <:+: text.slice start stop := by
  have within : (text.slice start stop).slice (first - start) (last - start) =
      text.slice first last := by
    unfold slice
    rw [List.drop_take, List.drop_drop, List.take_take, Nat.add_sub_cancel' late]
    congr 1
    omega
  rw [← within]
  exact slice_isInfix _ _ _

/-- The place counted from the end when it is negative, and kept within the text. -/
def clampPlace (length : Nat) (place : Int) : Nat :=
  if place < 0 then (length + place).toNat else min place.toNat length

/-- The code points between two places, each counted from the end when it is negative. -/
def sliceSigned (text : Text) (start stop : Int) : Text :=
  text.slice (clampPlace text.length start) (clampPlace text.length stop)

/-- Whether `part` occurs in the text. -/
def contains (text part : Text) : Bool :=
  match text with
  | [] => part.isEmpty
  | _ :: rest => part.isPrefixOf text || contains rest part

/-- The texts joined with a separator between neighbours. -/
def join (separator : Text) (texts : List Text) : Text := List.intercalate separator texts

@[simp] theorem ofChars_nil : ofChars [] = [] := rfl

@[simp] theorem ofChars_cons (char : Char) (chars : List Char) :
    ofChars (char :: chars) = .scalar char :: ofChars chars := rfl

@[simp] theorem length_ofChars (chars : List Char) : (ofChars chars).length = chars.length := by
  simp [ofChars]

/-- A text made of characters gives them back. -/
theorem chars?_ofChars (chars : List Char) : chars? (ofChars chars) = some chars := by
  induction chars with
  | nil => rfl
  | cons char chars ih =>
    simp only [chars?, ofChars_cons, List.mapM_cons, CodePoint.char?_scalar] at ih ⊢
    simp [ih]

end Text

end TestOutline
