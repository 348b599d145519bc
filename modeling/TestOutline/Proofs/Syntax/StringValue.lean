/-
**What a string literal stands for.**

A literal is told by a grammar of its own. Each part of it, be it a character, an escape sequence or
a line end behind a backslash, stands for units of UTF-16 whatever its neighbours are, and the
literal stands for those of its parts in order. Cooking knows no parts: it takes the first escape
sequence that it can read behind each backslash.

* `Part`, `Literal`: the grammar; `Part.units`, `Literal.units`: what is written in it stands for.
* `read?_plain`, `readFixed?_points`, `readBraced?_points`: what is read behind a backslash.
* `cooked_part`: each part is cooked by itself.
* `stringValue_characterised`: a literal is cooked to what it stands for, unless a carriage return
  alone ends a line.
-/

import Mathlib.Algebra.Group.Nat.Defs
import Mathlib.Data.List.Basic
import Mathlib.Data.List.Induction
import TestOutline.Outline.Candidate
import TestOutline.Proofs.Syntax.StringLiteral

namespace TestOutline

/-- The units of UTF-16 of a number that names a code point. -/
def utf16 (number : Nat) : List Nat :=
  if number < 0x10000 then [number]
  else [0xD800 + (number - 0x10000) / 0x400, 0xDC00 + (number - 0x10000) % 0x400]

/-- A text in UTF-16. Half of a surrogate pair that stands alone is a unit as it is. -/
def Text.units (text : Text) : List Nat := text.flatMap fun point => utf16 point.value

theorem Text.units_append (left right : Text) : units (left ++ right) = left.units ++ right.units :=
  List.flatMap_append

@[simp] theorem Text.units_singleton (point : CodePoint) : units [point] = utf16 point.value := by
  rw [units, List.flatMap_singleton]

namespace StringLiteral

/-! ### Hexadecimal digits -/

/-- A hexadecimal digit, by its value and its case. -/
structure HexDigit where
  value : Fin 16
  isUpper : Bool
  deriving DecidableEq, Repr

namespace HexDigit

def char (digit : HexDigit) : Char :=
  if digit.isUpper then (Nat.digitChar digit.value).toUpper else Nat.digitChar digit.value

def point (digit : HexDigit) : CodePoint := .scalar digit.char

/-- The number that digits spell. -/
def number (digits : List HexDigit) : Nat :=
  digits.foldl (fun number digit => 16 * number + digit.value) 0

theorem hexValue?_point (digit : HexDigit) : digit.point.hexValue? = some digit.value.val := by
  obtain ⟨value, isUpper⟩ := digit
  revert value isUpper
  decide

theorem isHexDigit_point (digit : HexDigit) : digit.point.isHexDigit = true := by
  rw [CodePoint.isHexDigit, hexValue?_point, Option.isSome_some]

theorem point_ne_brace (digit : HexDigit) : digit.point ≠ .scalar '\x7b' := by
  intro same
  have isDigit := digit.isHexDigit_point
  rw [same] at isDigit
  revert isDigit
  decide

/-- **Digits are read as the number that they spell.** -/
theorem hexNumber?_points (digits : List HexDigit) :
    Text.hexNumber? (digits.map point) = some (number digits) := by
  have from_start : ∀ start : Nat, (digits.map point).foldlM
      (fun number digit => digit.hexValue?.map (number * 16 + ·)) start =
        some (digits.foldl (fun number digit => 16 * number + digit.value.val) start) := by
    induction digits with
    | nil => exact fun start => rfl
    | cons digit rest ih =>
      intro start
      rw [List.map_cons, List.foldlM_cons, hexValue?_point, Option.map_some, Option.bind_eq_bind,
        Option.bind_some, ih, Nat.mul_comm start, List.foldl_cons]
  exact from_start 0

theorem number_lt (digits : List HexDigit) : number digits < 16 ^ digits.length := by
  induction digits using List.reverseRecOn with
  | nil => exact Nat.one_pos
  | append_singleton digits digit ih =>
    have below := digit.value.isLt
    rw [number, List.foldl_append, ← number, List.foldl_cons, List.foldl_nil, List.length_append,
      List.length_singleton, Nat.pow_succ]
    omega

end HexDigit

/-! ### The grammar of literals -/

/-- A line end behind a backslash: the literal goes on in the next line. -/
inductive LineEnd where
  | lineFeed
  | carriageReturn
  | both
  | lineSeparator
  | paragraphSeparator
  deriving DecidableEq, Repr

def LineEnd.written : LineEnd → Text
  | .lineFeed => "\n"
  | .carriageReturn => "\r"
  | .both => "\r\n"
  | .lineSeparator => "\u2028"
  | .paragraphSeparator => "\u2029"

/-- **A part of a literal**, of which it is told how it is spelled. -/
inductive Part where
  /-- A code point that stands for itself. -/
  | bare (point : CodePoint)
  /-- A code point behind a backslash. -/
  | escaped (point : CodePoint)
  | zero
  | byte (high low : HexDigit)
  | unit (first second third fourth : HexDigit)
  /-- The number of a code point in braces. -/
  | braced (digits : List HexDigit)
  | continued (lineEnd : LineEnd)
  deriving DecidableEq, Repr

namespace Part

/-- A part as it is written. -/
def written : Part → Text
  | .bare point => [point]
  | .escaped point => [.scalar '\\', point]
  | .zero => "\\0"
  | .byte high low => .scalar '\\' :: .scalar 'x' :: [high, low].map HexDigit.point
  | .unit first second third fourth =>
    .scalar '\\' :: .scalar 'u' :: [first, second, third, fourth].map HexDigit.point
  | .braced digits =>
    .scalar '\\' :: .scalar 'u' :: .scalar '\x7b' :: (digits.map HexDigit.point ++ [.scalar '\x7d'])
  | .continued lineEnd => .scalar '\\' :: lineEnd.written

/-- What a code point stands for behind a backslash: some letters name a control character, all else
stands for itself. -/
def escapedUnits : CodePoint → List Nat
  | .scalar 'b' => [0x08]
  | .scalar 't' => [0x09]
  | .scalar 'n' => [0x0A]
  | .scalar 'v' => [0x0B]
  | .scalar 'f' => [0x0C]
  | .scalar 'r' => [0x0D]
  | point => utf16 point.value

/-- **What a part stands for.** A line end behind a backslash stands for nothing. -/
def units : Part → List Nat
  | .bare point => utf16 point.value
  | .escaped point => escapedUnits point
  | .zero => [0]
  | .byte high low => [HexDigit.number [high, low]]
  | .unit first second third fourth => [HexDigit.number [first, second, third, fourth]]
  | .braced digits => utf16 (HexDigit.number digits)
  | .continued _ => []

/-- What has a meaning of its own behind a backslash: line ends, the marks of numbers, and octal
digits, with which older literals spelled numbers. -/
def reserved : Text := "xu\n\u2028\u2029" ++ "\r01234567"

/-- **A part may stand in a literal** between two quotes. -/
def Allowed (quote : CodePoint) : Part → Prop
  | .bare point => point ≠ quote ∧ point ≠ .scalar '\\' ∧ point ≠ Text.lineFeed ∧
      point ≠ .scalar '\r'
  | .escaped point => point ∉ reserved
  | .braced digits => digits ≠ [] ∧ HexDigit.number digits < 0x110000
  | _ => True

instance (quote : CodePoint) : (part : Part) → Decidable (part.Allowed quote)
  | .bare _ => inferInstanceAs (Decidable (_ ∧ _))
  | .escaped point => inferInstanceAs (Decidable (point ∉ reserved))
  | .braced _ => inferInstanceAs (Decidable (_ ∧ _))
  | .zero | .byte .. | .unit .. | .continued _ => inferInstanceAs (Decidable True)

/-- Whether a part starts with a decimal digit. -/
def startsWithDigit : Part → Bool
  | .bare point => point.satisfies Char.isDigit
  | _ => false

/-- What cooking makes of a part: what it stands for, but it keeps a carriage return that ends a
line alone. -/
def cookedUnits (part : Part) : List Nat :=
  if part = .continued .carriageReturn then [0x0D] else part.units

end Part

/-- **A string literal**: parts between two quotes of one kind. A zero with a digit behind it would
be a number. -/
structure Literal where
  quote : CodePoint
  parts : List Part
  isQuote : quote = .scalar '\'' ∨ quote = .scalar '"'
  allowed : ∀ part ∈ parts, part.Allowed quote
  zeroAlone : parts.IsChain fun part next => part = .zero → next.startsWithDigit = false

namespace Literal

def written (literal : Literal) : Text :=
  literal.quote :: (literal.parts.flatMap Part.written ++ [literal.quote])

/-- **What a literal stands for**: what its parts stand for, in order. -/
def units (literal : Literal) : List Nat := literal.parts.flatMap Part.units

end Literal

/-! ### What is read behind a backslash -/

namespace Escape

variable {first point : CodePoint} {letter : Char} {count : Nat}

theorem readFixed?_of_ne (ne : first ≠ .scalar letter) (rest : Text) :
    readFixed? letter count (first :: rest) = none := by
  unfold readFixed?
  split
  · next same =>
    obtain ⟨rfl, rfl⟩ := List.cons.inj same
    exact if_neg fun both => ne (congrArg CodePoint.scalar both.1)
  · rfl

theorem readBraced?_of_ne (ne : first ≠ .scalar 'u') (rest : Text) :
    readBraced? (first :: rest) = none := by
  unfold readBraced?
  split
  · next same => exact absurd (List.cons.inj same).1 ne
  · rfl

theorem readBraced?_of_no_brace (ne : point ≠ .scalar '\x7b') (rest : Text) :
    readBraced? (first :: point :: rest) = none := by
  unfold readBraced?
  split
  · next same => exact absurd (List.cons.inj (List.cons.inj same).2).1 ne
  · rfl

/-- **Digits behind a letter** are read as the number that they spell. -/
theorem readFixed?_points (letter : Char) (digits : List HexDigit) (rest : Text) :
    readFixed? letter digits.length (.scalar letter :: (digits.map HexDigit.point ++ rest)) =
      some (HexDigit.number digits, digits.length + 1) := by
  have enough : digits.length ≤ (digits.map HexDigit.point ++ rest).length := by simp
  have taken : (digits.map HexDigit.point ++ rest).take digits.length = digits.map HexDigit.point :=
    List.take_left' (List.length_map _)
  rw [readFixed?, if_pos ⟨rfl, enough⟩, taken, HexDigit.hexNumber?_points, Option.map_some]

/-- **Digits in braces** are read as the number that they spell. -/
theorem readBraced?_points {digits : List HexDigit} (digits_ne : digits ≠ []) (rest : Text) :
    readBraced?
      (.scalar 'u' :: .scalar '\x7b' :: (digits.map HexDigit.point ++ .scalar '\x7d' :: rest)) =
      some (HexDigit.number digits, digits.length + 3) := by
  have taken : (digits.map HexDigit.point ++ .scalar '\x7d' :: rest).takeWhile
      CodePoint.isHexDigit =
      digits.map HexDigit.point := by
    have all : ∀ point ∈ digits.map HexDigit.point, point.isHexDigit = true :=
      List.forall_mem_map.mpr fun digit _ => digit.isHexDigit_point
    rw [List.takeWhile_append_of_pos all, List.takeWhile_cons_of_neg (by decide), List.append_nil]
  have behind : ((digits.map HexDigit.point ++ .scalar '\x7d' :: rest).drop digits.length).head? =
      some (.scalar '\x7d') := by
    rw [List.drop_left' (List.length_map _), List.head?_cons]
  simp only [readBraced?, taken, List.length_map, behind]
  rw [if_neg (by simp [digits_ne]), HexDigit.hexNumber?_points, Option.map_some]

theorem read?_of_number {text : Text} {number size : Nat}
    (read : (readBraced? text).or ((readFixed? 'u' 4 text).or (readFixed? 'x' 2 text)) =
      some (number, size)) :
    read? text = some (.numbered number, size) := by
  unfold read?
  rw [read]

theorem read?_byte (high low : HexDigit) (rest : Text) :
    read? (.scalar 'x' :: high.point :: low.point :: rest) =
      some (.numbered (HexDigit.number [high, low]), 3) := by
  refine read?_of_number ?_
  rw [readBraced?_of_ne (by decide), readFixed?_of_ne (by decide), Option.none_or, Option.none_or]
  exact readFixed?_points 'x' [high, low] rest

theorem read?_unit (first second third fourth : HexDigit) (rest : Text) :
    read? (.scalar 'u' :: first.point :: second.point :: third.point :: fourth.point :: rest) =
      some (.numbered (HexDigit.number [first, second, third, fourth]), 5) := by
  have spelled := readFixed?_points 'u' [first, second, third, fourth] rest
  refine read?_of_number ?_
  rw [readBraced?_of_no_brace first.point_ne_brace, Option.none_or]
  exact Option.or_eq_some_iff.mpr (.inl spelled)

theorem read?_braced {digits : List HexDigit} (digits_ne : digits ≠ []) (rest : Text) :
    read? (.scalar 'u' :: .scalar '\x7b' :: (digits.map HexDigit.point ++ .scalar '\x7d' :: rest)) =
      some (.numbered (HexDigit.number digits), digits.length + 3) :=
  read?_of_number (Option.or_eq_some_iff.mpr (.inl (readBraced?_points digits_ne rest)))

/-- **What opens no number and is no line end** is read as it is. -/
theorem read?_plain {rest : Text} (free : point ∉ ("xu\n\u2028\u2029" : Text))
    (notBoth : point = .scalar '\r' → rest.head? ≠ some Text.lineFeed) :
    read? (point :: rest) = some (.plain point, 1) := by
  have ne : ∀ special ∈ ("xu\n\u2028\u2029" : Text), point ≠ special :=
    fun special member same => free (same ▸ member)
  unfold read?
  rw [readBraced?_of_ne (ne _ (by decide)), readFixed?_of_ne (ne _ (by decide)),
    readFixed?_of_ne (ne _ (by decide))]
  simp only [Option.or_none]
  split
  · next same => cases same
  · next same =>
    obtain ⟨rfl, rfl⟩ := List.cons.inj same
    exact absurd rfl (notBoth rfl)
  · next same => exact absurd (List.cons.inj same).1 (ne _ (by decide))
  · next same => exact absurd (List.cons.inj same).1 (ne _ (by decide))
  · next same => exact absurd (List.cons.inj same).1 (ne _ (by decide))
  · next same =>
    obtain ⟨rfl, rfl⟩ := List.cons.inj same
    rfl

end Escape

/-! ### Cooking -/

section Cooking

variable {text rest : Text} {first : CodePoint} {part : Part} {parts : List Part}
  {quote : CodePoint}

/-- What stands for itself is cooked to itself. -/
theorem cooked_cons_of_ne (ne : first ≠ .scalar '\\') (rest : Text) :
    cooked (first :: rest) = (cooked rest).map ([first] ++ ·) := by
  rw [cooked]
  simp only [if_neg ne]
  cases cooked rest <;> rfl

/-- An escape sequence is cooked to what it stands for. -/
theorem cooked_cons_of_read {escape : Escape} {size : Nat} {start : Text}
    (read : Escape.read? text = some (escape, size)) (value : escape.value = .ok start) :
    cooked (.scalar '\\' :: text) = (cooked (text.drop size)).map (start ++ ·) := by
  rw [cooked]
  simp only [if_true, read, value]
  show (cooked (text.drop size) >>= fun others => pure (start ++ others)) = _
  cases cooked (text.drop size) <;> rfl

/-- A number below the last code point is cooked to the code point that it names. -/
theorem exists_value_numbered {number : Nat} (named : number < 0x110000) :
    ∃ start : Text, (Escape.numbered number).value = .ok start ∧ start.units = utf16 number := by
  obtain ⟨point, found⟩ := Option.isSome_iff_exists.mp (CodePoint.ofNat?_isSome_iff.mpr named)
  exact ⟨[point],
    by rw [Escape.value, found], by rw [Text.units_singleton, CodePoint.ofNat?_value found]⟩

theorem utf16_of_lt {number : Nat} (below : number < 0x10000) :
    utf16 number = [number] := if_pos below

/-- A code point behind a backslash means what it stands for there. -/
theorem units_meaning {point : CodePoint} (notZero : point ≠ .scalar '0') :
    Text.units [Escape.meaning point] = Part.escapedUnits point := by
  rw [Text.units_singleton]
  unfold Escape.meaning
  split
  case h_7 => exact absurd rfl notZero
  case h_8 => rw [Part.escapedUnits] <;> assumption
  all_goals rfl

/-- An escape sequence that is read as a number is cooked to that number in UTF-16. -/
theorem exists_cooked_of_numbered {number size : Nat} (named : number < 0x110000)
    (read : Escape.read? text = some (.numbered number, size)) :
    ∃ start : Text, start.units = utf16 number ∧
      cooked (.scalar '\\' :: text) = (cooked (text.drop size)).map (start ++ ·) := by
  obtain ⟨start, value, units⟩ := exists_value_numbered named
  exact ⟨start, units, cooked_cons_of_read read value⟩

/-- **A part is cooked by itself**, whatever follows it in a literal. A line feed never does. -/
theorem cooked_part (allowed : part.Allowed quote) (noFeed : rest.head? ≠ some Text.lineFeed) :
    ∃ start : Text, start.units = part.cookedUnits ∧
      cooked (part.written ++ rest) = (cooked rest).map (start ++ ·) := by
  cases part with
  | bare point => exact ⟨[point], Text.units_singleton point, cooked_cons_of_ne allowed.2.1 rest⟩
  | escaped point =>
    have plain : ∀ special ∈ Part.reserved, point ≠ special :=
      fun special member same => allowed (same ▸ member)
    have read : Escape.read? (point :: rest) = some (.plain point, 1) :=
      Escape.read?_plain (fun member => allowed (List.mem_append_left _ member))
        (absurd · (plain _ (by decide)))
    exact ⟨_, units_meaning (plain _ (by decide)), cooked_cons_of_read read rfl⟩
  | zero =>
    have read : Escape.read? (.scalar '0' :: rest) = some (.plain (.scalar '0'), 1) := rfl
    exact ⟨_, rfl, cooked_cons_of_read read rfl⟩
  | byte high low =>
    have below : HexDigit.number [high, low] < 16 ^ 2 := HexDigit.number_lt [high, low]
    obtain ⟨start, units, cooked⟩ :=
      exists_cooked_of_numbered (by omega) (Escape.read?_byte high low rest)
    exact ⟨start, units.trans (utf16_of_lt (by omega)), cooked⟩
  | unit first second third fourth =>
    have below : HexDigit.number [first, second, third, fourth] < 16 ^ 4 := HexDigit.number_lt _
    obtain ⟨start, units, cooked⟩ := exists_cooked_of_numbered (by omega)
      (Escape.read?_unit first second third fourth rest)
    exact ⟨start, units.trans (utf16_of_lt (by omega)), cooked⟩
  | braced digits =>
    obtain ⟨start, units, cooked⟩ :=
      exists_cooked_of_numbered allowed.2 (Escape.read?_braced allowed.1 rest)
    refine ⟨start, units, ?_⟩
    have behind : (digits.map HexDigit.point ++ .scalar '\x7d' :: rest).drop (digits.length + 1) =
        rest := by
      rw [List.append_cons, List.drop_left' (by simp)]
    rw [List.drop_succ_cons, List.drop_succ_cons, behind] at cooked
    rw [← cooked, Part.written]
    simp only [List.cons_append, List.append_assoc, List.nil_append]
  | continued lineEnd =>
    cases lineEnd with
    | carriageReturn =>
      -- Only a line feed behind it would end a line together with it.
      have read : Escape.read? (.scalar '\r' :: rest) = some (.plain (.scalar '\r'), 1) :=
        Escape.read?_plain (by decide) fun _ => noFeed
      exact ⟨_, rfl, cooked_cons_of_read read rfl⟩
    | lineFeed =>
      have read : Escape.read? (.scalar '\n' :: rest) = some (.lineEnd, 1) := rfl
      exact ⟨_, rfl, cooked_cons_of_read read rfl⟩
    | both =>
      have read : Escape.read? (.scalar '\r' :: .scalar '\n' :: rest) = some (.lineEnd, 2) := rfl
      exact ⟨_, rfl, cooked_cons_of_read read rfl⟩
    | lineSeparator =>
      have read : Escape.read? (.scalar '\u2028' :: rest) = some (.lineEnd, 1) := rfl
      exact ⟨_, rfl, cooked_cons_of_read read rfl⟩
    | paragraphSeparator =>
      have read : Escape.read? (.scalar '\u2029' :: rest) = some (.lineEnd, 1) := rfl
      exact ⟨_, rfl, cooked_cons_of_read read rfl⟩

theorem head?_written_ne_lineFeed (allowed : part.Allowed quote) (rest : Text) :
    (part.written ++ rest).head? ≠ some Text.lineFeed := by
  cases part with
  | bare point => exact fun same => allowed.2.2.1 (Option.some.inj same)
  | _ => exact fun same => absurd (Option.some.inj same) (by decide)

/-- **Parts are cooked one after the other.** -/
theorem cooked_written (allowed : ∀ part ∈ parts, part.Allowed quote) :
    ∃ text : Text, cooked (parts.flatMap Part.written) = .ok text ∧
      text.units = parts.flatMap Part.cookedUnits := by
  induction parts with
  | nil => exact ⟨[], by rw [List.flatMap_nil, cooked], rfl⟩
  | cons part rest ih =>
    obtain ⟨here, others⟩ := List.forall_mem_cons.mp allowed
    obtain ⟨behind, cookedBehind, unitsBehind⟩ := ih others
    have noFeed : (rest.flatMap Part.written).head? ≠ some Text.lineFeed := by
      cases rest with
      | nil =>
        intro same
        cases same
      | cons next rest => exact head?_written_ne_lineFeed (others next List.mem_cons_self) _
    obtain ⟨start, units, cookedHere⟩ := cooked_part here noFeed
    refine ⟨start ++ behind, ?_, ?_⟩
    · rw [List.flatMap_cons, cookedHere, cookedBehind, Except.map]
    · rw [Text.units_append, units, unitsBehind, List.flatMap_cons]

/-- The quotes of a literal are taken off. -/
theorem unquoted_quoted (isQuote : quote = .scalar '\'' ∨ quote = .scalar '"') (body : Text) :
    unquoted (quote :: (body ++ [quote])) = body := by
  rcases isQuote with rfl | rfl <;> simp [unquoted]

/-- What cooking makes of parts is what they stand for, with a unit more for each carriage return
that ends a line alone. -/
theorem cookedUnits_eq_units_iff :
    parts.flatMap Part.cookedUnits = parts.flatMap Part.units ↔
      Part.continued .carriageReturn ∉ parts := by
  have lengths : (parts.flatMap Part.cookedUnits).length =
      (parts.flatMap Part.units).length + parts.count (.continued .carriageReturn) := by
    induction parts with
    | nil => rfl
    | cons part rest ih =>
      rw [List.flatMap_cons, List.flatMap_cons, List.length_append, List.length_append, ih,
        List.count_cons, Part.cookedUnits]
      split
      · next same =>
        subst same
        simp [Part.units]
        omega
      · next other =>
        simp [other]
        omega
  constructor
  · intro same
    rw [same] at lengths
    exact List.count_eq_zero.mp (by omega)
  · intro free
    refine List.flatMap_congr fun part member => if_neg ?_
    rintro rfl
    exact free member

end Cooking

/-! ### Literals -/

/-- **What a literal in a tree is cooked to.** Every literal is cooked to a text: that for which it
stands, part by part, but with a carriage return where one ends a line alone behind a backslash. So
the text is what the literal stands for if and only if no line of it ends so. -/
theorem stringValue_characterised (literal : Literal) {tree : SyntaxTree} {node : Node}
    (spelled : tree.text node = literal.written) :
    ∃ text : Text, tree.stringValue node = .ok text ∧
      text.units = literal.parts.flatMap Part.cookedUnits ∧
      (text.units = literal.units ↔ Part.continued .carriageReturn ∉ literal.parts) := by
  obtain ⟨text, cooked, units⟩ := cooked_written literal.allowed
  refine ⟨text, ?_, units, ?_⟩
  · rw [SyntaxTree.stringValue, spelled, value, Literal.written,
      unquoted_quoted literal.isQuote, cooked]
  · rw [units, Literal.units, cookedUnits_eq_units_iff]

/-- A literal with a part of each kind. -/
def mixedLiteral : Literal where
  quote := .scalar '"'
  parts := [.bare (.scalar 'a'), .escaped (.scalar 'n'), .escaped (.scalar '"'), .zero,
    .byte ⟨4, false⟩ ⟨1, false⟩, .escaped (.scalar '\\'),
    .unit ⟨13, true⟩ ⟨8, false⟩ ⟨3, false⟩ ⟨13, false⟩, .continued .both,
    .braced [⟨1, false⟩, ⟨15, true⟩, ⟨6, false⟩, ⟨0, false⟩, ⟨0, false⟩], .continued .lineSeparator]
  isQuote := .inr rfl
  allowed := by decide
  zeroAlone := by decide

/-- The literal is cooked to nine units, of which the last two are of one code point. -/
theorem stringValue_characterised_mixed : ∃ (tree : SyntaxTree) (node : Node) (text : Text),
    tree.text node = mixedLiteral.written ∧ tree.stringValue node = .ok text ∧
      text.units = [0x61, 0x0A, 0x22, 0, 0x41, 0x5C, 0xD83D, 0xD83D, 0xDE00] := by
  let node : Node :=
    .mk
      { kind := .string, field := none, isNamed := true, isMissing := false, start := 0,
        stop := 37 }
      []
  let tree : SyntaxTree :=
    ⟨.ofChars "\"a\\n\\\"\\0\\x41\\\\\\uD83d\\\r\n\\u\x7b1F600\x7d\\\u2028\"".toList, node⟩
  have spelled : tree.text node = mixedLiteral.written := by decide +kernel
  obtain ⟨text, value, _, units⟩ := stringValue_characterised mixedLiteral spelled
  refine ⟨tree, node, text, spelled, value, ?_⟩
  rw [units.mpr (by decide)]
  rfl

/-- A literal whose first line ends with a carriage return alone. -/
def returnedLiteral : Literal where
  quote := .scalar '\''
  parts := [.bare (.scalar 'a'), .continued .carriageReturn, .bare (.scalar 'b')]
  isQuote := .inl rfl
  allowed := by decide
  zeroAlone := by decide

/-- **Not every literal is cooked to what it stands for**: a carriage return that ends a line alone
is kept. -/
theorem not_cooked_to_units : ¬ ∀ literal : Literal, ∃ text : Text,
    value literal.written = .ok text ∧ text.units = literal.units := by
  intro always
  obtain ⟨text, cooked, same⟩ := always returnedLiteral
  have kept : value returnedLiteral.written = .ok "a\rb" := by decide +kernel
  rw [kept] at cooked
  obtain rfl := Except.ok.inj cooked
  revert same
  decide

end StringLiteral

end TestOutline
