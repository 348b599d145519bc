/-
**Reading patterns.** The notation of regular expressions: literals, classes, groups, alternatives,
anchors, escapes, repetitions, and flags. Repetitions and groups that keep what they have matched
(`a*+`, `(?>a)`) are not read.

* `Pattern.read?` — the pattern of a text, none where the notation is broken.
-/

import TestOutline.Pattern.Basic
import TestOutline.Text.Hex

namespace TestOutline.Pattern

/-- What the letters of a flag group switch on. -/
structure Flags where
  ignoreCase : Bool
  anyLine : Bool
  dotAll : Bool
  deriving DecidableEq, Repr

/-- Something read, the flags from there on, and what is left. -/
structure Reading where
  regex : Regex
  flags : Flags
  rest : Text

/-- A set of one code point. -/
def single (flags : Flags) (number : Nat) : Regex :=
  .one ⟨[.range number number], true, flags.ignoreCase⟩

def classOf (flags : Flags) (category : CharCategory) (inside : Bool) : Regex :=
  .one ⟨[.category category inside], true, flags.ignoreCase⟩

/-- Any code point but a line feed, unless the flags say otherwise. -/
def anyPoint (flags : Flags) : Regex :=
  .one ⟨if flags.dotAll then [] else [.range 10 10], false, flags.ignoreCase⟩

/-- The number spelled by so many hexadecimal digits. -/
def hexNumber? (count : Nat) (text : Text) : Option (Nat × Text) :=
  if text.length < count then none
  else
    (Text.hexNumber? (text.take count)).bind fun number =>
      if number < 0x110000 then some (number, text.drop count) else none

/-- The category that a letter stands for after a backslash. -/
def category? : Char → Option (CharCategory × Bool)
  | 'd' => some (.digit, true)
  | 'D' => some (.digit, false)
  | 's' => some (.blank, true)
  | 'S' => some (.blank, false)
  | 'w' => some (.word, true)
  | 'W' => some (.word, false)
  | _ => none

/-- The number of the control that a letter stands for after a backslash. -/
def control? : Char → Option Nat
  | 'a' => some 7
  | 'f' => some 12
  | 'n' => some 10
  | 'r' => some 13
  | 't' => some 9
  | 'v' => some 11
  | _ => none

/-- The octal digits at the start of a text, at most so many. -/
def octalDigits (count : Nat) (text : Text) : Text :=
  (text.take count).takeWhile (·.satisfies fun char => '0' ≤ char && char ≤ '7')

/-- The code point that an escape spells, after its backslash. -/
def escapedPoint? : Text → Option (Nat × Text)
  | [] => none
  | .surrogate index :: rest => some ((CodePoint.surrogate index).value, rest)
  | .scalar char :: rest =>
    match control? char with
    | some number => some (number, rest)
    | none =>
      if char = 'x' then hexNumber? 2 rest
      else if char = 'u' then hexNumber? 4 rest
      else if char = 'U' then hexNumber? 8 rest
      else if char = '0' then
        let digits := octalDigits 2 rest
        some (digits.foldl (fun number digit => number * 8 + (digit.value - 48)) 0,
          rest.drop digits.length)
      else if char.isAlphanum then none
      else some (char.toNat, rest)

/-- The anchor that a letter stands for after a backslash. -/
def anchor? : Char → Option Anchor
  | 'A' => some (.start false)
  | 'Z' => some .textEnd
  | 'b' => some .boundary
  | 'B' => some .noBoundary
  | _ => none

/-- Reads an escape outside a set, after its backslash. -/
def escape? (flags : Flags) (text : Text) : Option Reading :=
  match text with
  | .scalar char :: rest =>
    match anchor? char, category? char with
    | some anchor, _ => some ⟨.anchor anchor, flags, rest⟩
    | none, some (category, inside) => some ⟨classOf flags category inside, flags, rest⟩
    | none, none => (escapedPoint? text).map fun (number, rest) =>
      ⟨single flags number, flags, rest⟩
  | _ => (escapedPoint? text).map fun (number, rest) => ⟨single flags number, flags, rest⟩

/-- Reads a member of a set that is no range. -/
def setItem? : Text → Option (SetItem × Text)
  | [] => none
  | .scalar '\\' :: rest =>
    match rest with
    | .scalar 'b' :: after => some (.range 8 8, after)
    | .scalar char :: after =>
      match category? char with
      | some (category, inside) => some (.category category inside, after)
      | none => (escapedPoint? rest).map fun (number, after) => (.range number number, after)
    | _ => (escapedPoint? rest).map fun (number, after) => (.range number number, after)
  | point :: rest => some (.range point.value point.value, rest)

/-- Reads the members of a set up to its closing bracket; a bracket that comes first is a member. -/
def setItems? : Nat → Bool → Text → Option (List SetItem × Text)
  | 0, _, _ => none
  | fuel + 1, isFirst, text =>
    match text with
    | [] => none
    | point :: rest =>
      if point = .scalar ']' ∧ !isFirst then some ([], rest)
      else do
        let (item, rest) ← setItem? text
        match rest with
        | .scalar '-' :: .scalar ']' :: after => some ([item, .range 45 45], after)
        | .scalar '-' :: after => do
          let (last, after) ← setItem? after
          match item, last with
          | .range low _, .range _ high =>
            if high < low then none
            else do
              let (items, after) ← setItems? fuel false after
              some (.range low high :: items, after)
          | _, _ => none
        | _ => do
          let (items, rest) ← setItems? fuel false rest
          some (item :: items, rest)

/-- Reads a set after its opening bracket. -/
def set? (flags : Flags) (text : Text) : Option Reading := do
  let negated := text.head? == some (.scalar '^')
  let inner := if negated then text.drop 1 else text
  let (items, rest) ← setItems? (inner.length + 1) true inner
  some ⟨.one ⟨items, !negated, flags.ignoreCase⟩, flags, rest⟩

/-- The number that decimal digits spell, if there are any. -/
def decimal? (digits : Text) : Option Nat :=
  if digits.isEmpty then none
  else some (digits.foldl (fun number digit => number * 10 + (digit.value - 48)) 0)

/-- What a quantifier at the start of a text says. -/
inductive Quantifier where
  | absent
  | broken
  | bounds (least : Nat) (most : Option Nat) (rest : Text)

/-- Reads a quantifier; braces that do not hold bounds are literal. -/
def quantifier : Text → Quantifier
  | .scalar '*' :: rest => .bounds 0 none rest
  | .scalar '+' :: rest => .bounds 1 none rest
  | .scalar '?' :: rest => .bounds 0 (some 1) rest
  | .scalar '\x7b' :: rest =>
    let isDigit (point : CodePoint) : Bool := point.satisfies Char.isDigit
    let low := rest.takeWhile isDigit
    let afterLow := rest.drop low.length
    let (high, after) :=
      match afterLow with
      | .scalar ',' :: more => (more.takeWhile isDigit, more.drop (more.takeWhile isDigit).length)
      | _ => (low, afterLow)
    match after with
    | .scalar '\x7d' :: after =>
      if afterLow.head? = some (.scalar '\x7d') ∧ low.isEmpty then .absent
      else
        let least := (decimal? low).getD 0
        let most := decimal? high
        if most.any (· < least) then .broken else .bounds least most after
    | _ => .absent
  | _ => .absent

/-- Drops the mark of a reluctant quantifier; it is as good as a greedy one to find out whether
there is a match. -/
def dropMood : Text → Text
  | .scalar '?' :: rest => rest
  | rest => rest

/-- Whether an expression may not be repeated. -/
def isAnchor : Regex → Bool
  | .anchor _ => true
  | .nothing => true
  | _ => false

/-- Applies the quantifier that follows an item. A second one right after it is broken notation. -/
def quantified? (isAtom : Bool) (item : Reading) : Option Reading :=
  match quantifier item.rest with
  | .absent => some item
  | .broken => none
  | .bounds least most rest =>
    if !isAtom && isAnchor item.regex then none
    else
      let rest := dropMood rest
      match quantifier rest with
      | .absent => some ⟨.repeated least most item.regex, item.flags, rest⟩
      | _ => none

/-- The flags that letters switch on. -/
def withLetters : Flags → List Char → Option Flags
  | flags, [] => some flags
  | flags, letter :: rest =>
    match letter with
    | 'i' => withLetters { flags with ignoreCase := true } rest
    | 'm' => withLetters { flags with anyLine := true } rest
    | 's' => withLetters { flags with dotAll := true } rest
    | 'u' => withLetters flags rest
    | _ => none

def letters (text : Text) : List Char :=
  (text.takeWhile (·.satisfies Char.isAlpha)).filterMap CodePoint.char?

/-- What starts a group, after its parenthesis: how its inside is wrapped, with which flags it is
read, and the text of the inside. -/
def groupHead? (flags : Flags) : Text → Option ((Regex → Option Regex) × Flags × Text)
  | .scalar '?' :: .scalar ':' :: rest => some (some, flags, rest)
  | .scalar '?' :: .scalar '=' :: rest => some ((some ∘ .lookAhead true), flags, rest)
  | .scalar '?' :: .scalar '!' :: rest => some ((some ∘ .lookAhead false), flags, rest)
  | .scalar '?' :: .scalar '<' :: .scalar '=' :: rest => some (behind true, flags, rest)
  | .scalar '?' :: .scalar '<' :: .scalar '!' :: rest => some (behind false, flags, rest)
  | .scalar '?' :: .scalar 'P' :: .scalar '<' :: rest =>
    let name := rest.takeWhile (· != .scalar '>')
    if name.isEmpty || !(name.all CodePoint.isWord) || name.head?.any CodePoint.isDecimalDigit ||
        rest.length ≤ name.length then none
    else some (some, flags, rest.drop (name.length + 1))
  | .scalar '?' :: rest => do
    let on := letters rest
    let inner ← withLetters flags on
    match rest.drop on.length with
    | .scalar ':' :: rest => if on.isEmpty then none else some (some, inner, rest)
    | _ => none
  | rest => some (some, flags, rest)
where
  /-- An expression that is looked for behind has a fixed width. -/
  behind (wanted : Bool) (inner : Regex) : Option Regex := do
    let _ ← inner.width?
    return .lookBehind wanted inner

mutual

/-- Reads alternatives up to a closing parenthesis or the end. -/
def choices? : Nat → Flags → Text → Option Reading
  | 0, _, _ => none
  | fuel + 1, flags, text => do
    let first ← items? fuel flags text
    match first.rest with
    | .scalar '|' :: rest => do
      let others ← choices? fuel flags rest
      some ⟨.choice first.regex others.regex, flags, others.rest⟩
    | _ => some first

/-- Reads items one after the other up to a bar, a closing parenthesis or the end. -/
def items? : Nat → Flags → Text → Option Reading
  | 0, _, _ => none
  | fuel + 1, flags, text =>
    match text with
    | [] => some ⟨.nothing, flags, []⟩
    | .scalar '|' :: _ => some ⟨.nothing, flags, text⟩
    | .scalar ')' :: _ => some ⟨.nothing, flags, text⟩
    | _ => do
      let first ← item? fuel flags text
      let others ← items? fuel flags first.rest
      some ⟨.sequence first.regex others.regex, flags, others.rest⟩

/-- Reads an item with its quantifier. -/
def item? : Nat → Flags → Text → Option Reading
  | 0, _, _ => none
  | fuel + 1, flags, text =>
    match text with
    | [] => none
    | .scalar '\\' :: rest => do quantified? false (← escape? flags rest)
    | .scalar '[' :: rest => do quantified? false (← set? flags rest)
    | .scalar '.' :: rest => quantified? false ⟨anyPoint flags, flags, rest⟩
    | .scalar '^' :: rest => quantified? false ⟨.anchor (.start flags.anyLine), flags, rest⟩
    | .scalar '$' :: rest => quantified? false ⟨.anchor (.stop flags.anyLine), flags, rest⟩
    | .scalar '(' :: .scalar '?' :: .scalar '#' :: rest =>
      let remark := rest.takeWhile (· != .scalar ')')
      if rest.length ≤ remark.length then none
      else some ⟨.nothing, flags, rest.drop (remark.length + 1)⟩
    | .scalar '(' :: rest => do
      let (wrap, inner, rest) ← groupHead? flags rest
      let inside ← choices? fuel inner rest
      match inside.rest with
      | .scalar ')' :: rest => do quantified? true ⟨← wrap inside.regex, flags, rest⟩
      | _ => none
    | point :: rest =>
      match quantifier text with
      | .absent => quantified? false ⟨single flags point.value, flags, rest⟩
      | _ => none

end

/-- The flags at the start of an expression, and the text after them. -/
def leadingFlags? : Nat → Flags → Text → Option (Flags × Text)
  | 0, flags, text => some (flags, text)
  | fuel + 1, flags, text =>
    match text with
    | .scalar '(' :: .scalar '?' :: rest =>
      let on := letters rest
      match rest.drop on.length with
      | .scalar ')' :: rest =>
        if on.isEmpty then none
        else do
          let flags ← withLetters flags on
          leadingFlags? fuel flags rest
      | _ => some (flags, text)
    | _ => some (flags, text)

/-- The pattern of a text; it may be blind to case from the outset. -/
def read? (ignoreCase : Bool) (source : Text) : Option Pattern := do
  let (flags, text) ← leadingFlags? source.length ⟨ignoreCase, false, false⟩ source
  let reading ← choices? (4 * text.length + 4) flags text
  if reading.rest.isEmpty then some ⟨source, flags.ignoreCase, reading.regex⟩ else none

end TestOutline.Pattern
