/-
**Patterns.** Regular expressions over code points, and whether one occurs in a text.

* `Regex.run` — whether an expression matches from a place on, so that what follows accepts the
  place behind it.
* `Regex.occursIn` — whether an expression matches somewhere.
-/

import TestOutline.Text.Blank
import TestOutline.Text.Case
import TestOutline.Text.Digit
import TestOutline.Text.Word

namespace TestOutline

/-- A class of code points that has a name. -/
inductive CharCategory where
  | digit
  | blank
  | word
  deriving DecidableEq, Repr

/-- A member of a set of code points: a range of numbers, or a class or all outside it. -/
inductive SetItem where
  | range (first last : Nat)
  | category (category : CharCategory) (inside : Bool)
  deriving DecidableEq, Repr

/-- A set of code points, or all outside it; it may be blind to case. -/
structure CharSet where
  items : List SetItem
  inside : Bool
  ignoreCase : Bool
  deriving DecidableEq, Repr

/-- A place without extent. -/
inductive Anchor where
  /-- The start of the text, or of any line. -/
  | start (anyLine : Bool)
  /-- The end of the text or the place before its last line feed, or the end of any line. -/
  | stop (anyLine : Bool)
  /-- The end of the text. -/
  | textEnd
  /-- A place with a word on exactly one side. -/
  | boundary
  /-- A place with a word on both sides or on none. -/
  | noBoundary
  deriving DecidableEq, Repr

/-- A regular expression. -/
inductive Regex where
  | nothing
  | one (set : CharSet)
  | anchor (anchor : Anchor)
  | sequence (first second : Regex)
  | choice (first second : Regex)
  | repeated (least : Nat) (most : Option Nat) (inner : Regex)
  | lookAhead (wanted : Bool) (inner : Regex)
  | lookBehind (wanted : Bool) (inner : Regex)
  deriving DecidableEq, Repr, Inhabited

namespace CharCategory

def holds (point : CodePoint) : CharCategory → Bool
  | .digit => point.isDecimalDigit
  | .blank => point.isBlank
  | .word => point.isWord

end CharCategory

namespace CharSet

def covers (number : Nat) : SetItem → Bool
  | .range first last => first ≤ number && number ≤ last
  | .category category inside =>
    match CodePoint.ofNat? number with
    | some point => category.holds point == inside
    | none => false

def contains (set : CharSet) (point : CodePoint) : Bool :=
  let numbers := if set.ignoreCase then caseVariants point.value else [point.value]
  (numbers.any fun number => set.items.any (covers number)) == set.inside

end CharSet

/-- A place in a text: what lies before it, nearest first, and what lies ahead. -/
structure TextPlace where
  before : Text
  ahead : Text

namespace TextPlace

/-- The place one code point on. -/
def advance (place : TextPlace) : TextPlace :=
  match place.ahead with
  | [] => place
  | point :: rest => ⟨point :: place.before, rest⟩

/-- The place some code points back. -/
def back (place : TextPlace) (count : Nat) : TextPlace :=
  ⟨place.before.drop count, (place.before.take count).reverse ++ place.ahead⟩

/-- Whether an anchor holds at the place. -/
def satisfies (place : TextPlace) : Anchor → Bool
  | .start anyLine => place.before.isEmpty || (anyLine && place.before.head? == some (.scalar '\n'))
  | .stop anyLine =>
    place.ahead.isEmpty || place.ahead == [.scalar '\n'] ||
      (anyLine && place.ahead.head? == some (.scalar '\n'))
  | .textEnd => place.ahead.isEmpty
  | .boundary => isBoundary
  | .noBoundary => !isBoundary && !(place.before.isEmpty && place.ahead.isEmpty)
where
  /-- Whether a word stands on exactly one side. -/
  isBoundary : Bool :=
    (place.before.head?.any CodePoint.isWord) != (place.ahead.head?.any CodePoint.isWord)

end TextPlace

namespace Regex

/-- Repeats a step at least some times and at most some times before what follows is asked. Beyond
the least number a step has to move. -/
def iterate (step : (TextPlace → Bool) → TextPlace → Bool) :
    Nat → Nat → Option Nat → (TextPlace → Bool) → TextPlace → Bool
  | 0, least, _, follow, place => least == 0 && follow place
  | fuel + 1, least, most, follow, place =>
    (least == 0 && follow place) ||
      (most != some 0 &&
        step
          (fun next =>
            (0 < least || next.ahead.length < place.ahead.length) &&
              iterate step fuel (least - 1) (most.map (· - 1)) follow next)
          place)

/-- Whether the expression matches from a place on so that what follows accepts the place behind
it. -/
def run : Regex → (TextPlace → Bool) → TextPlace → Bool
  | .nothing, follow, place => follow place
  | .one set, follow, place => (place.ahead.head?.any set.contains) && follow place.advance
  | .anchor mark, follow, place => place.satisfies mark && follow place
  | .sequence first second, follow, place => run first (run second follow) place
  | .choice first second, follow, place => run first follow place || run second follow place
  | .repeated least most inner, follow, place =>
    iterate (run inner) (least + place.ahead.length + 1) least most follow place
  | .lookAhead wanted inner, follow, place => (run inner (fun _ => true) place == wanted) &&
      follow place
  | .lookBehind wanted inner, follow, place =>
    ((List.range (place.before.length + 1)).any (fun count =>
        run inner (fun next => next.ahead.length == place.ahead.length) (place.back count)) ==
          wanted) &&
      follow place

/-- Whether the expression matches at the place or at a later one. -/
def occursFrom (regex : Regex) (before : Text) : Text → Bool
  | [] => run regex (fun _ => true) ⟨before, []⟩
  | point :: rest =>
    run regex (fun _ => true) ⟨before, point :: rest⟩ || occursFrom regex (point :: before) rest

/-- Whether the expression matches somewhere in a text. -/
def occursIn (regex : Regex) (text : Text) : Bool := occursFrom regex [] text

/-- The number of code points that every match has, if it is always the same. -/
def width? : Regex → Option Nat
  | .nothing => some 0
  | .one _ => some 1
  | .anchor _ => some 0
  | .sequence first second => do return (← width? first) + (← width? second)
  | .choice first second => do
    let width ← width? first
    if (← width? second) = width then some width else none
  | .repeated least most inner => do
    let width ← width? inner
    if most = some least then some (least * width) else if width = 0 then some 0 else none
  | .lookAhead _ _ => some 0
  | .lookBehind _ _ => some 0

end Regex

/-- A regular expression with the text that it was read from. -/
structure Pattern where
  source : Text
  ignoreCase : Bool
  regex : Regex
  deriving DecidableEq, Repr

def Pattern.occursIn (pattern : Pattern) (text : Text) : Bool := pattern.regex.occursIn text

end TestOutline
