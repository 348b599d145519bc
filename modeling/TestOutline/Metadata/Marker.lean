/-
**Markers.** Metadata stands in comments between an opening and a closing marker of its scope.

* `Marker.opening`, `Marker.closing` — the markers as they are written.
* `Marker.openingLength?`, `Marker.closingLength?` — the length of a marker at the start of a text;
  blanks next to the comment's own marks are free.
* `Marker.pairs` — the pairs of markers in a text. An opening marker that is never closed counts for
  nothing.
-/

import TestOutline.Outline.Basic
import TestOutline.Text.Blank
import TestOutline.Text.Word

namespace TestOutline.Marker

/-- The name of a scope's metadata. -/
def label (scope : Scope) : Text := "@apicize-" ++ Text.ofString scope.word ++ "-metadata"

def opening (scope : Scope) : Text := "/* " ++ label scope

def closing (scope : Scope) : Text := label scope ++ "-end */"

/-- Whether a code point would go on with the name of metadata. -/
def continuesLabel (point : CodePoint) : Bool := point.isWord || point == .scalar '-'

/-- The length of an opening marker at the start of a text. -/
def openingLength? (scope : Scope) (text : Text) : Option Nat :=
  let mark : Text := "/*"
  if mark.isPrefixOf text then
    let inside := Text.stripStart (text.drop mark.length)
    let name := label scope
    if name.isPrefixOf inside ∧ !(inside.drop name.length).head?.any continuesLabel then
      some (text.length - inside.length + name.length)
    else none
  else none

/-- The length of a closing marker at the start of a text. -/
def closingLength? (scope : Scope) (text : Text) : Option Nat :=
  let name : Text := label scope ++ "-end"
  let mark : Text := "*/"
  if name.isPrefixOf text then
    let behind := Text.stripStart (text.drop name.length)
    if mark.isPrefixOf behind then some (text.length - behind.length + mark.length) else none
  else none

/-- The first place at which a marker starts, with its length. -/
def search (length? : Text → Option Nat) : Text → Option (Nat × Nat)
  | [] => none
  | point :: rest =>
    match length? (point :: rest) with
    | some length => some (0, length)
    | none => (search length? rest).map fun (start, length) => (start + 1, length)

/-- Two markers that belong together, by the offsets at which each starts and stops. -/
structure Pair where
  openingStart : Nat
  openingStop : Nat
  closingStart : Nat
  closingStop : Nat
  deriving DecidableEq, Repr

/-- The first pair of markers in a text, with the text behind it. -/
def firstPair? (scope : Scope) (text : Text) : Option Pair := do
  let (start, length) ← search (openingLength? scope) text
  let inside := start + length
  let (stop, closingLength) ← search (closingLength? scope) (text.drop inside)
  return ⟨start, inside, inside + stop, inside + stop + closingLength⟩

/-- The same pair after so many further code points. -/
def Pair.shift (count : Nat) (pair : Pair) : Pair :=
  ⟨count + pair.openingStart, count + pair.openingStop, count + pair.closingStart,
    count + pair.closingStop⟩

/-- The pairs of markers in a text that starts at an offset. -/
def pairsFrom (scope : Scope) (offset : Nat) : Text → List Pair
  | [] => []
  | point :: rest =>
    match firstPair? scope (point :: rest) with
    | none => []
    | some pair =>
      pair.shift offset ::
        pairsFrom scope (offset + pair.closingStop) (rest.drop (pair.closingStop - 1))
termination_by text => text.length
decreasing_by
  rw [List.length_drop, List.length_cons]
  omega

/-- The pairs of markers in a text. -/
def pairs (scope : Scope) (text : Text) : List Pair := pairsFrom scope 0 text

end TestOutline.Marker
