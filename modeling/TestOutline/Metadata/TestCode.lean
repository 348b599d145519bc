/-
**Test code after metadata.** The text of the first call of a test function in a window after a
block of metadata.

* `TestCode.windowEnd` — where the window ends, which is given in lines.
* `TestCode.findCall?` — the first call in a window, by its start and the place after its
  parenthesis.
* `TestCode.closingLength?` — how far a parenthesis reaches.
* `Source.testCode?` — the text of the call.
-/

import TestOutline.Metadata.Mask
import TestOutline.Source.Basic
import TestOutline.Text.Blank
import TestOutline.Text.Word

namespace TestOutline

namespace TestCode

/-- Whether a code point belongs to a longer name, or a member's, when it stands before a name. -/
def continuesName (point : CodePoint) : Bool :=
  point.isWord || point == .scalar '$' || point == .scalar '.'

def testFunctions : List Text := ["it", "test"]

/-- The length of the call of a function at the start of a text, up to its parenthesis. -/
def callOf? (function text : Text) : Option Nat :=
  if function.isPrefixOf text then
    let behind := Text.stripStart (text.drop function.length)
    if behind.head? = some (.scalar '(') then some (text.length - behind.length + 1) else none
  else none

/-- The length of the call of a test function at the start of a text, up to its parenthesis. -/
def callLength? (text : Text) : Option Nat := testFunctions.findSome? (callOf? · text)

/-- The first call of a test function in a text, by its start and its length up to the parenthesis;
`before` is the code point in front of the text. -/
def findCall? (before : Option CodePoint) : Text → Option (Nat × Nat)
  | [] => none
  | point :: rest =>
    let here := if before.any continuesName then none else callLength? (point :: rest)
    match here with
    | some length => some (0, length)
    | none => (findCall? (some point) rest).map fun (start, length) => (start + 1, length)

/-- The length of a text up to the parenthesis that closes the last of `depth` open ones. -/
def closingLength? (depth : Nat) : Text → Option Nat
  | [] => none
  | point :: rest =>
    if point = .scalar '(' then (closingLength? (depth + 1) rest).map (· + 1)
    else if point = .scalar ')' then
      if depth = 1 then some 1 else (closingLength? (depth - 1) rest).map (· + 1)
    else (closingLength? depth rest).map (· + 1)

/-- The offset at which a window ends that reaches so many lines beyond a line. -/
def windowEnd (source : Source) (line window : Int) : Nat :=
  if (source.lineCount : Int) ≤ line + window then source.length
  else source.lineStart (line + window + 1)

/-- The first call of a test function in a mask between two offsets, by its start and the place
after its closing parenthesis, which may lie beyond. -/
def callRange? (mask : Text) (start stop : Nat) : Option (Nat × Nat) := do
  let before := if start = 0 then none else mask[start - 1]?
  let (offset, length) ← findCall? before (mask.slice start stop)
  let parenthesis := start + offset + length - 1
  let reach ← closingLength? 0 (mask.drop parenthesis)
  return (start + offset, parenthesis + reach)

end TestCode

/-- The text of the first call of a test function that starts after an offset, in the window of so
many lines beyond a line. -/
def Source.testCode? (source : Source) (line offset window : Int) : Option Text :=
  let mask := source.text.masked
  let start := min offset.toNat mask.length
  (TestCode.callRange? mask start (TestCode.windowEnd source line window)).map fun (start, stop) =>
    source.slice start stop

end TestOutline
