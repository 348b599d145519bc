/-
**Masks.** A text with its comments and strings blanked out, every line end kept.

* `Mask.blankedFrom` reads the text from left to right and knows only what kind of text it is in.
* `Text.masked` — the mask of a text; it is as long as the text.
-/

import TestOutline.Text.Lines

namespace TestOutline

namespace Mask

/-- What kind of text a place is in. -/
inductive State where
  | code
  | lineComment
  /-- Between the two marks that open a block comment. -/
  | blockOpening
  | blockComment
  /-- Between the two marks that close a block comment. -/
  | blockClosing
  | quoted (quote : CodePoint)
  /-- After a backslash in quotes. -/
  | escaped (quote : CodePoint)
  deriving DecidableEq, Repr

/-- A blank in place of a code point, unless it ends a line. -/
def blank (point : CodePoint) : CodePoint := if point = Text.lineFeed then point else .scalar ' '

def isQuote (point : CodePoint) : Bool :=
  point == .scalar '\'' || point == .scalar '"' || point == .scalar '\x60'

/-- What a place is in after a code point that stands in code and has another one behind it. -/
def afterCode (point : CodePoint) (next : Option CodePoint) : State :=
  if point = .scalar '/' ∧ next = some (.scalar '/') then .lineComment
  else if point = .scalar '/' ∧ next = some (.scalar '*') then .blockOpening
  else if isQuote point then .quoted point
  else .code

/-- What a place is in after a code point in quotes. A line end closes them, unless it is a
template. -/
def afterQuoted (quote point : CodePoint) : State :=
  if point = quote then .code
  else if point = .scalar '\\' then .escaped quote
  else if point = Text.lineFeed ∧ quote ≠ .scalar '\x60' then .code
  else .quoted quote

/-- What a place is in after a code point. -/
def State.next (state : State) (point : CodePoint) (next : Option CodePoint) : State :=
  match state with
  | .code => afterCode point next
  | .lineComment => if point = Text.lineFeed then .code else .lineComment
  | .blockOpening => .blockComment
  | .blockComment =>
    if point = .scalar '*' ∧ next = some (.scalar '/') then .blockClosing else .blockComment
  | .blockClosing => .code
  | .quoted quote => afterQuoted quote point
  | .escaped quote => .quoted quote

/-- The text with all blanked out that is no code and starts no comment or string. -/
def blankedFrom (state : State) : Text → Text
  | [] => []
  | point :: rest =>
    let following := state.next point rest.head?
    (if state = .code ∧ following = .code then point else blank point) :: blankedFrom following rest

end Mask

/-- The text with its comments and strings blanked out. -/
def Text.masked (text : Text) : Text := Mask.blankedFrom .code text

namespace Mask

/-- A mask is as long as its text. -/
theorem length_blankedFrom (state : State) (text : Text) :
    (blankedFrom state text).length = text.length := by
  induction text generalizing state with
  | nil => rfl
  | cons point rest ih => simp [blankedFrom, ih]

end Mask

/-- A mask is as long as its text. -/
theorem Text.length_masked (text : Text) : text.masked.length = text.length :=
  Mask.length_blankedFrom .code text

end TestOutline
