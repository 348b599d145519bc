/-
**Markup.** Texts with tags in square brackets that set a style. Styles do not show on a plain
terminal, so tags are dropped; but a closing tag needs an open one of its style.

* `Markup.escape` — a text with a backslash before each bracket that would start a tag.
* `Markup.render` — a text without its tags and escapes.
-/

import TestOutline.Text.Blank
import TestOutline.Text.Lower

namespace TestOutline.Markup

/-- A closing tag that closes nothing. -/
inductive Fault where
  | nothingOpen
  | otherStyle (style : Text)
  deriving DecidableEq, Repr

def Fault.message : Fault → Text
  | .nothingOpen => "closing tag '[/]' has nothing to close"
  | .otherStyle style => "closing tag '[/" ++ style ++ "]' doesn't match any open tag"

/-- Whether a code point may start the inside of a tag. -/
def startsTag (point : CodePoint) : Bool :=
  point.satisfies fun char =>
    ('a' ≤ char && char ≤ 'z') || char == '#' || char == '/' || char == '@'

/-- The inside of the tag at the start of a text: it starts as a tag does and holds no bracket. -/
def tagInside? : Text → Option Text
  | .scalar '[' :: first :: rest =>
    let inside := rest.takeWhile fun point => point != .scalar '[' && point != .scalar ']'
    if startsTag first && (rest.drop inside.length).head? == some (.scalar ']')
      then some (first :: inside)
    else none
  | _ => none

/-- The number of backslashes at the start of a text. -/
def backslashes (text : Text) : Nat := (text.takeWhile (· == .scalar '\\')).length

def backslashText (count : Nat) : Text := List.replicate count (.scalar '\\')

/-- The text with each tag escaped: the backslashes before it are doubled, and one more is put in
front. -/
def escapeTags : Nat → Text → Text
  | 0, text => text
  | _ + 1, [] => []
  | fuel + 1, point :: rest =>
    let text := point :: rest
    let count := backslashes text
    match tagInside? (text.drop count) with
    | some inside =>
      backslashText (2 * count + 1) ++ "[" ++ inside ++ "]" ++
        escapeTags fuel (text.drop (count + inside.length + 2))
    | none => text.take (max count 1) ++ escapeTags fuel (text.drop (max count 1))

/-- The text written so that it stands for itself. A single backslash at the end is doubled, lest it
escape what follows. -/
def escape (text : Text) : Text :=
  let escaped := escapeTags text.length text
  if backslashes escaped.reverse = 1 then escaped ++ backslashText 1 else escaped

/-- A part of a marked text: a piece of plain text, or a tag. -/
inductive Part where
  | plain (text : Text)
  | tag (inside : Text)
  deriving DecidableEq, Repr

/-- Plain text in front of parts. -/
def withPlain (text : Text) : List Part → List Part
  | .plain more :: rest => .plain (text ++ more) :: rest
  | parts => .plain text :: parts

/-- The parts of a marked text; pieces of plain text between tags are kept whole. Two backslashes
before a tag are one, and a tag with one left before it is plain text. -/
def parts : Nat → Text → List Part
  | 0, _ => []
  | _ + 1, [] => []
  | fuel + 1, point :: rest =>
    let text := point :: rest
    let count := backslashes text
    match tagInside? (text.drop count) with
    | some inside =>
      let behind := parts fuel (text.drop (count + inside.length + 2))
      let literal := if count < 2 then [] else [Part.plain (backslashText (count / 2))]
      literal ++
        if count % 2 = 1 then .plain ("[" ++ inside ++ "]") :: behind else .tag inside :: behind
    | none =>
      withPlain (text.take (max count 1)) (parts fuel (text.drop (max count 1)))

/-- The text with the backslashes dropped that stand right before a bracket. -/
def unescapeBrackets : Text → Text
  | .scalar '\\' :: .scalar '[' :: rest => .scalar '[' :: unescapeBrackets rest
  | point :: rest => point :: unescapeBrackets rest
  | [] => []

/-- Whether a code point is a control that a terminal text does not keep. -/
def isDroppedControl (point : CodePoint) : Bool :=
  point.value == 7 || point.value == 8 || point.value == 11 || point.value == 12 ||
    point.value == 13

/-- The short names of styles with their full ones. -/
def shortStyles : List (Text × Text) := [
  ("b", "bold"), ("i", "italic"), ("u", "underline"), ("uu", "underline2"), ("s", "strike"),
    ("d", "dim"),
  ("r", "reverse"), ("c", "conceal"), ("o", "overline")]

/-- The name of a style, without regard to case and blanks around it. -/
def styleName (name : Text) : Text :=
  let name := Text.lower (Text.strip name)
  match shortStyles.find? fun entry => entry.1 == name with
  | some entry => entry.2
  | none => name

/-- The styles that are open after a tag. What follows an equals sign is no part of a style's
name. -/
def applyTag (opened : List Text) (inside : Text) : Except Fault (List Text) :=
  let name := inside.takeWhile (· != .scalar '=')
  match name with
  | .scalar '/' :: closing =>
    if (Text.strip closing).isEmpty then
      match opened with
      | [] => .error .nothingOpen
      | _ :: rest => .ok rest
    else
      let style := styleName closing
      if opened.contains style then .ok (opened.erase style) else .error (.otherStyle style)
  | _ => .ok (styleName name :: opened)

/-- The plain text of some parts. -/
def renderParts (opened : List Text) : List Part → Except Fault Text
  | [] => .ok []
  | .plain text :: rest => do
    let others ← renderParts opened rest
    return (unescapeBrackets text).filter (!isDroppedControl ·) ++ others
  | .tag inside :: rest => do
    let opened ← applyTag opened inside
    renderParts opened rest

/-- What a marked text shows. Without brackets a text shows as it is. -/
def render (text : Text) : Except Fault Text :=
  if text.any (· == .scalar '[') then renderParts [] (parts text.length text)
  else .ok (text.filter (!isDroppedControl ·))

end TestOutline.Markup
