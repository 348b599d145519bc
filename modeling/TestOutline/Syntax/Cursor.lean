/-
**Cursors.** A place between two tokens of a source: the gap after the last token, with its
comments, and the text from the next token on. Offsets count bytes.

* `Cursor.advance` consumes characters of the next token and reads the gap that follows.
* `Cursor.resume` consumes characters right after the last token, where no gap is allowed.
* `Cursor.endStatement?` finds the place of a semicolon, written or not.
-/

import TestOutline.Syntax.Character
import TestOutline.Syntax.Language

namespace TestOutline.Syntax

/-- Some bytes of a source. -/
structure Span where
  start : Nat
  stop : Nat
  deriving DecidableEq, Repr

/-- A comment, with the text that follows it. -/
structure Comment where
  span : Span
  following : List Char

/-- What stands between two tokens: the comments, and the text and offset of the next token. -/
structure Gap where
  comments : List Comment
  next : List Char
  offset : Nat

/-- The number of bytes of some characters. -/
def byteLength : List Char → Nat
  | [] => 0
  | char :: rest => char.utf8Size + byteLength rest

/-- Where the reader of a gap is: outside comments, after a slash, in a line comment, or in a block
comment, with the last character a star or not. What a slash starts may turn out to be no comment,
so its text is kept. -/
inductive GapState where
  | outside
  | slash (start : Nat) (opening : List Char)
  | line (start : Nat)
  | block (start : Nat) (opening : List Char) (star : Bool)

namespace Gap

/-- Adds a comment in front of the others. -/
def withComment (start stop : Nat) (following : List Char) (gap : Gap) : Gap :=
  { gap with comments := ⟨⟨start, stop⟩, following⟩ :: gap.comments }

/-- Reads a gap that continues at an offset. -/
def readFrom (state : GapState) (offset : Nat) : List Char → Gap
  | [] =>
    match state with
    | .outside => ⟨[], [], offset⟩
    | .slash start opening => ⟨[], opening, start⟩
    | .line start => ⟨[⟨⟨start, offset⟩, []⟩], [], offset⟩
    | .block start opening _ => ⟨[], opening, start⟩
  | char :: rest =>
    let stop := offset + char.utf8Size
    match state with
    | .outside =>
      if char = '/' then readFrom (.slash offset (char :: rest)) stop rest
      else if isSpace char then readFrom .outside stop rest
      else ⟨[], char :: rest, offset⟩
    | .slash start opening =>
      if char = '/' then readFrom (.line start) stop rest
      else if char = '*' then readFrom (.block start opening false) stop rest
      else ⟨[], opening, start⟩
    | .line start =>
      if endsLineComment char then (readFrom .outside stop rest).withComment start offset
        (char :: rest)
      else readFrom (.line start) stop rest
    | .block start opening star =>
      if star ∧ char = '/' then (readFrom .outside stop rest).withComment start stop rest
      else readFrom (.block start opening (char == '*')) stop rest

/-- The gap at the start of a text. -/
def read (offset : Nat) (chars : List Char) : Gap := readFrom .outside offset chars

end Gap

/-- A place between two tokens. -/
structure Cursor where
  /-- The text right after the last token. -/
  gap : List Char
  /-- Where the last token ends. -/
  lastStop : Nat
  /-- The comments of the gap. -/
  ahead : List Comment
  /-- The text from the next token on. -/
  next : List Char
  /-- Where the next token starts. -/
  offset : Nat
  /-- The comments before the last token, latest first. -/
  behind : List Span

namespace Cursor

/-- The cursor after a token that ends where the text starts. -/
def after (chars : List Char) (stop : Nat) (behind : List Span) : Cursor :=
  let gap := Gap.read stop chars
  ⟨chars, stop, gap.comments, gap.next, gap.offset, behind⟩

/-- The comments up to the next token, latest first. -/
def commentsSoFar (cursor : Cursor) : List Span :=
  (cursor.ahead.map (·.span)).reverse ++ cursor.behind

/-- Consumes characters of the next token. -/
def advance (cursor : Cursor) (count : Nat) : Cursor :=
  let token := cursor.next.take count
  after (cursor.next.drop count) (cursor.offset + byteLength token) cursor.commentsSoFar

/-- Consumes characters right after the last token; what looked like comments there is part of
them. -/
def resume (cursor : Cursor) (count : Nat) : Cursor :=
  let token := cursor.gap.take count
  after (cursor.gap.drop count) (cursor.lastStop + byteLength token) cursor.behind

/-- Whether a line feed stands before the next token. -/
def startsLine (cursor : Cursor) : Bool :=
  (cursor.gap.take (cursor.gap.length - cursor.next.length)).contains '\n'

/-- The cursor right after the first comments ahead. -/
def skipComments (cursor : Cursor) (count : Nat) : Cursor :=
  match (cursor.ahead.take count).getLast? with
  | none => cursor
  | some comment =>
    { cursor with
      gap := comment.following
      lastStop := comment.span.stop
      ahead := cursor.ahead.drop count
      behind := ((cursor.ahead.take count).map (·.span)).reverse ++ cursor.behind }

end Cursor

/-! ### Semicolons that are not written -/

namespace Semicolon

/-- What stands in the way of a search over spaces and comments. -/
inductive Obstacle where
  | slash
  | none
  deriving DecidableEq

/-- Skips spaces and comments; a slash that starts no comment is an obstacle. -/
def skipBlanks : Nat → List Char → Obstacle × List Char
  | 0, chars => (.none, chars)
  | fuel + 1, chars =>
    match chars.dropWhile isBreakableSpace with
    | '/' :: '/' :: rest => skipBlanks fuel (rest.dropWhile fun char => char != '\n')
    | '/' :: '*' :: rest => skipBlanks fuel (afterBlock rest)
    | '/' :: rest => (.slash, '/' :: rest)
    | rest => (.none, rest)
where
  /-- The text after the end of a block comment. -/
  afterBlock : List Char → List Char
    | [] => []
    | '*' :: '/' :: rest => rest
    | _ :: rest => afterBlock rest

/-- Whether a name continues a word. -/
def isLetter (char : Option Char) : Bool := char.any fun char => char.isAlpha || 0x80 ≤ char.toNat

/-- Whether the word in front is `in` or `instanceof`. -/
def startsRelation : List Char → Bool
  | 'i' :: 'n' :: rest =>
    if !isLetter rest.head? then true
    else "stanceof".toList.isPrefixOf rest && !isLetter (rest.drop 8).head?
  | _ => false

/-- Whether the token that starts a line is the start of a new statement rather than the
continuation of the last one. A bracket continues an expression but not a type. -/
def startsStatement (language : Language) (afterExpression : Bool) : List Char → Bool
  | [] => true
  | '+' :: rest => rest.head? == some '+'
  | '-' :: rest => rest.head? == some '-'
  | '!' :: rest => rest.head? != some '='
  | '.' :: rest => language == .javascript && rest.head?.any Char.isDigit
  | char :: rest =>
    if ['(', '['].contains char then language != .javascript && !afterExpression
    else if ['\x60', ',', ':', ';', '*', '%', '>', '<', '=', '?', '^', '|', '&', '/'].contains char
      then false
    else !startsRelation (char :: rest)

/-- Passes over the comments that start here: whether a line end was passed over, and the text after
the last of them; none if a slash starts no comment. After a line comment a line end has been
passed, unless a block comment without one follows. -/
def passComments : Nat → Bool → List Char → Option (Bool × List Char)
  | fuel + 1, broken, '/' :: '/' :: rest =>
    let after :=
      (rest.dropWhile fun char => !endsLineComment char || char == '\r').dropWhile isBreakableSpace
    if after.head? = some '/' then passComments fuel broken after else some (true, after)
  | fuel + 1, broken, '/' :: '*' :: rest =>
    let after := skipBlanks.afterBlock rest
    let inside := rest.take (rest.length - after.length)
    let broken := broken || inside.any fun char =>
      char == '\n' || char.toNat == 0x2028 || char.toNat == 0x2029
    if after.head? = some '/' then passComments fuel broken after else some (broken, after)
  | _, _, _ => none

/-- Whether a closing brace ends the statement before it: not if a colon follows where an expression
cannot have ended, for then the brace belongs to a pattern with a type. -/
def closes (language : Language) (afterExpression : Bool) (rest : List Char) : Bool :=
  language == .javascript || (rest.dropWhile isBreakableSpace).head? != some ':' || afterExpression

/-- Whether a character ends a line. -/
def isLineFeed (language : Language) (char : Char) : Bool :=
  char == '\n' || (language == .javascript && (char.toNat == 0x2028 || char.toNat == 0x2029))

/-- Whether a semicolon may be left out in front of some text: at the end of the source, before a
closing brace, and before a line that starts a statement. -/
def isImplied (language : Language) (afterExpression : Bool) : Nat → List Char → Bool
  | _, [] => true
  | 0, _ => false
  | fuel + 1, char :: rest =>
    if char = '/' ∧ language = .javascript then
      match passComments (fuel + 1) false (char :: rest) with
      | none => false
      | some (broken, following) =>
        if broken ∧ !afterExpression ∧ following.head? ≠ some ',' ∧
          following.head? ≠ some '=' then true
        else
          match following with
          | [] => false
          | char :: rest => step fuel char rest
    else step fuel char rest
where
  /-- The same in front of a character that starts no comment. -/
  step (fuel : Nat) (char : Char) (rest : List Char) : Bool :=
    if char = '}' then closes language afterExpression rest
    else if isLineFeed language char then
      match skipBlanks (rest.length + 1) rest with
      | (.slash, _) => false
      | (.none, next) => startsStatement language afterExpression next
    else if isBreakableSpace char then isImplied language afterExpression fuel rest
    else false

end Semicolon

namespace Cursor

/-- The number of comments after which a semicolon is implied, if it is anywhere before the next
token. -/
def impliedSemicolon? (language : Language) (afterExpression : Bool)
    (cursor : Cursor) : Option Nat :=
  (cursor.gap :: cursor.ahead.map (·.following)).findIdx? fun chars =>
    Semicolon.isImplied language afterExpression (chars.length + 1) chars

/-- The cursor after the end of a statement: after an implied semicolon, or else after a written
one. -/
def endStatement? (language : Language) (afterExpression : Bool)
    (cursor : Cursor) : Option Cursor :=
  match cursor.impliedSemicolon? language afterExpression with
  | some count => some (cursor.skipComments count)
  | none => if cursor.next.head? = some ';' then some (cursor.advance 1) else none

end Cursor

end TestOutline.Syntax
