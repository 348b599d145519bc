/-
**Regions.** The text between two offsets of a source, with comments dropped and indentation removed
as the options ask.

* `Region.withoutComments` — the text outside some comments; a comment alone on its line takes the
  line with it.
* `Region.dedent` — the lines without the indentation that all of them share.
* `Region.text` — the text of a region under the options.
-/

import TestOutline.Outline.Options
import TestOutline.Text.Lines

namespace TestOutline.Region

/-! ### Comments -/

/-- The offset at which the line of an offset starts. -/
def lineStartBefore (text : Text) (offset : Nat) : Nat :=
  offset - ((text.take offset).reverse.takeWhile (· != Text.lineFeed)).length

/-- Whether a comment stands alone on its line, as far as the region from `start` to `stop` shows
it. -/
def standsAlone (text : Text) (start stop : Nat) (comment : Nat × Nat) : Bool :=
  let lineStart := lineStartBefore text comment.1
  start ≤ lineStart && (text.slice lineStart comment.1).isBlank &&
    (comment.2 == stop || text[comment.2]? == some Text.lineFeed)

/-- What is cut out for a comment: its line with the line feed if it stands alone there, else the
comment. -/
def cut (text : Text) (start stop : Nat) (comment : Nat × Nat) : Nat × Nat :=
  if standsAlone text start stop comment then
    (lineStartBefore text comment.1, min (comment.2 + 1) stop)
  else comment

/-- The text from `start` to `stop` without the comments that lie there. -/
def withoutComments (text : Text) (start stop : Nat) : List (Nat × Nat) → Text
  | [] => text.slice start stop
  | comment :: rest =>
    if comment.1 < start ∨ stop < comment.2 then withoutComments text start stop rest
    else
      let gap := cut text start stop comment
      text.slice start gap.1 ++ withoutComments text gap.2 stop rest

/-! ### Indentation -/

def isIndent (point : CodePoint) : Bool := point == .scalar ' ' || point == .scalar '\t'

/-- What two texts both start with. -/
def commonStart : Text → Text → Text
  | first :: rest, other :: others => if first = other then first :: commonStart rest others else []
  | _, _ => []

/-- The indentation of each line that holds something else. -/
def indents (lines : List Text) : List Text :=
  (lines.filter fun line => !line.all isIndent).map fun line => line.takeWhile isIndent

/-- The indentation that all lines share. -/
def margin (lines : List Text) : Text :=
  match indents lines with
  | [] => []
  | first :: rest => rest.foldl commonStart first

/-- The lines without the indentation that all of them share; lines of nothing else become empty. -/
def dedent (lines : List Text) : List Text :=
  let width := (margin lines).length
  lines.map fun line => if line.all isIndent then [] else line.drop width

/-- The text with its lines moved to the left and without blanks at their ends. -/
def reformat (text : Text) : Text :=
  Text.join [Text.lineFeed] ((dedent text.lines).map Text.stripEnd)

/-! ### Regions under options -/

/-- The text of a region under the options, before the blanks at its two ends are dropped. -/
def untrimmed (options : Options) (text : Text) (comments : List (Nat × Nat))
    (start stop : Nat) : Text :=
  let kept :=
    if options.includeComments then text.slice start stop
    else withoutComments text start stop comments
  if options.preserveFormatting then kept else reformat kept

/-- The text of a region under the options. -/
def text (options : Options) (text : Text) (comments : List (Nat × Nat)) (start stop : Nat)
    (trimmed : Bool) : Text :=
  let kept := untrimmed options text comments start stop
  if trimmed then kept.strip else kept

end TestOutline.Region
