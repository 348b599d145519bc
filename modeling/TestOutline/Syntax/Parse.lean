/-
**Parsing.** From a source to its tree. Every source has a tree; where no statement can be read, the
tree holds a node that marks the fault.

* Brackets that are still open at the end make the whole source one fault, in which whatever can be
  read is kept.
* Any other fault is the text up to where statements can be read again.
* Comments are put under the innermost node around them.
-/

import TestOutline.Syntax.Grammar.Element
import TestOutline.Syntax.Grammar.Statement
import TestOutline.Syntax.Tree

namespace TestOutline.Syntax

/-- The rule of each goal. -/
def rule (rules : Rules) : Rules
  | .expression => Grammar.expression rules
  | .assignment typedArrows => Grammar.assignment rules typedArrows
  | .operand => Grammar.operand rules
  | .primary => Grammar.primary rules
  | .statement => Grammar.statement rules
  | .block => Grammar.block rules
  | .pattern => Grammar.pattern rules
  | .element => Grammar.element rules
  | .type => Grammar.type rules

/-- The rules nested to a depth. -/
def rulesOfDepth : Nat → Rules
  | 0 => fun _ => failure
  | depth + 1 => fun goal => rule (rulesOfDepth depth) goal

/-! ### Comments -/

def commentNode (span : Span) : Node := .mk ⟨.comment, none, true, false, span.start, span.stop⟩ []

mutual

/-- The node with comments put where they stand in it. -/
def withComments : Node → List Span → Node
  | .mk head children, comments => .mk head (amongNodes children comments)

/-- Comments put between and inside some nodes. -/
def amongNodes : List Node → List Span → List Node
  | [], comments => comments.map commentNode
  | node :: rest, comments =>
    let ahead := comments.takeWhile fun span => span.stop ≤ node.label.start
    let others := comments.drop ahead.length
    let inside := others.takeWhile fun span => span.stop ≤ node.label.stop
    let behind := others.drop inside.length
    ahead.map commentNode ++ withComments node inside :: amongNodes rest behind

end

/-! ### Faults -/

/-- What a single step over a text is: a string, a template's text, a regular expression, a word, a
number, or one character. -/
def skipLexeme (chars : List Char) : Nat :=
  max 1 (max (Lexeme.string chars) (max (Lexeme.name chars) (Lexeme.number chars)))

/-- The depth of brackets that are open at the end of a text; a closing bracket with no partner
counts for nothing. -/
def openBrackets : Nat → Nat → Cursor → Nat
  | 0, depth, _ => depth
  | fuel + 1, depth, cursor =>
    match cursor.next with
    | [] => depth
    | char :: _ =>
      let depth :=
        if ['(', '[', '\x7b'].contains char then depth + 1
        else if [')', ']', '\x7d'].contains char then depth - 1
        else depth
      openBrackets fuel depth (cursor.advance (skipLexeme cursor.next))

/-- A node for text that fits nowhere. -/
def faultNode (start stop : Nat) (children : List Node) : Node :=
  .mk ⟨.error, none, true, false, start, stop⟩ children

/-- Reads statements, and marks each lexeme at which none starts. -/
def statementsOrFaults (language : Language) (rules : Rules) : Nat → Cursor → List Node × Cursor
  | 0, cursor => ([], cursor)
  | fuel + 1, cursor =>
    if cursor.next.isEmpty then ([], cursor)
    else
      match rules .statement language cursor with
      | some (node, cursor) =>
        let (nodes, cursor) := statementsOrFaults language rules fuel cursor
        (node :: nodes, cursor)
      | none =>
        let skipped := cursor.advance (skipLexeme cursor.next)
        let (nodes, last) := statementsOrFaults language rules fuel skipped
        (faultNode cursor.offset skipped.lastStop [] :: nodes, last)

/-- The cursor at the start of a source, after a line that names its interpreter. -/
def startOf (chars : List Char) : Cursor :=
  match chars with
  | '#' :: '!' :: rest =>
    let line := '#' :: '!' :: rest.takeWhile (· != '\n')
    Cursor.after (chars.drop line.length) (byteLength line) []
  | _ => Cursor.after chars 0 []

/-- The tree of some characters. -/
def parseChars (language : Language) (chars : List Char) : Node :=
  let rules := rulesOfDepth (16 * chars.length + 64)
  let start := startOf chars
  let (nodes, last) := statementsOrFaults language rules (chars.length + 1) start
  let comments := last.commentsSoFar.reverse
  let broken := nodes.any (·.label.kind == .error)
  let first := (comments.head?.map (·.start)).getD start.offset
  let root :=
    if broken && openBrackets (chars.length + 1) 0 start != 0 then
      faultNode (min first start.offset) last.offset (nodes.filter (·.label.kind != .error))
    else
      .mk ⟨.program, none, true, false, min first start.offset, last.offset⟩ nodes
  withComments root comments

end TestOutline.Syntax

namespace TestOutline

namespace SyntaxTree

/-- The reader of sources: it makes a tree of every source. -/
def reader : TreeReader :=
  fun language source => .ok (some (Syntax.parseChars language source.chars))

/-- The tree of a source. -/
def parse (language : Language) (source : Source) : SyntaxTree where
  source := source
  root := Syntax.parseChars language source.chars

end SyntaxTree

end TestOutline
