/-
**Syntax trees.** A source with the tree of its nodes; comments and faults in the order of the
source.

* `SyntaxTree.read` — the tree that a reader makes of a source, or why it makes none.
* `SyntaxTree.commentRanges` — where the comments are, in characters.
* `SyntaxTree.firstFaultLine?` — the line of the first node that marks broken source.
-/

import TestOutline.Source.Basic
import TestOutline.Syntax.Language
import TestOutline.Syntax.Node

namespace TestOutline

/-- A source and the tree of its nodes. -/
structure SyntaxTree where
  source : Source
  root : Node

/-- Why a reader of sources gives up: what it says, and what it is called if it says nothing. -/
structure ReaderFault where
  text : Text
  name : Text
  deriving DecidableEq, Repr

def ReaderFault.message (fault : ReaderFault) : Text :=
  if fault.text.isEmpty then fault.name else fault.text

/-- What reads sources of a language: it makes the root of a tree, or nothing at all, or gives
up. -/
abbrev TreeReader := Language → Source → Except ReaderFault (Option Node)

namespace SyntaxTree

/-- The tree that a reader makes of a source, or why there is none. -/
def read (reader : TreeReader) (language : Language) (source : Source) : Except Text SyntaxTree :=
  match reader language source with
  | .error fault => .error fault.message
  | .ok none => .error "parser returned no syntax tree"
  | .ok (some root) => .ok ⟨source, root⟩

theorem source_of_read {reader : TreeReader} {language : Language} {source : Source}
    {tree : SyntaxTree} (made : read reader language source = .ok tree) : tree.source = source := by
  unfold read at made
  split at made
  · cases made
  · cases made
  · cases made
    rfl

/-- The offset of the first character of a node. -/
def start (tree : SyntaxTree) (node : Node) : Nat := tree.source.charOffset node.start

/-- The offset after the last character of a node. -/
def stop (tree : SyntaxTree) (node : Node) : Nat := tree.source.charOffset node.stop

def text (tree : SyntaxTree) (node : Node) : Text :=
  tree.source.slice (tree.start node) (tree.stop node)

/-- The number of the line on which a node starts: one more than the line feeds among the bytes
before it. -/
def lineNumber (tree : SyntaxTree) (node : Node) : Nat :=
  1 + (tree.source.bytes.take node.start).count 0x0A

/-- The ranges of the comments. -/
def commentRanges (tree : SyntaxTree) : List (Nat × Nat) :=
  (tree.root.walk.filter (·.label.kind == .comment)).map fun node =>
    (tree.start node, tree.stop node)

/-- Whether some node marks broken source. -/
def hasFault (tree : SyntaxTree) : Bool := tree.root.walk.any (·.label.isFault)

/-- The line of the first node that marks broken source. -/
def firstFaultLine? (tree : SyntaxTree) : Option Nat :=
  (tree.root.walk.find? (·.label.isFault)).map tree.lineNumber

end SyntaxTree

end TestOutline
