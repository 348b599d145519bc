/-
**Syntax nodes.** A concrete syntax tree whose nodes know their bytes, their role in the parent and
their kind.
-/

import TestOutline.Tree

namespace TestOutline

/-- What a node stands for, as far as the outline asks. -/
inductive NodeKind where
  | program
  | call
  | arguments
  | arrowFunction
  | functionExpression
  | statementBlock
  | string
  | identifier
  | typeIdentifier
  | importStatement
  | importClause
  | namespaceImport
  | namedImports
  | importSpecifier
  | exportStatement
  | lexicalDeclaration
  | variableDeclaration
  | variableDeclarator
  | functionDeclaration
  | classDeclaration
  | typeDeclaration
  | expressionStatement
  | awaitExpression
  | parenthesized
  | asyncKeyword
  | typeKeyword
  | comment
  | error
  | other
  deriving DecidableEq, Repr, Inhabited

/-- The role of a node in its parent. -/
inductive NodeField where
  | function
  | arguments
  | body
  | name
  | alias
  | value
  | declaration
  | source
  deriving DecidableEq, Repr

/-- What a node says of itself: its kind, its role, whether it is a proper node rather than a
keyword, whether it stands for something that is missing, and its bytes. -/
structure NodeHead where
  kind : NodeKind
  field : Option NodeField
  isNamed : Bool
  isMissing : Bool
  start : Nat
  stop : Nat
  deriving DecidableEq, Repr, Inhabited

/-- A node with its children in the order of the source. -/
abbrev Node := Tree NodeHead

/-- Whether the node marks broken source: text that fits nowhere, or something that is missing. -/
def NodeHead.isFault (head : NodeHead) : Bool := head.kind == .error || head.isMissing

namespace Node

def kind (node : Node) : NodeKind := node.label.kind

/-- The first byte. -/
def start (node : Node) : Nat := node.label.start

/-- The byte after the last one. -/
def stop (node : Node) : Nat := node.label.stop

/-- The children that are proper nodes. -/
def namedChildren (node : Node) : List Node := node.children.filter (·.label.isNamed)

/-- The first child in a role. -/
def child? (field : NodeField) (node : Node) : Option Node :=
  node.children.find? fun child => child.label.field == some field

/-- The node in a role. -/
def as (field : NodeField) (node : Node) : Node :=
  .mk { node.label with field := some field } node.children

/-- The node and its descendants in the order in which they are visited. -/
def walk (root : Node) : List Node := Tree.walk [root]

end Node

end TestOutline
