/-
**Imports and shared code.** The statements at the top of a source that import names or declare
something that is no test.

* `SyntaxTree.imports` — the imports, in order.
* `SyntaxTree.sharedCode` — the declarations that the options ask for, in order.
-/

import TestOutline.Outline.Candidate

namespace TestOutline

namespace SyntaxTree

/-! ### Imports -/

/-- The local name of an imported one: its alias if it has one. -/
def localName? (tree : SyntaxTree) (specifier : Node) : Option Text :=
  ((specifier.child? .alias).or (specifier.child? .name)).map tree.text

/-- A name added to others unless it is among them. -/
def addName (names : List Text) (name : Text) : List Text :=
  if names.contains name then names else names ++ [name]

/-- The local names that braces bring in. -/
def localNames (tree : SyntaxTree) (braces : Node) : List Text :=
  (braces.namedChildren.filter (·.label.kind == .importSpecifier)).filterMap tree.localName?

/-- The first child of a kind. -/
def childOfKind? (kind : NodeKind) (node : Node) : Option Node :=
  node.namedChildren.find? (·.label.kind == kind)

/-- The parts of a kind in the clause of an import. -/
def clauseParts (kind : NodeKind) (statement : Node) : List Node :=
  (((childOfKind? .importClause statement).map Node.namedChildren).getD []).filter
    (·.label.kind == kind)

/-- The import that a statement makes, if it names a module. Names in braces count once; of other
names the last one counts. -/
def importOf? (tree : SyntaxTree) (statement : Node) : Except StringLiteral.Fault (Option Import) :=
  match (statement.child? .source).filter (·.label.kind == .string) with
  | none => return none
  | some source => do
    let moduleName ← tree.stringValue source
    return some {
      moduleName := moduleName
      named := ((clauseParts .namedImports statement).flatMap tree.localNames).foldl addName []
      defaultName := (clauseParts .identifier statement).getLast?.map tree.text
      wholeName :=
        ((clauseParts .namespaceImport statement).filterMap (childOfKind? .identifier)).getLast?.map
          tree.text
      isTypeOnly := statement.children.any (·.label.kind == .typeKeyword)
      line := tree.lineNumber statement
      fullText := tree.text statement }

def importsOf (tree : SyntaxTree) : List Node → Except StringLiteral.Fault (List Import)
  | [] => return []
  | statement :: rest => do
    let found ← importOf? tree statement
    let others ← importsOf tree rest
    return found.toList ++ others

/-- The imports of a source. -/
def imports (tree : SyntaxTree) : Except StringLiteral.Fault (List Import) :=
  tree.importsOf (tree.root.namedChildren.filter (·.label.kind == .importStatement))

/-! ### Shared code -/

/-- What a statement declares: the statement itself, or what it exports. -/
def declarationOf? (statement : Node) : Option Node :=
  if statement.kind = .exportStatement then statement.child? .declaration else some statement

/-- What kind of shared code a node is. -/
def sharedKind? (node : Node) : Option SharedKind :=
  match node.kind with
  | .lexicalDeclaration => some .values
  | .variableDeclaration => some .values
  | .functionDeclaration => some .function
  | .classDeclaration => some .objectClass
  | .typeDeclaration => some .typeName
  | _ => none

/-- Whether the options ask for a kind of shared code. -/
def isWanted (options : Options) : SharedKind → Bool
  | .values => true
  | .function => options.extractHelpers
  | .objectClass => options.extractHelpers
  | .typeName => options.extractTypes

/-- The first of the variables that a node declares. -/
def firstVariable? (declaration : Node) : Option Node :=
  childOfKind? .variableDeclarator declaration

/-- The value inside parentheses and after `await`. With a comment first in it, such a node is as
good as empty. -/
def innermostValue : Node → Option Node
  | .mk head children =>
    if head.kind = .awaitExpression ∨ head.kind = .parenthesized then
      firstProper children
    else some (.mk head children)
where
  /-- The value of the first child that is a proper node. -/
  firstProper : List Node → Option Node
    | [] => none
    | child :: rest => if child.label.isNamed then innermostValue child else firstProper rest

/-- Whether the first of the variables that a node declares is what a call of the test framework
gives back. -/
def holdsTestCall (tree : SyntaxTree) (declaration : Node) : Bool :=
  (((firstVariable? declaration).bind (Node.child? .value)).bind innermostValue).any fun value =>
    (tree.callKind? value).isSome

/-- The name that a node declares, if it is a plain one. -/
def declaredName? (tree : SyntaxTree) (declaration : Node) (kind : SharedKind) : Option Text :=
  let owner := if kind = .values then firstVariable? declaration else some declaration
  ((owner.bind (Node.child? .name)).filter fun name =>
    name.kind == .identifier || name.kind == .typeIdentifier).map tree.text

/-- The shared code that a statement holds, if the options ask for it. -/
def sharedCodeOf? (options : Options) (tree : SyntaxTree)
    (statement : Node) : Option SharedCode := do
  let declaration ← declarationOf? statement
  let kind ← sharedKind? declaration
  if !isWanted options kind || (kind == .values && tree.holdsTestCall declaration) then none
  else
    let start := tree.start statement
    let stop := tree.stop statement
    return {
      kind := kind
      name := tree.declaredName? declaration kind
      body := tree.region options start stop true
      line := tree.lineNumber statement
      range := tree.source.range start stop }

/-- The shared code of a source. -/
def sharedCode (options : Options) (tree : SyntaxTree) : List SharedCode :=
  tree.root.namedChildren.filterMap (tree.sharedCodeOf? options)

end SyntaxTree

end TestOutline
