/-
**Candidates.** The calls in a source that declare suites, tests and hooks.

* `Candidate.collect` — the candidates of a tree, in the order in which its nodes are visited.
-/

import TestOutline.Outline.Region
import TestOutline.Syntax.StringLiteral
import TestOutline.Syntax.Tree

namespace TestOutline

/-- What a call of the test framework declares. -/
inductive CallKind where
  | block (kind : BlockKind)
  | hook (kind : HookKind)
  deriving DecidableEq, Repr, Inhabited

namespace CallKind

def isHook : CallKind → Bool
  | .block _ => false
  | .hook _ => true

def word : CallKind → String
  | .block kind => kind.word
  | .hook kind => kind.word

/-- The functions of the test framework with what a call of them declares. -/
def callees : List (String × CallKind) := [
  ("describe", .block .suite), ("suite", .block .suite), ("it", .block .test),
    ("test", .block .test),
  ("before", .hook .before), ("after", .hook .after), ("beforeEach", .hook .beforeEach),
  ("afterEach", .hook .afterEach)]

/-- What a call of a function declares, by the name of the function. -/
def ofCallee? (name : Text) : Option CallKind :=
  (callees.find? fun callee => Text.ofString callee.1 == name).map (·.2)

end CallKind

/-- A call that declares a suite, a test or a hook. -/
structure Candidate where
  kind : CallKind
  name : Text
  /-- The body of the function, as the options want it. -/
  body : Text
  fullText : Text
  startOffset : Int
  endOffset : Int
  line : Int
  isAsync : Bool
  /-- The body of the function as it is written; empty for a hook. -/
  rawBody : Text
  deriving DecidableEq, Repr, Inhabited

/-- A candidate on a line that is of the wrong kind for what is to be done with it. -/
inductive KindFault where
  | cannotClassify (line : Int)
  | noHook (line : Int) (found : BlockKind)
  | noBlock (line : Int) (found : HookKind)
  deriving DecidableEq, Repr

def KindFault.message : KindFault → Text
  | .cannotClassify line => "Cannot classify hook at line " ++ Text.ofInt line
  | .noHook line found =>
    "Expected a hook at line " ++ Text.ofInt line ++ ", got " ++ Text.ofString found.word
  | .noBlock line found =>
    "Expected a suite or test at line " ++ Text.ofInt line ++ ", got " ++ Text.ofString found.word

namespace SyntaxTree

/-- The text of a region under the options. -/
def region (options : Options) (tree : SyntaxTree) (start stop : Nat) (trimmed : Bool) : Text :=
  Region.text options tree.source.text tree.commentRanges start stop trimmed

/-- The name that a call gives its function, if it is a plain name. -/
def calleeName? (tree : SyntaxTree) (call : Node) : Option Text :=
  match call.child? .function with
  | some callee => if callee.kind = .identifier then some (tree.text callee) else none
  | none => none

/-- What a node declares if it is a call of the test framework. -/
def callKind? (tree : SyntaxTree) (node : Node) : Option CallKind :=
  if node.kind = .call then (tree.calleeName? node).bind CallKind.ofCallee? else none

/-- The text that a string literal stands for. -/
def stringValue (tree : SyntaxTree) (node : Node) : Except StringLiteral.Fault Text :=
  StringLiteral.value (tree.text node)

end SyntaxTree

namespace Node

/-- The arguments of a call, without comments. -/
def callArguments (call : Node) : List Node :=
  match call.child? .arguments with
  | some arguments => arguments.namedChildren.filter (·.label.kind != .comment)
  | none => []

/-- Whether the node is a function as a value. -/
def isFunction (node : Node) : Bool :=
  node.kind == .arrowFunction || node.kind == .functionExpression

/-- Whether the node is a function marked as asynchronous. -/
def isAsync (node : Node) : Bool := node.children.any (·.label.kind == .asyncKeyword)

end Node

namespace Candidate

def isHook (candidate : Candidate) : Bool := candidate.kind.isHook

def isSuite (candidate : Candidate) : Bool := candidate.kind == .block .suite

def isTest (candidate : Candidate) : Bool := candidate.kind == .block .test

/-- The body of a function under the options: what stands between its braces, or the expression that
it gives back. -/
def functionBody (options : Options) (tree : SyntaxTree) (function : Node) : Text :=
  match function.child? .body with
  | none => []
  | some body =>
    if body.kind = .statementBlock then
      tree.region options (tree.start body + 1) (tree.stop body - 1) true
    else tree.region options (tree.start body) (tree.stop body) false

/-- The body of a function as it is written. -/
def rawFunctionBody (tree : SyntaxTree) (function : Node) : Text :=
  match function.child? .body with
  | none => []
  | some body => tree.text body

/-- The candidate that a call makes with a name and a function. -/
def ofCall (options : Options) (tree : SyntaxTree) (call : Node) (kind : CallKind) (name : Text)
    (function : Node) : Candidate where
  kind := kind
  name := name
  body := functionBody options tree function
  fullText := tree.text call
  startOffset := tree.start call
  endOffset := tree.stop call
  line := tree.lineNumber call
  isAsync := kind != .block .suite && function.isAsync
  rawBody := if kind.isHook then [] else rawFunctionBody tree function

/-- The suite or the test of a call: its first two arguments are a string and a function. -/
def ofBlockCall (options : Options) (tree : SyntaxTree) (call : Node) (kind : BlockKind) :
    Except StringLiteral.Fault (Option Candidate) :=
  match call.callArguments with
  | name :: function :: _ =>
    if name.kind = .string ∧ function.isFunction then do
      let name ← tree.stringValue name
      return some (ofCall options tree call (.block kind) name function)
    else return none
  | _ => return none

/-- The hook of a call: its first argument is a function, perhaps behind a string. -/
def ofHookCall (options : Options) (tree : SyntaxTree) (call : Node) (kind : HookKind) :
    Except StringLiteral.Fault (Option Candidate) :=
  match call.callArguments with
  | [] => return none
  | first :: rest =>
    if first.kind = .string then do
      let name ← tree.stringValue first
      return (rest.head?.filter Node.isFunction).map (ofCall options tree call (.hook kind) name)
    else
      return (some first |>.filter Node.isFunction).map (ofCall options tree call (.hook kind) [])

/-- The candidate at a node, if there is one. -/
def ofNode (options : Options) (tree : SyntaxTree) (node : Node) :
    Except StringLiteral.Fault (Option Candidate) :=
  match tree.callKind? node with
  | some (.block kind) => ofBlockCall options tree node kind
  | some (.hook kind) => ofHookCall options tree node kind
  | none => return none

/-- The candidates at some nodes. -/
def ofNodes (options : Options) (tree : SyntaxTree) :
    List Node → Except StringLiteral.Fault (List Candidate)
  | [] => return []
  | node :: rest => do
    let found ← ofNode options tree node
    let others ← ofNodes options tree rest
    return found.toList ++ others

/-- The candidates of a tree, in the order in which its nodes are visited. -/
def collect (options : Options) (tree : SyntaxTree) : Except StringLiteral.Fault (List Candidate) :=
  ofNodes options tree tree.root.walk

end Candidate

end TestOutline
