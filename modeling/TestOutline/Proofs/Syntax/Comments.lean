/-
**Trees with more comments.**

Comments are put into a tree: each node of the first tree has a node of the second that stands for
it, in the same order and in the same roles, and what else there is in the second are comments. The
two trees are read from different sources, so that nothing stands where it stood, but names and
string literals read the same.

* `Padded`: a list whose members stand for those of another one, with extras anywhere between them.
* `rel_filter`, `rel_bind`, `map_eq_of_rel` and others: what is made of a value that stands for
  another one, if there is one.
* `Node.Commented`: a node with comments put in; `Node.Commented.preorder` does the same for the
  nodes that are visited.
* `Node.Commented.child?`, `Node.Commented.childOfKind?`: what is looked up by its role or its kind
  is found again.
* `SyntaxTree.callKind?_commented`: the calls of the test framework are still such calls.
-/

import Mathlib.Data.List.Forall2
import TestOutline.Outline.Imports

namespace TestOutline

/-! ### Lists with extras -/

/-- The second list holds, in order, what stands for the members of the first one, and extras. -/
inductive Padded {α β : Type} (isExtra : β → Prop) (alike : α → β → Prop) : List α → List β → Prop
  | nil : Padded isExtra alike [] []
  | same {first : α} {second : β} {rest : List α} {others : List β} :
      alike first second → Padded isExtra alike rest others →
        Padded isExtra alike (first :: rest) (second :: others)
  | extra {added : β} {rest : List α} {others : List β} :
      isExtra added → Padded isExtra alike rest others → Padded isExtra alike rest (added :: others)

namespace Padded

variable {α β γ : Type} {isExtra : β → Prop} {alike : α → β → Prop} {left : List α} {right : List β}

theorem append (padded : Padded isExtra alike left right) {moreLeft : List α} {moreRight : List β}
    (more : Padded isExtra alike moreLeft moreRight) :
    Padded isExtra alike (left ++ moreLeft) (right ++ moreRight) := by
  induction padded with
  | nil => exact more
  | same here _ ih => exact .same here ih
  | extra here _ ih => exact .extra here ih

section Tests

variable {holdsLeft : α → Bool} {holdsRight : β → Bool}
  (same : ∀ first second, alike first second → holdsLeft first = holdsRight second)

include same

theorem filter (padded : Padded isExtra alike left right) :
    Padded isExtra alike (left.filter holdsLeft) (right.filter holdsRight) := by
  induction padded with
  | nil => exact .nil
  | same here _ ih =>
    rw [List.filter_cons, List.filter_cons, same _ _ here]
    split
    · exact .same here ih
    · exact ih
  | extra here _ ih =>
    rw [List.filter_cons]
    split
    · exact .extra here ih
    · exact ih

variable (rejects : ∀ added, isExtra added → holdsRight added = false)

include rejects

/-- A test that no extra passes leaves lists of the same length. -/
theorem forall₂_filter (padded : Padded isExtra alike left right) :
    List.Forall₂ alike (left.filter holdsLeft) (right.filter holdsRight) := by
  induction padded with
  | nil => exact .nil
  | same here _ ih =>
    rw [List.filter_cons, List.filter_cons, same _ _ here]
    split
    · exact .cons here ih
    · exact ih
  | extra here _ ih =>
    rw [List.filter_cons, rejects _ here]
    exact ih

/-- What is found by a test that no extra passes stands for what is found in the other list. -/
theorem find? (padded : Padded isExtra alike left right) :
    Option.Rel alike (left.find? holdsLeft) (right.find? holdsRight) := by
  induction padded with
  | nil => exact .none
  | same here _ ih =>
    rw [List.find?_cons, List.find?_cons, same _ _ here]
    split
    · exact .some here
    · exact ih
  | extra here _ ih =>
    rw [List.find?_cons, rejects _ here]
    exact ih

theorem any_eq (padded : Padded isExtra alike left right) :
    left.any holdsLeft = right.any holdsRight := by
  induction padded with
  | nil => rfl
  | same here _ ih => rw [List.any_cons, List.any_cons, same _ _ here, ih]
  | extra here _ ih => rw [List.any_cons, rejects _ here, ih, Bool.false_or]

end Tests

end Padded

/-! ### Values that may be missing -/

section Missing

variable {α β γ δ : Type} {alike : α → β → Prop} {left : Option α} {right : Option β}

theorem rel_and_left {holds : α → Prop} (found : Option.Rel alike left right)
    (every : ∀ one, left = some one → holds one) :
    Option.Rel (fun first second => holds first ∧ alike first second) left right := by
  cases found with
  | none => exact .none
  | some here => exact .some ⟨every _ rfl, here⟩

theorem rel_filter {holdsLeft : α → Bool} {holdsRight : β → Bool}
    (found : Option.Rel alike left right)
    (same : ∀ first second, alike first second → holdsLeft first = holdsRight second) :
    Option.Rel (fun first second => holdsLeft first = true ∧ alike first second)
      (left.filter holdsLeft)
      (right.filter holdsRight) := by
  cases found with
  | none => exact .none
  | some here =>
    rw [Option.filter_some, Option.filter_some, ← same _ _ here]
    split
    · next passes => exact .some ⟨passes, here⟩
    · exact .none

theorem rel_bind {later : γ → δ → Prop} {first : α → Option γ} {second : β → Option δ}
    (found : Option.Rel alike left right)
    (finds : ∀ one other, alike one other → Option.Rel later (first one) (second other)) :
    Option.Rel later (left.bind first) (right.bind second) := by
  cases found with
  | none => exact .none
  | some here => exact finds _ _ here

theorem map_eq_of_rel {first : α → γ} {second : β → γ} (found : Option.Rel alike left right)
    (same : ∀ one other, alike one other → first one = second other) :
    left.map first = right.map second := by
  cases found with
  | none => rfl
  | some here => exact congrArg some (same _ _ here)

theorem bind_eq_of_rel {first : α → Option γ} {second : β → Option γ}
    (found : Option.Rel alike left right)
    (same : ∀ one other, alike one other → first one = second other) :
    left.bind first = right.bind second := by
  cases found with
  | none => rfl
  | some here => exact same _ _ here

/-- What holds of a value holds of the one that stands for it. -/
theorem any_of_rel {holdsLeft : α → Bool} {holdsRight : β → Bool}
    (found : Option.Rel alike left right)
    (implies : ∀ one other, alike one other → holdsLeft one = true → holdsRight other = true)
    (holds : left.any holdsLeft = true) : right.any holdsRight = true := by
  cases found with
  | none => exact holds
  | some here => exact implies _ _ here holds

theorem any_eq_of_rel {holdsLeft : α → Bool} {holdsRight : β → Bool}
    (found : Option.Rel alike left right)
    (same : ∀ one other, alike one other → holdsLeft one = holdsRight other) :
    left.any holdsLeft = right.any holdsRight := by
  cases found with
  | none => rfl
  | some here => exact same _ _ here

end Missing

/-! ### Nodes with comments put in -/

/-- A comment between other nodes: a proper node in no role, with nothing in it. -/
structure Node.IsComment (node : Node) : Prop where
  kind : node.label.kind = .comment
  field : node.label.field = none
  isNamed : node.label.isNamed = true
  children : node.children = []

theorem Node.IsComment.otherKind {node : Node} (comment : node.IsComment) {kind : NodeKind}
    (other : kind ≠ .comment) :
    (node.label.kind == kind) = false := by
  rw [comment.kind]
  exact beq_false_of_ne other.symm

/-- Heads that agree in all but where their nodes stand. -/
structure NodeHead.Alike (first second : NodeHead) : Prop where
  kind : first.kind = second.kind
  field : first.field = second.field
  isNamed : first.isNamed = second.isNamed
  isMissing : first.isMissing = second.isMissing

/-- The kinds of names and string literals. -/
def NodeKind.isWord (kind : NodeKind) : Bool :=
  kind == .identifier || kind == .typeIdentifier || kind == .string

/-- The same words: names and string literals read the same in two trees, and so do the names that a
node takes from another module, whatever these are made of. -/
structure Node.SameWords (plain commented : SyntaxTree) (first second : Node) : Prop where
  word : first.kind.isWord = true → plain.text first = commented.text second
  taken : first.kind = .importSpecifier → ∀ field ∈ [NodeField.alias, NodeField.name],
    (first.child? field).map plain.text = (second.child? field).map commented.text

/-- A node with comments put in, anywhere in it. -/
inductive Node.Commented (plain commented : SyntaxTree) : Node → Node → Prop
  | mk {first second : NodeHead} {children others : List Node} :
      first.Alike second → Node.SameWords plain commented (.mk first children) (.mk second others) →
        Padded Node.IsComment (Node.Commented plain commented) children others →
          Node.Commented plain commented (.mk first children) (.mk second others)

/-- A tree with comments put in, and another source. -/
def SyntaxTree.Commented (plain commented : SyntaxTree) : Prop :=
  Node.Commented plain commented plain.root commented.root

namespace Node.Commented

variable {plain commented : SyntaxTree} {first second : Node}

theorem alike (related : Commented plain commented first second) :
    first.label.Alike second.label := by
  cases related with
  | mk alike _ _ => exact alike

theorem sameWords (related : Commented plain commented first second) :
    SameWords plain commented first second := by
  cases related with
  | mk _ sameWords _ => exact sameWords

theorem children (related : Commented plain commented first second) :
    Padded IsComment (Commented plain commented) first.children second.children := by
  cases related with
  | mk _ _ padded => exact padded

theorem kind (related : Commented plain commented first second) :
    first.kind = second.kind := related.alike.kind

theorem namedChildren (related : Commented plain commented first second) :
    Padded IsComment (Commented plain commented) first.namedChildren second.namedChildren :=
  related.children.filter fun _ _ related => related.alike.isNamed

theorem child? (field : NodeField) (related : Commented plain commented first second) :
    Option.Rel (Commented plain commented) (first.child? field) (second.child? field) := by
  refine related.children.find? (fun _ _ related => ?_) fun added comment => ?_
  · rw [related.alike.field]
  · rw [comment.field]
    rfl

theorem sameKind (related : Commented plain commented first second) (kind : NodeKind) :
    (first.label.kind == kind) = (second.label.kind == kind) := by
  rw [related.alike.kind]

theorem childOfKind? {kind : NodeKind} (proper : kind ≠ .comment)
    (related : Commented plain commented first second) :
    Option.Rel (Commented plain commented) (SyntaxTree.childOfKind? kind first)
      (SyntaxTree.childOfKind? kind second) :=
  related.namedChildren.find? (fun _ _ related => related.sameKind kind) fun _ comment =>
    comment.otherKind proper

theorem text_eq (related : Commented plain commented first second)
    (word : first.kind.isWord = true) :
    plain.text first = commented.text second := related.sameWords.word word

theorem isFunction_eq (related : Commented plain commented first second) :
    first.isFunction = second.isFunction := by
  unfold isFunction
  rw [related.kind]

theorem isAsync_eq (related : Commented plain commented first second) :
    first.isAsync = second.isAsync :=
  related.children.any_eq (fun _ _ related => related.sameKind _) fun _ comment =>
    comment.otherKind (by decide)

/-- **Arguments of a call** are the same, since comments are no arguments. -/
theorem callArguments (related : Commented plain commented first second) :
    List.Forall₂ (Commented plain commented) first.callArguments second.callArguments := by
  have found := related.child? .arguments
  unfold Node.callArguments
  generalize first.child? .arguments = left at found ⊢
  generalize second.child? .arguments = right at found ⊢
  cases found with
  | none => exact .nil
  | some related =>
    refine related.namedChildren.forall₂_filter (fun _ _ related => ?_) fun _ comment => ?_
    · rw [related.alike.kind]
    · rw [comment.kind]
      rfl

end Node.Commented

/-! ### Visits -/

mutual

/-- **The nodes that are visited** in the second tree are those that are visited in the first one,
and comments. -/
theorem Node.Commented.preorder {plain commented : SyntaxTree} : (second : Node) → {first : Node} →
    Node.Commented plain commented first second →
      Padded Node.IsComment (Node.Commented plain commented) (Tree.preorder first)
        (Tree.preorder second)
  | .mk head others, .mk _ _, related => by
    rw [Tree.preorder, Tree.preorder]
    exact .same related (Node.Commented.preorderAll others related.children)

theorem Node.Commented.preorderAll {plain commented : SyntaxTree} :
    (others : List Node) → {children : List Node} →
      Padded Node.IsComment (Node.Commented plain commented) children others →
        Padded Node.IsComment (Node.Commented plain commented) (Tree.preorderAll children)
          (Tree.preorderAll others)
  | [], [], _ => by
    rw [Tree.preorderAll]
    exact .nil
  | other :: rest, children, padded => by
    rw [Tree.preorderAll]
    cases padded with
    | same here behind =>
      rw [Tree.preorderAll]
      exact (Node.Commented.preorder other here).append (Node.Commented.preorderAll rest behind)
    | extra comment behind =>
      rw [Tree.preorder_eq, comment.children, Tree.preorderAll]
      exact .extra comment (Node.Commented.preorderAll rest behind)

end

/-! ### Calls of the test framework -/

namespace SyntaxTree

variable {plain commented : SyntaxTree} {first second : Node}

theorem calleeName?_commented (related : Node.Commented plain commented first second) :
    plain.calleeName? first = commented.calleeName? second := by
  have found := related.child? .function
  unfold calleeName?
  generalize first.child? .function = left at found ⊢
  generalize second.child? .function = right at found ⊢
  cases found with
  | none => rfl
  | some related =>
    simp only
    rw [related.kind]
    split
    · next name => rw [related.text_eq (by rw [related.kind, name]; rfl)]
    · rfl

/-- **What a node declares** does not change with comments. -/
theorem callKind?_commented (related : Node.Commented plain commented first second) :
    plain.callKind? first = commented.callKind? second := by
  unfold callKind?
  rw [related.kind, calleeName?_commented related]

theorem callKind?_comment {added : Node} (comment : added.kind = .comment) (tree : SyntaxTree) :
    tree.callKind? added = none := by
  unfold callKind?
  rw [comment]
  rfl

theorem stringValue_commented (related : Node.Commented plain commented first second)
    (isString : first.kind = .string) : plain.stringValue first = commented.stringValue second := by
  unfold stringValue
  rw [related.text_eq (by rw [isString]; rfl)]

end SyntaxTree

end TestOutline
