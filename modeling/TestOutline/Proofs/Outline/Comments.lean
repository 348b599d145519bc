/-
**What comments change in an outline.**

A tree is compared with one that has more comments. Suites, tests, hooks and imports are told alike,
as far as this does not depend on where they stand. Shared code is told alike but for one thing: a
variable that holds what a call of the test framework gives back is shared code if a comment stands
first in the parentheses, or behind the `await`, around the call.

The search for the value of a variable takes the first proper node inside parentheses, be it a
comment, where the bare value takes the first that is none. So the two differ where a comment stands
first, and the search then finds no call.

* `Candidate.collect_commented`, `SyntaxTree.imports_commented`: candidates and imports are told
  alike.
* `Node.bareValue`, `Node.hasCommentFirst`: the value without what is around it, and whether a
  comment hides it; `SyntaxTree.findsValue_innermost`: what the search finds.
* `SyntaxTree.added?_eq`, `SyntaxTree.sharedCode_commented`: what a statement adds to the shared
  code, and what comments add.
* `comments_show`: all of it.
-/

import TestOutline.Proofs.Outline.Outcome
import TestOutline.Proofs.Returns
import TestOutline.Proofs.Syntax.Comments

namespace TestOutline

/-- What a candidate is, apart from where it stands and from what is written in it. -/
def Candidate.signature (candidate : Candidate) : CallKind × Text × Bool :=
  (candidate.kind, candidate.name, candidate.isAsync)

/-- What an import brings in. -/
def Import.signature (found : Import) : Text × List Text × Option Text × Option Text × Bool :=
  (found.moduleName, found.named, found.defaultName, found.wholeName, found.isTypeOnly)

/-- What a piece of shared code declares. -/
def SharedCode.signature (code : SharedCode) : SharedKind × Option Text := (code.kind, code.name)

/-- Functions that agree on members that stand for each other give the same list. -/
theorem map_eq_of_forall₂ {α β γ : Type} {alike : α → β → Prop} {left : List α} {right : List β}
    {first : α → γ} {second : β → γ} (pairs : List.Forall₂ alike left right)
    (same : ∀ one other, alike one other → first one = second other) :
    left.map first = right.map second := by
  have mapped : List.Forall₂ Eq (left.map first) (right.map second) := List.rel_map same pairs
  rwa [List.forall₂_eq_eq_eq] at mapped

theorem filterMap_eq_of_forall₂ {α β γ : Type} {alike : α → β → Prop} {left : List α}
    {right : List β} {first : α → Option γ} {second : β → Option γ}
    (pairs : List.Forall₂ alike left right)
    (same : ∀ one other, alike one other → first one = second other) :
    left.filterMap first = right.filterMap second := by
  calc left.filterMap first = (left.map first).filterMap id := by rw [List.filterMap_map]; rfl
    _ = (right.map second).filterMap id := by rw [map_eq_of_forall₂ pairs same]
    _ = right.filterMap second := by rw [List.filterMap_map]; rfl

variable {options : Options} {plain commented : SyntaxTree} {first second : Node}

/-! ### Candidates -/

namespace Candidate

theorem signature_ofCall {kind : CallKind} {name : Text} {function other : Node}
    (related : Node.Commented plain commented function other) :
    (ofCall options plain first kind name function).signature =
      (ofCall options commented second kind name other).signature := by
  simp only [signature, ofCall, related.isAsync_eq]

theorem ofBlockCall_commented (related : Node.Commented plain commented first second)
    (kind : BlockKind) :
    (ofBlockCall options plain first kind).map (Option.map signature) =
      (ofBlockCall options commented second kind).map (Option.map signature) := by
  have found := related.callArguments
  unfold ofBlockCall
  generalize first.callArguments = left at found ⊢
  generalize second.callArguments = right at found ⊢
  cases found with
  | nil => rfl
  | cons name rest =>
    cases rest with
    | nil => rfl
    | cons function rest =>
      simp only
      rw [name.kind, function.isFunction_eq]
      split
      · next both =>
        rw [SyntaxTree.stringValue_commented name (name.kind.trans both.1)]
        cases commented.stringValue _ with
        | error fault => rfl
        | ok text => exact congrArg (Except.ok ∘ some) (signature_ofCall function)
      · rfl

theorem ofHookCall_commented (related : Node.Commented plain commented first second)
    (kind : HookKind) :
    (ofHookCall options plain first kind).map (Option.map signature) =
      (ofHookCall options commented second kind).map (Option.map signature) := by
  have hook : ∀ (name : Text) {left right : Option Node},
      Option.Rel (Node.Commented plain commented) left right →
      ((left.filter Node.isFunction).map (ofCall options plain first (.hook kind) name)).map
        signature =
        ((right.filter Node.isFunction).map (ofCall options commented second (.hook kind) name)).map
          signature := by
    intro name left right found
    rw [Option.map_map, Option.map_map]
    exact map_eq_of_rel (rel_filter found fun _ _ function => function.isFunction_eq)
      fun _ _ function =>
      signature_ofCall function.2
  have found := related.callArguments
  unfold ofHookCall
  generalize first.callArguments = left at found ⊢
  generalize second.callArguments = right at found ⊢
  cases found with
  | nil => rfl
  | cons here rest =>
    simp only
    rw [here.kind]
    split
    · next isString =>
      rw [SyntaxTree.stringValue_commented here (here.kind.trans isString)]
      cases commented.stringValue _ with
      | error fault => rfl
      | ok text =>
        refine congrArg Except.ok (hook text ?_)
        cases rest with
        | nil => exact .none
        | cons function rest => exact .some function
    · exact congrArg Except.ok (hook [] (.some here))

theorem ofNode_commented (related : Node.Commented plain commented first second) :
    (ofNode options plain first).map (Option.map signature) =
      (ofNode options commented second).map (Option.map signature) := by
  unfold ofNode
  rw [SyntaxTree.callKind?_commented related]
  cases commented.callKind? second with
  | none => rfl
  | some found =>
    cases found with
    | block kind => exact ofBlockCall_commented related kind
    | hook kind => exact ofHookCall_commented related kind

theorem ofNodes_commented {nodes others : List Node}
    (padded : Padded Node.IsComment (Node.Commented plain commented) nodes others) :
    (ofNodes options plain nodes).map (List.map signature) =
      (ofNodes options commented others).map (List.map signature) := by
  induction padded with
  | nil => rfl
  | same here _ ih => rw [ofNodes, ofNodes, map_gathered, map_gathered, ofNode_commented here, ih]
  | extra comment _ ih =>
    rw [ofNodes, map_gathered, ofNode, SyntaxTree.callKind?_comment comment.kind, ih]
    cases ofNodes options commented _ <;> rfl

/-- **Candidates are told alike** with more comments. -/
theorem collect_commented (related : plain.Commented commented) :
    (collect options plain).map (List.map signature) =
      (collect options commented).map (List.map signature) := by
  unfold collect Node.walk
  rw [Tree.walk_eq_preorder, Tree.walk_eq_preorder]
  exact ofNodes_commented (Node.Commented.preorder _ related)

end Candidate

/-! ### Imports -/

namespace SyntaxTree

/-- Nodes of a kind, other than that of comments, are the same. -/
theorem ofKind_commented {kind : NodeKind} (proper : kind ≠ .comment) {nodes others : List Node}
    (padded : Padded Node.IsComment (Node.Commented plain commented) nodes others) :
    List.Forall₂
      (fun first second => first.kind = kind ∧ Node.Commented plain commented first second)
      (nodes.filter (·.label.kind == kind)) (others.filter (·.label.kind == kind)) := by
  refine (List.forall₂_and_left _ _).mpr ⟨fun node member => ?_, ?_⟩
  · exact beq_iff_eq.mp (List.mem_filter.mp member).2
  · exact padded.forall₂_filter (fun _ _ related => related.sameKind kind) fun _ comment =>
      comment.otherKind proper

theorem localName?_commented (related : Node.Commented plain commented first second)
    (isSpecifier : first.kind = .importSpecifier) :
    plain.localName? first = commented.localName? second := by
  have taken := related.sameWords.taken isSpecifier
  unfold localName?
  rw [Option.map_or, Option.map_or, taken .alias (by simp), taken .name (by simp)]

theorem localNames_commented (related : Node.Commented plain commented first second) :
    plain.localNames first = commented.localNames second := by
  unfold localNames
  exact filterMap_eq_of_forall₂ (ofKind_commented (by decide) related.namedChildren)
    fun _ _ specifier =>
    localName?_commented specifier.2 specifier.1

theorem clauseParts_commented {kind : NodeKind} (proper : kind ≠ .comment)
    (related : Node.Commented plain commented first second) :
    List.Forall₂
      (fun first second => first.kind = kind ∧ Node.Commented plain commented first second)
      (clauseParts kind first) (clauseParts kind second) := by
  refine ofKind_commented proper ?_
  have clause := related.childOfKind? (show NodeKind.importClause ≠ .comment by decide)
  generalize childOfKind? .importClause first = left at clause ⊢
  generalize childOfKind? .importClause second = right at clause ⊢
  cases clause with
  | none => exact .nil
  | some clause => exact clause.namedChildren

/-- A name of a whole module reads the same. -/
theorem wholeName_commented (related : Node.Commented plain commented first second) :
    (childOfKind? .identifier first).map plain.text =
      (childOfKind? .identifier second).map commented.text := by
  have found := related.childOfKind? (show NodeKind.identifier ≠ .comment by decide)
  have isName : ∀ name, childOfKind? .identifier first = some name → name.kind = .identifier := by
    intro name here
    have passes := List.find?_some here
    exact beq_iff_eq.mp passes
  exact map_eq_of_rel (rel_and_left found isName) fun _ _ name =>
    name.2.text_eq (by rw [name.1]; rfl)

/-- **What one import brings in** does not change with comments. -/
theorem importOf?_commented (related : Node.Commented plain commented first second) :
    (plain.importOf? first).map (Option.map Import.signature) =
      (commented.importOf? second).map (Option.map Import.signature) := by
  have named : (clauseParts .namedImports first).flatMap plain.localNames =
      (clauseParts .namedImports second).flatMap commented.localNames := by
    rw [List.flatMap_def, List.flatMap_def,
      map_eq_of_forall₂ (clauseParts_commented (by decide) related)
      fun _ _ braces => localNames_commented braces.2]
  have defaultName : (clauseParts .identifier first).getLast?.map plain.text =
      (clauseParts .identifier second).getLast?.map commented.text := by
    rw [← List.getLast?_map, ← List.getLast?_map,
      map_eq_of_forall₂ (clauseParts_commented (by decide) related)
      fun _ _ name => name.2.text_eq (by rw [name.1]; rfl)]
  have wholeName : ((clauseParts .namespaceImport first).filterMap
      (childOfKind? .identifier)).getLast?.map plain.text =
      ((clauseParts .namespaceImport second).filterMap (childOfKind? .identifier)).getLast?.map
        commented.text := by
    rw [← List.getLast?_map, ← List.getLast?_map, List.map_filterMap, List.map_filterMap,
      filterMap_eq_of_forall₂
      (clauseParts_commented (by decide) related) fun _ _ part => wholeName_commented part.2]
  have isTypeOnly : (first.children.any fun child => child.label.kind == .typeKeyword) =
      second.children.any fun child => child.label.kind == .typeKeyword :=
    related.children.any_eq (fun _ _ related => related.sameKind _) fun _ comment =>
      comment.otherKind (by decide)
  have source := rel_filter (related.child? .source) fun _ _ source => source.sameKind .string
  unfold importOf?
  rw [named, defaultName, wholeName, isTypeOnly]
  generalize (first.child? .source).filter _ = left at source ⊢
  generalize (second.child? .source).filter _ = right at source ⊢
  cases source with
  | none => rfl
  | some source =>
    simp only
    rw [stringValue_commented source.2 (beq_iff_eq.mp source.1)]
    cases commented.stringValue _ <;> rfl

theorem importsOf_commented {statements others : List Node}
    (pairs : List.Forall₂ (Node.Commented plain commented) statements others) :
    (plain.importsOf statements).map (List.map Import.signature) =
      (commented.importsOf others).map (List.map Import.signature) := by
  induction pairs with
  | nil => rfl
  | cons here _ ih =>
    rw [importsOf, importsOf, map_gathered, map_gathered, importOf?_commented here, ih]

/-- **Imports are told alike** with more comments. -/
theorem imports_commented (related : plain.Commented commented) :
    plain.imports.map (List.map Import.signature) =
      commented.imports.map (List.map Import.signature) :=
  importsOf_commented
    ((ofKind_commented (by decide) related.namedChildren).imp fun _ _ both => both.2)

end SyntaxTree

/-! ### Values behind comments -/

/-- What only stands around a value: parentheses and `await`. -/
abbrev NodeKind.IsAround (kind : NodeKind) : Prop := kind = .awaitExpression ∨ kind = .parenthesized

namespace Node

/-- The value inside parentheses and after `await`, comments left aside. -/
def bareValue : Node → Option Node
  | .mk head children =>
    if head.kind.IsAround then firstOther children else some (.mk head children)
where
  /-- The value of the first child that is a proper node and no comment. -/
  firstOther : List Node → Option Node
    | [] => none
    | child :: rest =>
      if child.label.isNamed && child.label.kind != .comment then bareValue child
      else firstOther rest

/-- Whether a comment stands first in one of the parentheses, or behind one `await`, around a
value. -/
def hasCommentFirst : Node → Bool
  | .mk head children => if head.kind.IsAround then inFirst children else false
where
  /-- Whether the first child that is a proper node is a comment, or has a comment first in it. -/
  inFirst : List Node → Bool
    | [] => false
    | child :: rest =>
      if child.label.isNamed then child.label.kind == .comment || hasCommentFirst child
      else inFirst rest

end Node

mutual

/-- **A bare value stands for a bare value** where comments are put in. -/
theorem Node.Commented.bareValue :
    (second : Node) → {first : Node} → Node.Commented plain commented first second →
      Option.Rel (Node.Commented plain commented) first.bareValue second.bareValue
  | .mk head others, .mk first _, related => by
    have kind : first.kind = head.kind := related.alike.kind
    rw [Node.bareValue, Node.bareValue, kind]
    split
    · exact Node.Commented.firstOther others related.children
    · exact .some related

theorem Node.Commented.firstOther : (others : List Node) → {children : List Node} →
    Padded Node.IsComment (Node.Commented plain commented) children others →
      Option.Rel (Node.Commented plain commented) (Node.bareValue.firstOther children)
        (Node.bareValue.firstOther others)
  | [], [], _ => .none
  | other :: rest, children, padded => by
    rw [Node.bareValue.firstOther]
    cases padded with
    | same here behind =>
      rw [Node.bareValue.firstOther, here.alike.isNamed, here.alike.kind]
      split
      · exact Node.Commented.bareValue other here
      · exact Node.Commented.firstOther rest behind
    | extra comment behind =>
      rw [comment.kind, bne_self_eq_false, Bool.and_false]
      exact Node.Commented.firstOther rest behind

end

mutual

/-- A comment that stands first still does so when more are put in. -/
theorem Node.Commented.hasCommentFirst : (second : Node) → {first : Node} →
    Node.Commented plain commented first second → first.hasCommentFirst = true →
    second.hasCommentFirst = true
  | .mk head others, .mk first _, related => by
    have kind : first.kind = head.kind := related.alike.kind
    rw [Node.hasCommentFirst, Node.hasCommentFirst, kind]
    split
    · exact Node.Commented.inFirst others related.children
    · exact id

theorem Node.Commented.inFirst : (others : List Node) → {children : List Node} →
    Padded Node.IsComment (Node.Commented plain commented) children others →
      Node.hasCommentFirst.inFirst children = true → Node.hasCommentFirst.inFirst others = true
  | [], [], _ => id
  | other :: rest, children, padded => by
    rw [Node.hasCommentFirst.inFirst]
    cases padded with
    | same here behind =>
      rw [Node.hasCommentFirst.inFirst, here.alike.isNamed, here.alike.kind]
      split
      · rw [Bool.or_eq_true, Bool.or_eq_true]
        exact Or.imp_right (Node.Commented.hasCommentFirst other here)
      · exact Node.Commented.inFirst rest behind
    | extra comment behind =>
      intro _
      rw [comment.isNamed, comment.kind]
      rfl

end

/-- What a search for a value comes to: the bare value, or a comment if one stands first. -/
def FindsValue (found bare : Option Node) (commentFirst : Bool) : Prop :=
  if commentFirst then ∃ comment, found = some comment ∧ comment.kind = .comment else found = bare

namespace SyntaxTree

theorem innermostValue_of_not_around {value : Node} (other : ¬ value.kind.IsAround) :
    innermostValue value = some value := by
  cases value
  rw [innermostValue]
  exact if_neg other

mutual

/-- **The innermost value** is the bare one unless a comment stands first. -/
theorem findsValue_innermost : (value : Node) →
    FindsValue (innermostValue value) value.bareValue value.hasCommentFirst
  | .mk head children => by
    rw [innermostValue, Node.bareValue, Node.hasCommentFirst]
    split
    · exact findsValue_firstProper children
    · exact rfl

theorem findsValue_firstProper : (children : List Node) →
    FindsValue (innermostValue.firstProper children) (Node.bareValue.firstOther children)
      (Node.hasCommentFirst.inFirst children)
  | [] => rfl
  | child :: rest => by
    rw [innermostValue.firstProper, Node.bareValue.firstOther, Node.hasCommentFirst.inFirst]
    cases named : child.label.isNamed with
    | false => exact findsValue_firstProper rest
    | true =>
      cases isComment : child.label.kind == .comment with
      | false =>
        have other : (child.label.kind != .comment) = true := by rw [bne, isComment]; rfl
        rw [other]
        exact findsValue_innermost child
      | true =>
        have comment : child.kind = .comment := beq_iff_eq.mp isComment
        exact ⟨child, innermostValue_of_not_around (by rw [comment]; decide), comment⟩

end

end SyntaxTree

/-! ### Shared code -/

/-- The value that the first of the variables of a declaration starts with. -/
def Node.firstValue? (declaration : Node) : Option Node :=
  (SyntaxTree.firstVariable? declaration).bind (Node.child? .value)

/-- Whether a statement declares variables of which the first one holds what a call of the test
framework gives back, comments left aside. -/
def SyntaxTree.assignsTestCall (tree : SyntaxTree) (statement : Node) : Bool :=
  (SyntaxTree.declarationOf? statement).any fun declaration =>
    SyntaxTree.sharedKind? declaration == some .values &&
      (declaration.firstValue?.bind Node.bareValue).any fun value => (tree.callKind? value).isSome

/-- Whether a comment stands first in what is around the value of the first variable of a
statement. -/
def Node.hidesValue (statement : Node) : Bool :=
  (SyntaxTree.declarationOf? statement).any fun declaration =>
    declaration.firstValue?.any Node.hasCommentFirst

/-- Whether a comment hides that a statement holds a test call. -/
def SyntaxTree.hidesTestCall (tree : SyntaxTree) (statement : Node) : Bool :=
  tree.assignsTestCall statement && statement.hidesValue

/-- The number of test calls at the top of a source that comments hide. -/
def SyntaxTree.hiddenCalls (tree : SyntaxTree) : Nat :=
  tree.root.namedChildren.countP tree.hidesTestCall

namespace SyntaxTree

/-- What a statement adds to the shared code. -/
def added? (options : Options) (tree : SyntaxTree)
    (statement : Node) : Option (SharedKind × Option Text) :=
  (tree.sharedCodeOf? options statement).map SharedCode.signature

/-- What a statement declares if the options ask for it, whether or not it is a test call. -/
def offered? (options : Options) (tree : SyntaxTree)
    (statement : Node) : Option (SharedKind × Option Text) := do
  let declaration ← declarationOf? statement
  let kind ← sharedKind? declaration
  if isWanted options kind then some (kind, tree.declaredName? declaration kind) else none

theorem holdsTestCall_eq (tree : SyntaxTree) (declaration : Node) :
    tree.holdsTestCall declaration =
      ((declaration.firstValue?.bind Node.bareValue).any (fun value =>
      (tree.callKind? value).isSome) && !declaration.firstValue?.any Node.hasCommentFirst) := by
  show (declaration.firstValue?.bind innermostValue).any _ = _
  cases declaration.firstValue? with
  | none => rfl
  | some value =>
    have finds := findsValue_innermost value
    simp only [Option.bind_some, Option.any_some]
    cases hidden : value.hasCommentFirst with
    | false =>
      rw [hidden] at finds
      rw [show innermostValue value = value.bareValue from finds, Bool.not_false, Bool.and_true]
    | true =>
      rw [hidden] at finds
      obtain ⟨comment, found, isComment⟩ := finds
      rw [found, Option.any_some, callKind?_comment isComment, Bool.not_true, Bool.and_false]
      rfl

/-- **Which statements are shared code**: those that declare what the options ask for, unless it is
a test call that no comment hides. -/
theorem added?_eq (options : Options) (tree : SyntaxTree) (statement : Node) :
    tree.added? options statement =
      if tree.assignsTestCall statement && !statement.hidesValue then none
      else tree.offered? options statement := by
  unfold added? sharedCodeOf? assignsTestCall Node.hidesValue offered?
  cases declarationOf? statement with
  | none => rfl
  | some declaration =>
    simp only [Option.any_some, Option.bind_some, bind]
    rw [holdsTestCall_eq]
    cases sharedKind? declaration with
    | none => rfl
    | some kind =>
      have sameKind : (some kind == some SharedKind.values) = (kind == .values) := rfl
      simp only [Option.bind_some, sameKind, Bool.and_assoc]
      generalize (kind == SharedKind.values && _) = holds
      cases isWanted options kind <;> cases holds <;> rfl

theorem declarationOf?_commented (related : Node.Commented plain commented first second) :
    Option.Rel (Node.Commented plain commented) (declarationOf? first) (declarationOf? second) := by
  unfold declarationOf?
  rw [related.kind]
  split
  · exact related.child? .declaration
  · exact .some related

theorem sharedKind?_commented (related : Node.Commented plain commented first second) :
    sharedKind? first = sharedKind? second := by
  unfold sharedKind?
  rw [related.kind]

theorem firstVariable?_commented (related : Node.Commented plain commented first second) :
    Option.Rel (Node.Commented plain commented) (firstVariable? first) (firstVariable? second) :=
  related.childOfKind? (by decide)

theorem firstValue?_commented (related : Node.Commented plain commented first second) :
    Option.Rel (Node.Commented plain commented) first.firstValue? second.firstValue? :=
  rel_bind (firstVariable?_commented related) fun _ _ one => one.child? .value

/-- **A declared name reads the same** with more comments. -/
theorem declaredName?_commented (related : Node.Commented plain commented first second)
    (kind : SharedKind) :
    plain.declaredName? first kind = commented.declaredName? second kind := by
  have owner : Option.Rel (Node.Commented plain commented)
      (if kind = .values then firstVariable? first else some first)
      (if kind = .values then firstVariable? second else some second) := by
    split
    · exact firstVariable?_commented related
    · exact .some related
  have name := rel_bind owner fun _ _ owner => owner.child? .name
  refine map_eq_of_rel (rel_filter name fun _ _ name => by rw [name.kind]) fun _ _ name =>
    name.2.text_eq ?_
  rw [NodeKind.isWord, name.1, Bool.true_or]

theorem offered?_commented (options : Options)
    (related : Node.Commented plain commented first second) :
    plain.offered? options first = commented.offered? options second := by
  refine bind_eq_of_rel (declarationOf?_commented related) fun _ _ declaration => ?_
  rw [sharedKind?_commented declaration]
  exact Option.bind_congr fun kind _ => by rw [declaredName?_commented declaration]

theorem assignsTestCall_commented (related : Node.Commented plain commented first second) :
    plain.assignsTestCall first = commented.assignsTestCall second := by
  refine any_eq_of_rel (declarationOf?_commented related) fun _ _ declaration => ?_
  have value := rel_bind (firstValue?_commented declaration) fun _ _ value => value.bareValue _
  rw [sharedKind?_commented declaration,
    any_eq_of_rel value fun _ _ value => by rw [callKind?_commented value]]

theorem hidesValue_commented (related : Node.Commented plain commented first second) :
    first.hidesValue = true → second.hidesValue = true :=
  any_of_rel (declarationOf?_commented related) fun _ _ declaration =>
    any_of_rel (firstValue?_commented declaration) fun _ _ value => value.hasCommentFirst _

/-- Variables are asked for under all options. -/
theorem offered?_of_assignsTestCall (options : Options) {tree : SyntaxTree} {statement : Node}
    (assigns : tree.assignsTestCall statement = true) :
    ∃ code, tree.offered? options statement = some code := by
  unfold assignsTestCall at assigns
  unfold offered?
  cases declared : declarationOf? statement with
  | none =>
    rw [declared] at assigns
    cases assigns
  | some declaration =>
    rw [declared, Option.any_some, Bool.and_eq_true] at assigns
    have kind : sharedKind? declaration = some .values := beq_iff_eq.mp assigns.1
    exact ⟨(.values, tree.declaredName? declaration .values),
      by simp only [Option.bind_some, bind, kind]; rfl⟩

/-- **A test call is shared code** if a comment hides it, and only then. -/
theorem sharedCodeOf?_eq_none_iff (options : Options) {tree : SyntaxTree} {statement : Node}
    (assigns : tree.assignsTestCall statement = true) :
    tree.sharedCodeOf? options statement = none ↔ statement.hidesValue = false := by
  obtain ⟨code, offered⟩ := offered?_of_assignsTestCall options assigns
  have shown := added?_eq options tree statement
  rw [assigns, offered] at shown
  rw [← Option.map_eq_none_iff (f := SharedCode.signature)]
  show tree.added? options statement = none ↔ _
  rw [shown]
  cases statement.hidesValue <;> simp

theorem added?_comment (options : Options) (tree : SyntaxTree) {statement : Node}
    (comment : statement.IsComment) :
    tree.added? options statement = none ∧ tree.hidesTestCall statement = false := by
  have kind : statement.kind = .comment := comment.kind
  have declared : declarationOf? statement = some statement := if_neg (by rw [kind]; decide)
  have noCode : sharedKind? statement = none := by
    unfold sharedKind?
    rw [kind]
  unfold added? sharedCodeOf? hidesTestCall assignsTestCall
  rw [declared]
  simp only [bind, Option.bind_some, Option.any_some, noCode]
  exact ⟨rfl, rfl⟩

/-- **A statement adds the same with more comments**, unless it is a test call that only now is
hidden. -/
theorem added?_commented (options : Options)
    (related : Node.Commented plain commented first second) :
    (plain.added? options first = commented.added? options second ∧
        plain.hidesTestCall first = commented.hidesTestCall second) ∨
      (plain.added? options first = none ∧ (∃ code, commented.added? options second = some code) ∧
        plain.hidesTestCall first = false ∧ commented.hidesTestCall second = true) := by
  have assigns := assignsTestCall_commented related
  have offered := offered?_commented options related
  have hides := hidesValue_commented related
  rw [added?_eq, added?_eq, hidesTestCall, hidesTestCall, assigns, offered]
  cases isCall : commented.assignsTestCall second with
  | false => exact .inl ⟨rfl, rfl⟩
  | true =>
    cases before : first.hidesValue with
    | true =>
      rw [hides before]
      exact .inl ⟨rfl, rfl⟩
    | false =>
      cases after : second.hidesValue with
      | false => exact .inl ⟨rfl, rfl⟩
      | true => exact .inr ⟨rfl, offered?_of_assignsTestCall options isCall, rfl, rfl⟩

/-- **Statements add more by as many** as there are test calls that only the added comments hide. -/
theorem filterMap_added?_commented (options : Options) {nodes others : List Node}
    (padded : Padded Node.IsComment (Node.Commented plain commented) nodes others) :
    (nodes.filterMap (plain.added? options)).Sublist (others.filterMap (commented.added? options)) ∧
      (others.filterMap (commented.added? options)).length + nodes.countP plain.hidesTestCall =
        (nodes.filterMap (plain.added? options)).length +
          others.countP commented.hidesTestCall := by
  induction padded with
  | nil => exact ⟨.slnil, rfl⟩
  | @same one other rest _ here _ ih =>
    rcases added?_commented options
        here with ⟨same, hides⟩ | ⟨nothing, ⟨code, adds⟩, apparent, hidden⟩
    · rw [List.filterMap_cons, List.filterMap_cons, List.countP_cons, List.countP_cons, same, hides]
      cases commented.added? options other with
      | none => exact ⟨ih.1, by simp only; omega⟩
      | some code => exact ⟨ih.1.cons_cons code, by simp only [List.length_cons]; omega⟩
    · rw [List.filterMap_cons, List.filterMap_cons, List.countP_cons, List.countP_cons, nothing,
        adds, apparent, hidden]
      refine ⟨ih.1.cons code, ?_⟩
      simp only [List.length_cons, if_true, Bool.false_eq_true, if_false]
      omega
  | extra comment _ ih =>
    obtain ⟨nothing, apparent⟩ := added?_comment options commented comment
    rw [List.filterMap_cons, List.countP_cons, nothing, apparent]
    exact ih

theorem map_signature_sharedCode (options : Options) (tree : SyntaxTree) :
    (tree.sharedCode options).map SharedCode.signature =
      tree.root.namedChildren.filterMap (tree.added? options) := by
  rw [sharedCode, List.map_filterMap]
  rfl

/-- **Shared code with more comments** has what it had before, and more if comments hide more test
calls. -/
theorem sharedCode_commented (options : Options) (related : plain.Commented commented) :
    ((plain.sharedCode options).map SharedCode.signature).Sublist
        ((commented.sharedCode options).map SharedCode.signature) ∧
      plain.hiddenCalls ≤ commented.hiddenCalls ∧
      ((plain.sharedCode options).map SharedCode.signature =
        (commented.sharedCode options).map SharedCode.signature ↔
        plain.hiddenCalls = commented.hiddenCalls) := by
  obtain ⟨sublist, lengths⟩ := filterMap_added?_commented options related.namedChildren
  have shorter := sublist.length_le
  rw [map_signature_sharedCode, map_signature_sharedCode]
  unfold hiddenCalls
  refine ⟨sublist, by omega, fun same => ?_, fun same => sublist.eq_of_length (by omega)⟩
  rw [same] at lengths
  omega

end SyntaxTree

/-! ### Both trees -/

namespace Outline

/-- **Comments do not show** in what candidates and imports are; they show in the shared code where
they hide that a variable holds what a call of the test framework gives back, and nowhere else. -/
theorem comments_show (options : Options) (related : plain.Commented commented) :
    (Candidate.collect options plain).map (List.map Candidate.signature) =
        (Candidate.collect options commented).map (List.map Candidate.signature) ∧
      plain.imports.map (List.map Import.signature) =
        commented.imports.map (List.map Import.signature) ∧
      ((plain.sharedCode options).map SharedCode.signature).Sublist
        ((commented.sharedCode options).map SharedCode.signature) ∧
      plain.hiddenCalls ≤ commented.hiddenCalls ∧
      ((plain.sharedCode options).map SharedCode.signature =
        (commented.sharedCode options).map SharedCode.signature ↔
        plain.hiddenCalls = commented.hiddenCalls) ∧
      ∀ statement, commented.assignsTestCall statement = true →
        (commented.sharedCodeOf? options statement = none ↔ statement.hidesValue = false) := by
  obtain ⟨sublist, fewer, same⟩ := SyntaxTree.sharedCode_commented options related
  exact ⟨Candidate.collect_commented related, SyntaxTree.imports_commented related, sublist, fewer,
    same, fun _ assigns => SyntaxTree.sharedCodeOf?_eq_none_iff options assigns⟩

/-- A variable that holds a test in parentheses. -/
def heldTree : SyntaxTree where
  source := Source.ofChars "const x=(it('a',()=>0));".toList
  root :=
    nodeOver .program none 0 24 [
      nodeOver .lexicalDeclaration none 0 24 [
        nodeOver .variableDeclarator none 6 23 [
          nodeOver .identifier (some .name) 6 7 [],
          nodeOver .parenthesized (some .value) 8 23 [
            nodeOver .call none 9 22 [
              nodeOver .identifier (some .function) 9 11 [],
              nodeOver .arguments (some .arguments) 11 22 [
                nodeOver .string none 12 15 [],
                nodeOver .arrowFunction none 16 21 []]]]]]]

/-- The same with comments before the test and between its arguments. -/
def heldTreeCommented : SyntaxTree where
  source := Source.ofChars "const x=(/**/it('a',/**/()=>0));".toList
  root :=
    nodeOver .program none 0 32 [
      nodeOver .lexicalDeclaration none 0 32 [
        nodeOver .variableDeclarator none 6 31 [
          nodeOver .identifier (some .name) 6 7 [],
          nodeOver .parenthesized (some .value) 8 31 [
            nodeOver .comment none 9 13 [],
            nodeOver .call none 13 30 [
              nodeOver .identifier (some .function) 13 15 [],
              nodeOver .arguments (some .arguments) 15 30 [
                nodeOver .string none 16 19 [],
                nodeOver .comment none 20 24 [],
                nodeOver .arrowFunction none 24 29 []]]]]]]

/-- A node over others that is neither a name nor a string literal and takes no names from another
module. -/
theorem commented_nodeOver {kind : NodeKind} {field : Option NodeField}
    {start stop otherStart otherStop : Nat} {children others : List Node}
    (noWord : kind.isWord = false) (takesNothing : kind ≠ .importSpecifier)
    (padded : Padded Node.IsComment (Node.Commented plain commented) children others) :
    Node.Commented plain commented (nodeOver kind field start stop children)
      (nodeOver kind field otherStart otherStop others) :=
  .mk ⟨rfl, rfl, rfl, rfl⟩ ⟨fun word => absurd (noWord.symm.trans word) (by decide),
    fun taken => absurd taken takesNothing⟩ padded

theorem heldTree_commented : heldTree.Commented heldTreeCommented := by
  have comment : ∀ start stop, (nodeOver .comment none start stop []).IsComment :=
    fun _ _ => ⟨rfl, rfl, rfl, rfl⟩
  refine commented_nodeOver rfl (by decide) (.same (commented_nodeOver rfl (by decide)
    (.same (commented_nodeOver rfl (by decide) (.same ?name (.same ?value .nil))) .nil)) .nil)
  case name => exact .mk ⟨rfl, rfl, rfl, rfl⟩ ⟨by decide +kernel, by decide +kernel⟩ .nil
  case value =>
    refine commented_nodeOver rfl (by decide)
      (.extra (comment 9 13) (.same (commented_nodeOver rfl (by decide)
        (.same ?callee
          (.same (commented_nodeOver rfl (by decide) (.same ?literal (.extra (comment 20 24)
            (.same (commented_nodeOver rfl (by decide) .nil) .nil)))) .nil))) .nil))
    case callee => exact .mk ⟨rfl, rfl, rfl, rfl⟩ ⟨by decide +kernel, by decide +kernel⟩ .nil
    case literal => exact .mk ⟨rfl, rfl, rfl, rfl⟩ ⟨by decide +kernel, by decide +kernel⟩ .nil

/-- The test is collected as before, and its variable becomes shared code. -/
theorem comments_show_in_parentheses : heldTree.Commented heldTreeCommented ∧
    (Candidate.collect .usual heldTree).map (List.map Candidate.signature) =
      (Candidate.collect .usual heldTreeCommented).map (List.map Candidate.signature) ∧
    (heldTree.sharedCode .usual).map SharedCode.signature ≠
      (heldTreeCommented.sharedCode .usual).map SharedCode.signature := by
  obtain ⟨collected, _, _, _, same, _⟩ := comments_show .usual heldTree_commented
  exact ⟨heldTree_commented, collected, fun told => absurd (same.mp told) (by decide +kernel)⟩

/-- **Shared code does not stay the same** whatever comments are put in. -/
theorem not_sameSharedCode_with_comments : ¬ ∀ (options : Options) (plain commented : SyntaxTree),
    plain.Commented commented → (plain.sharedCode options).map SharedCode.signature =
      (commented.sharedCode options).map SharedCode.signature := by
  intro always
  have told := always .usual heldTree heldTreeCommented heldTree_commented
  revert told
  decide +kernel

end Outline

end TestOutline
