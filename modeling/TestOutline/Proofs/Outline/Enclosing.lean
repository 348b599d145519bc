/-
**What a block mentions, its suites mention.**

A block whose name and metadata say nothing is told from the words in the body of its function. A
suite has the body of its own function looked through as it is written, and so whatever a block in
there mentions is found once more.

* `SyntaxTree.Nested`: no node reaches beyond the node that it is a part of.
* `Nested.body_inside`: the body of the function that a call declares something with lies inside the
  call.
* `BlockHead.Surrounds`: a block lies in the body of the function of a suite.
* `Surrounds.isRequest`: then the suite exercises a request if the block does so by what it
  mentions.
* `content_spreads`: so it is with each block of an outline and each suite that it is in, however
  deep.
-/

import TestOutline.Proofs.Metadata.Finding
import TestOutline.Proofs.Outline.Classification
import TestOutline.Proofs.Source.Offsets

namespace TestOutline

/-! ### Ranges -/

namespace SyntaxTree

variable {tree : SyntaxTree} {call function body : Node} {kind : BlockKind} {name : Text}

/-- **No node reaches beyond the node that it is a part of**; ranges are in bytes. -/
def Nested (tree : SyntaxTree) : Prop :=
  ∀ node ∈ tree.root.walk, ∀ child ∈ node.children, node.start ≤ Node.start child ∧
    Node.stop child ≤ node.stop

instance (tree : SyntaxTree) : Decidable tree.Nested :=
  inferInstanceAs (Decidable (∀ node ∈ tree.root.walk, ∀ child ∈ node.children,
    node.start ≤ Node.start child ∧ Node.stop child ≤ node.stop))

/-- A node lies around another one. -/
structure Encloses (tree : SyntaxTree) (outer inner : Node) : Prop where
  starts : tree.start outer ≤ tree.start inner
  stops : tree.stop inner ≤ tree.stop outer

theorem Encloses.trans {first second third : Node} (outer : tree.Encloses first second)
    (inner : tree.Encloses second third) : tree.Encloses first third :=
  ⟨outer.starts.trans inner.starts, inner.stops.trans outer.stops⟩

theorem Encloses.text_within {outer inner : Node} (encloses : tree.Encloses outer inner) :
    tree.text inner <:+: tree.text outer := by
  rw [text, text, Source.slice_eq, Source.slice_eq]
  exact Text.slice_isInfix_slice _ encloses.starts encloses.stops

theorem Declares.mem_callArguments (declares : tree.Declares call kind name function) :
    function ∈ call.callArguments := by
  obtain ⟨literal, rest, listed, _, _⟩ := declares.arguments
  rw [listed]
  exact List.mem_cons_of_mem _ List.mem_cons_self

/-- A call declares something with one function alone. -/
theorem Declares.function_unique {other : Node} (declares : tree.Declares call kind name function)
    (again : tree.Declares call kind name other) : other = function := by
  obtain ⟨_, _, first, _, _⟩ := declares.arguments
  obtain ⟨_, _, second, _, _⟩ := again.arguments
  rw [first] at second
  cases second
  rfl

namespace Nested

variable (nested : tree.Nested)

include nested

/-- The parts of a node that is visited are visited, and lie inside it. -/
theorem part {node child : Node} (visited : node ∈ tree.root.walk)
    (member : child ∈ node.children) :
    child ∈ tree.root.walk ∧ tree.Encloses node child := by
  have bytes := nested node visited child member
  exact ⟨Tree.mem_walk_of_below visited (Tree.mem_walk_of_mem member),
    tree.source.charOffset_le_of_le bytes.1, tree.source.charOffset_le_of_le bytes.2⟩

/-- **The body of a function lies inside the call** that declares something with it. -/
theorem body_inside (visited : call ∈ tree.root.walk)
    (declares : tree.Declares call kind name function) (found : function.child? .body = some body) :
    tree.Encloses call body := by
  have member := declares.mem_callArguments
  unfold Node.callArguments at member
  split at member
  · next arguments passed =>
    obtain ⟨argumentsVisited, first⟩ := nested.part visited (List.mem_of_find?_eq_some passed)
    obtain ⟨functionVisited, second⟩ :=
      nested.part argumentsVisited (List.mem_of_mem_filter (List.mem_of_mem_filter member))
    obtain ⟨_, third⟩ := nested.part functionVisited (List.mem_of_find?_eq_some found)
    exact (first.trans second).trans third
  · cases member

end Nested

end SyntaxTree

/-! ### Blocks in a body -/

namespace Classifier

variable {options : Options} {requests : List MetadataBlock} {kind : BlockKind}
  {name rawBody : Text} {start : Int}

theorem Exercises.mentions
    (exercises : Exercises options requests kind name rawBody start (some .content)) :
    Mentions rawBody := by
  cases exercises with
  | content _ _ mentions => exact mentions

theorem Exercises.ne_none {evidence : Option Evidence}
    (exercises : Exercises options requests kind name rawBody start evidence)
    (mentions : Mentions rawBody) :
    evidence ≠ Option.none := by
  rintro rfl
  cases exercises with
  | none _ _ silent => exact silent mentions

end Classifier

namespace BlockHead

variable {options : Options} {requests : List MetadataBlock} {tree : SyntaxTree}
  {suite block : BlockHead}

/-- **A block lies in the body of a suite**: the suite tells of a call, and the body of the function
of this call lies around the block. -/
def Surrounds (options : Options) (requests : List MetadataBlock) (tree : SyntaxTree)
    (suite block : BlockHead) :
    Prop :=
  ∃ call ∈ tree.root.walk, suite.Tells options requests tree call ∧
    ∃ function body, tree.Declares call suite.kind suite.name function ∧
      function.child? .body = some body ∧
      tree.start body ≤ block.startOffset ∧ block.endOffset ≤ tree.stop body

/-- **What a block in its body mentions, a suite mentions**, and so the suite exercises a request,
by this rule or by one that comes before. -/
theorem Surrounds.isRequest (nested : tree.Nested) {inner : Node} (visited : inner ∈ tree.root.walk)
    (tells : block.Tells options requests tree inner) (content : block.evidence = some .content)
    (surrounds : suite.Surrounds options requests tree block) : suite.isRequest = true := by
  obtain ⟨outer, _, suiteTells, function, body, declares, found, starts, stops⟩ := surrounds
  obtain ⟨innerFunction, innerDeclares, innerExercises⟩ := tells.evidence
  rw [content] at innerExercises
  have around : tree.Encloses body inner := by
    rw [tells.startOffset] at starts
    rw [tells.endOffset] at stops
    exact ⟨Int.ofNat_le.mp starts, Int.ofNat_le.mp stops⟩
  have written : Candidate.rawFunctionBody tree function = tree.text body := by
    rw [Candidate.rawFunctionBody, found]
  have within : Candidate.rawFunctionBody tree innerFunction <:+:
      Candidate.rawFunctionBody tree function := by
    rw [written, Candidate.rawFunctionBody]
    split
    · exact List.nil_infix
    · next innerBody innerFound =>
      exact (around.trans (nested.body_inside visited innerDeclares innerFound)).text_within
  obtain ⟨same, again, exercises⟩ := suiteTells.evidence
  obtain rfl := declares.function_unique again
  exact suiteTells.isRequest.mpr (exercises.ne_none (innerExercises.mentions.mono within))

end BlockHead

namespace Outline

variable {reader : TreeReader} {options : Options} {text : Text} {source : Source}
  {language : Language}
  {tree : SyntaxTree} {outline : Outline}

/-- **What shows a request in a block shows one in every suite around it.** Each block of the
outline of a tree whose ranges nest tells of a call of its own. If the body of one of them mentions
a request, and nothing else says that it exercises one, then every suite that the block is in, at
whatever depth, and in the body of whose function it stands exercises a request too, by its name, by
metadata or by what it mentions. -/
theorem content_spreads (encoded : Source.ofText? text = .ok source)
    (named : Language.ofName? options.language = .ok language)
    (read : SyntaxTree.read reader language source = .ok tree) (noFault : tree.hasFault = false)
    (nested : tree.Nested) (returned : ofTextBy reader options text = .ok outline) :
    (∃ calls, calls.Subperm tree.root.walk ∧
      List.Forall₂ (BlockHead.Tells options outline.requestMetadata tree)
        ((Tree.walk outline.blocks).map Tree.label) calls) ∧
    ∀ suite ∈ Tree.walk outline.blocks, ∀ block ∈ Tree.walk suite.children,
      block.label.evidence = some .content →
      suite.label.Surrounds options outline.requestMetadata tree block.label →
        suite.label.isRequest = true ∧ ∃ evidence, suite.label.evidence = some evidence := by
  have outcome := ofTree_outcome options tree []
  rw [← ofTextBy_of_noFault encoded named read noFault, returned] at outcome
  obtain ⟨candidates, found, collected, assembled⟩ := outcome.assembled
  obtain ⟨calls, among, tell⟩ := blocks_tell collected assembled
  refine ⟨⟨calls, among, tell⟩, fun suite member block below content surrounds => ?_⟩
  have listed : block.label ∈ (Tree.walk outline.blocks).map Tree.label :=
    List.mem_map_of_mem (Tree.mem_walk_of_below member below)
  obtain ⟨inner, called, tells⟩ := exists_mem_of_forall₂ tell listed
  have isRequest := surrounds.isRequest nested (among.subset called) tells content
  obtain ⟨_, _, suiteTells, _⟩ := surrounds
  exact ⟨isRequest, Option.ne_none_iff_exists'.mp (suiteTells.isRequest.mp isRequest)⟩

/-- A suite around a test that asks for an address. -/
def askingText : String := "suite('a',()=>\x7bit('b',()=>\x7bx.url\x7d)\x7d)"

/-- The tree of a suite around a test that asks for an address. -/
def askingRoot : Node := nodeOver .program none 0 36 [declaring 0 5 3 36 [declaring 15 2 3 34 []]]

def askingTree : SyntaxTree := ⟨Source.ofChars askingText.toList, askingRoot⟩

/-- The suite and the test. -/
def askingCandidates : List Candidate := (Candidate.collect .usual askingTree).toOption.getD []

/-- The suite and the test, linked as they are listed. -/
def askingForest : Forest :=
  (Forest.unlinked (askingCandidates.map Member.ofCandidate).toArray
    (List.range askingCandidates.length)).sweep []
    [0, 1]

/-- In the outline the test is in the suite, and is told from what it mentions. -/
theorem blocks_of_askingTree : (ofTree .usual askingTree []).map (fun outline =>
    (Tree.walk outline.blocks).flatMap fun suite => (Tree.walk suite.children).map fun block =>
      (suite.label.kind, block.label.startOffset, block.label.endOffset, block.label.evidence)) =
    .ok [(.suite, 15, 34, some .content)] := by
  have collected : Candidate.collect .usual askingTree = .ok askingCandidates := by decide +kernel
  have linked : Forest.ofCandidates askingCandidates = askingForest := by
    rw [Forest.ofCandidates, Forest.link, Forest.order_eq_range (by decide +kernel), askingForest]
    decide +kernel
  have order : askingForest.order = List.range askingForest.size :=
    Forest.order_eq_range (by decide +kernel)
  rw [ofTree_eq, collected]
  simp only [assembled, blocksOf, Except.mapError, bind, Except.bind, linked, Forest.trees,
    Forest.parents, order]
  decide +kernel

/-- The suite around a test that asks for an address exercises a request. -/
theorem content_spreads_asking : ∃ outline suite block,
    ofTextBy (fun _ _ => .ok (some askingRoot)) .usual (Text.ofString askingText) = .ok outline ∧
      suite ∈ Tree.walk outline.blocks ∧ block ∈ Tree.walk suite.children ∧
      block.label.evidence = some .content ∧
      suite.label.Surrounds .usual outline.requestMetadata askingTree block.label ∧
      suite.label.isRequest = true := by
  have encoded : Source.ofText? (Text.ofString askingText) = .ok askingTree.source :=
    Source.ofText?_ofChars _
  have named : Language.ofName? Options.usual.language = .ok .typescript := by decide +kernel
  have read : SyntaxTree.read (fun _ _ => .ok (some askingRoot)) .typescript askingTree.source =
      .ok askingTree := rfl
  have noFault : askingTree.hasFault = false := by decide +kernel
  have bodies : ∀ call ∈ askingTree.root.walk, askingTree.callKind? call = some (.block .suite) →
      ∀ function ∈ call.callArguments, function.isFunction = true →
        (function.child? .body).any
          (fun body => askingTree.start body ≤ 15 ∧ 34 ≤ askingTree.stop body) = true := by
    decide +kernel
  have blocks := blocks_of_askingTree
  obtain ⟨outline, returned⟩ : ∃ outline, ofTree .usual askingTree [] = .ok outline :=
    exists_usual (by decide +kernel) (by decide +kernel) (by decide +kernel)
  rw [returned, Except.map] at blocks
  rw [← ofTextBy_of_noFault encoded named read noFault] at returned
  have listed := Except.ok.inj blocks ▸ List.mem_singleton_self _
  obtain ⟨suite, member, inside⟩ := List.mem_flatMap.mp listed
  obtain ⟨block, below, told⟩ := List.mem_map.mp inside
  simp only [Prod.mk.injEq] at told
  obtain ⟨isSuite, starts, stops, content⟩ := told
  obtain ⟨⟨calls, among, tell⟩, spreads⟩ :=
    content_spreads encoded named read noFault (by decide +kernel) returned
  obtain ⟨call, called, tells⟩ := exists_mem_of_forall₂ tell (List.mem_map_of_mem member)
  have visited := among.subset called
  obtain ⟨function, declares, _⟩ := tells.evidence
  obtain ⟨body, found, around⟩ := (Option.any_eq_true _ _).mp
    (bodies call visited (isSuite ▸ declares.callee) function declares.mem_callArguments
      declares.isFunction)
  obtain ⟨early, late⟩ := of_decide_eq_true around
  have surrounds : suite.label.Surrounds .usual outline.requestMetadata askingTree block.label :=
    ⟨call, visited, tells, function, body, declares, found, by omega, by omega⟩
  exact ⟨outline, suite, block, returned, member, below, content, surrounds,
    (spreads suite member block below content surrounds).1⟩

end Outline

end TestOutline
