/-
**Nothing is lost, nothing is told twice.**

* `BlockHead.Shows`, `Hook.Shows`: what a block and a hook tell of the call that they are made of.
* `walk_shows`: the blocks of a tree, in the order in which they are visited, show the suites and
  tests that were collected, in the order in which they were collected.
* `hooks_shown`: the hooks at the top and in all blocks show the hooks that were collected.
* `outline_complete`: so it is with every outline of a text, and the statistics count what was
  collected.
-/

import TestOutline.Outline.Statistics
import TestOutline.Proofs.Outline.DocumentOrder
import TestOutline.Proofs.Outline.Outcome

namespace TestOutline

/-- **A block shows a suite or a test** that was collected. -/
structure BlockHead.Shows (head : BlockHead) (candidate : Candidate) : Prop where
  kind : candidate.kind = .block head.kind
  name : head.name = candidate.name
  body : head.body = candidate.body
  fullText : head.fullText = candidate.fullText
  startOffset : head.startOffset = candidate.startOffset
  endOffset : head.endOffset = candidate.endOffset
  line : head.line = candidate.line
  isAsync : head.isAsync = candidate.isAsync

/-- **A hook shows a hook** that was collected. -/
structure Hook.Shows (source : Source) (hook : Hook) (candidate : Candidate) : Prop where
  kind : candidate.kind = .hook hook.kind
  body : hook.body = candidate.body
  isAsync : hook.isAsync = candidate.isAsync
  line : hook.line = candidate.line
  range : hook.range = source.range candidate.startOffset candidate.endOffset

namespace Outline

variable {source : Source} {candidates : List Candidate}

/-- The hooks that some candidates make show the hooks among them. -/
theorem hooksOf_shows (source : Source) (candidates : List Candidate) :
    List.Forall₂ (Hook.Shows source) (hooksOf source candidates)
      (candidates.filter Candidate.isHook) := by
  unfold hooksOf
  induction candidates with
  | nil => exact List.Forall₂.nil
  | cons candidate rest ih =>
    cases kind : candidate.kind with
    | block blockKind =>
      have noHook : candidate.isHook = false := by rw [Candidate.isHook, kind, CallKind.isHook]
      rw [List.filter_cons_of_neg (by simp [noHook]),
        List.filterMap_cons_none (by rw [hookOf, kind]; rfl)]
      exact ih
    | hook hookKind =>
      have isHook : candidate.isHook = true := by rw [Candidate.isHook, kind, CallKind.isHook]
      rw [List.filter_cons_of_pos isHook, List.filterMap_cons_some (by rw [hookOf, kind]; rfl)]
      exact List.Forall₂.cons ⟨kind, rfl, rfl, rfl, rfl⟩ ih

theorem hooksOf_filter (source : Source) (candidates : List Candidate) :
    hooksOf source (candidates.filter Candidate.isHook) = hooksOf source candidates := by
  unfold hooksOf
  rw [List.filterMap_filter]
  refine List.filterMap_congr fun candidate _ => ?_
  cases kind : candidate.kind with
  | block blockKind =>
    rw [if_neg (by simp [Candidate.isHook, kind, CallKind.isHook]), hookOf, kind]
    rfl
  | hook hookKind => rw [if_pos (by simp [Candidate.isHook, kind, CallKind.isHook])]

theorem hooksOf_append (source : Source) (left right : List Candidate) :
    hooksOf source (left ++ right) = hooksOf source left ++ hooksOf source right :=
  List.filterMap_append

/-! ### Blocks and hooks -/

/-- The head of a block shows the candidate that it is made of, however it was judged. -/
theorem headAt_shows {forest judged : Forest} {classifier : Classifier}
    (given : Forest.Judged classifier forest judged) {place : Nat}
    (noHook : (forest.candidate place).isHook = false) :
    (headAt source judged place).Shows (forest.candidate place) := by
  have same : (judged.member place).candidate = forest.candidate place := given.candidate place
  constructor
  case kind =>
    rw [kind_eq_block noHook, ← same]
    rfl
  all_goals
    rw [← same]
    rfl

section Collected

variable {options : Options} {tree : SyntaxTree} {found : MetadataOutline} {outline : Outline}
  (assembled : Assembled options tree candidates found outline)
    (laminar : Forest.Laminar candidates)
  (increasing : candidates.Pairwise fun left right => left.startOffset < right.startOffset)

include assembled laminar increasing

/-- The heads of the blocks of a tree are those of the suites and tests in the order in which they
were collected. -/
theorem heads_eq : ∃ judged,
    Forest.Judged (.ofOptions options (outline.requestMetadata.map (·.endOffset)))
      (.ofCandidates candidates) judged ∧
      (Tree.walk outline.blocks).map Tree.label =
        ((List.range candidates.length).filter fun place =>
          !((Forest.ofCandidates candidates).candidate place).isHook).map
            (headAt tree.source judged) := by
  obtain ⟨judged, given, blocks⟩ := assembled.blocks
  refine ⟨judged, given, ?_⟩
  have lists := Forest.Lists.ofCandidates candidates
  have walked : (Forest.ofCandidates candidates).walk = _ :=
    lists.walk_of_increasing laminar increasing
  have shown : (Forest.ofCandidates candidates).walk = _ := lists.linked.walk_eq
  have places := Option.some.inj (shown.symm.trans walked)
  rw [blocks, Tree.labels_walk_mapAll]
  unfold Forest.ofCandidates at places ⊢
  rw [← places]

/-- **Blocks are visited as the suites and tests were collected**, and show them. -/
theorem walk_shows : List.Forall₂ BlockHead.Shows ((Tree.walk outline.blocks).map Tree.label)
    (candidates.filter fun candidate => !candidate.isHook) := by
  obtain ⟨judged, given, heads⟩ := heads_eq assembled laminar increasing
  have listed : (((List.range candidates.length).filter fun place =>
      !((Forest.ofCandidates candidates).candidate place).isHook).map
        (Forest.ofCandidates candidates).candidate) =
      candidates.filter fun candidate => !candidate.isHook :=
    (Forest.Lists.ofCandidates candidates).filter_candidate fun candidate => !candidate.isHook
  rw [heads, ← listed, List.forall₂_map_left_iff, List.forall₂_map_right_iff, List.forall₂_same]
  exact fun place member => headAt_shows given (by simpa using (List.mem_filter.mp member).2)

/-- **The hooks at the top and in all blocks** show the hooks that were collected. -/
theorem hooks_shown : ∃ hooks,
    hooks.Perm (outline.hooks ++
      (Tree.walk outline.blocks).flatMap fun block => block.label.hooks) ∧
      List.Forall₂ (Hook.Shows tree.source) hooks (candidates.filter Candidate.isHook) := by
  refine ⟨hooksOf tree.source candidates, ?_, hooksOf_shows tree.source candidates⟩
  obtain ⟨judged, given, heads⟩ := heads_eq assembled laminar increasing
  have lists := Forest.Lists.ofCandidates candidates
  have perm := lists.linked.hooks_perm
  rw [lists.size] at perm
  have inBlocks : ∀ place, (headAt tree.source judged place).hooks =
      hooksOf tree.source (((Forest.ofCandidates candidates).member place).hooks.map
        (Forest.ofCandidates candidates).candidate) := by
    intro place
    rw [← given.hooks, ← funext given.candidate]
    rfl
  have shown : (Tree.walk outline.blocks).flatMap (fun block => block.label.hooks) =
      hooksOf tree.source ((((List.range candidates.length).filter fun place =>
        !((Forest.ofCandidates candidates).candidate place).isHook).flatMap fun place =>
          ((Forest.ofCandidates candidates).member place).hooks).map
            (Forest.ofCandidates candidates).candidate) := by
    have walked : (Tree.walk outline.blocks).flatMap (fun block => block.label.hooks) =
        ((Tree.walk outline.blocks).map Tree.label).flatMap BlockHead.hooks := by
      rw [List.flatMap_map]
    rw [walked, heads, List.flatMap_map]
    unfold hooksOf
    rw [List.map_flatMap, List.filterMap_flatMap]
    exact List.flatMap_congr fun place _ => inBlocks place
  have listed : ((List.range candidates.length).filter fun place =>
      ((Forest.ofCandidates candidates).candidate place).isHook).map
        (Forest.ofCandidates candidates).candidate =
      candidates.filter Candidate.isHook := lists.filter_candidate Candidate.isHook
  rw [shown, assembled.hooks, ← hooksOf_append, ← List.map_append, ← hooksOf_filter, ← listed]
  exact (perm.symm.map _).filterMap _

end Collected

/-! ### Statistics -/

/-- What shows candidates can be counted among them. -/
theorem length_filter_of_shows {α β : Type} {shows : α → β → Prop} {left : List α} {right : List β}
    (shown : List.Forall₂ shows left right) (keepLeft : α → Bool) (keepRight : β → Bool)
    (same : ∀ first second, shows first second → keepLeft first = keepRight second) :
    (left.filter keepLeft).length = (right.filter keepRight).length := by
  refine List.Forall₂.length_eq (List.rel_filter (fun first second shows => ?_) shown)
  show keepLeft first = true ↔ keepRight second = true
  rw [same first second shows]

/-- **The statistics count what the blocks and the hooks show.** -/
theorem statistics_of_shows {outline : Outline}
    (blocks : List.Forall₂ BlockHead.Shows ((Tree.walk outline.blocks).map Tree.label)
      (candidates.filter fun candidate => !candidate.isHook))
    (hooks : ∃ hooks,
      hooks.Perm
      (outline.hooks ++ (Tree.walk outline.blocks).flatMap fun block => block.label.hooks) ∧
        List.Forall₂ (Hook.Shows source) hooks (candidates.filter Candidate.isHook)) :
    outline.statistics.suites = (candidates.filter Candidate.isSuite).length ∧
      outline.statistics.tests = (candidates.filter Candidate.isTest).length ∧
      outline.statistics.asyncTests =
        (candidates.filter fun candidate => candidate.isTest && candidate.isAsync).length ∧
      outline.statistics.hooks = (candidates.filter Candidate.isHook).length := by
  have isTest : ∀ (head : BlockHead) (candidate : Candidate), head.Shows candidate →
      (head.kind == .test) = candidate.isTest := by
    intro head candidate shows
    rw [Candidate.isTest, shows.kind]
    cases head.kind <;> rfl
  have onlyTests : ∀ candidate : Candidate, (candidate.isTest && !candidate.isHook) =
      candidate.isTest := by
    intro candidate
    rcases candidate.kinds with kind | kind | ⟨hook, kind⟩ <;>
      simp [Candidate.isTest, Candidate.isHook, kind, CallKind.isHook]
  have onlySuites : ∀ candidate : Candidate, (!candidate.isTest && !candidate.isHook) =
      candidate.isSuite := by
    intro candidate
    rcases candidate.kinds with kind | kind | ⟨hook, kind⟩ <;>
      simp [Candidate.isTest, Candidate.isHook, Candidate.isSuite, kind, CallKind.isHook]
  have all : (Tree.walk outline.blocks).length =
      (candidates.filter fun candidate => !candidate.isHook).length := by
    rw [← blocks.length_eq, List.length_map]
  have tests : ((Tree.walk outline.blocks).filter fun block => block.label.kind == .test).length =
      (candidates.filter Candidate.isTest).length := by
    have counted :=
      length_filter_of_shows blocks (fun head => head.kind == .test) Candidate.isTest isTest
    rw [List.filter_map, List.length_map, List.filter_filter] at counted
    simp only [onlyTests] at counted
    exact counted
  have asyncTests :
      (((Tree.walk outline.blocks).filter fun block => block.label.kind == .test).filter
      fun block => block.label.isAsync).length =
        (candidates.filter fun candidate => candidate.isTest && candidate.isAsync).length := by
    have counted := length_filter_of_shows blocks (fun head => head.isAsync && head.kind == .test)
      (fun candidate => candidate.isTest && candidate.isAsync) fun head candidate shows => by
        rw [isTest head candidate shows, shows.isAsync, Bool.and_comm]
    rw [List.filter_map, List.length_map, List.filter_filter] at counted
    simp only [Bool.and_right_comm _ _ (!_), onlyTests] at counted
    rw [List.filter_filter]
    exact counted
  -- Of the suites and tests those that are no tests are the suites.
  have halves : (candidates.filter fun candidate => !candidate.isHook).length =
      (candidates.filter Candidate.isTest).length +
        (candidates.filter Candidate.isSuite).length := by
    rw [List.length_eq_length_filter_add Candidate.isTest, List.filter_filter, List.filter_filter]
    simp only [onlyTests, onlySuites]
  obtain ⟨listed, perm, shown⟩ := hooks
  have hooksLength := perm.length_eq
  rw [shown.length_eq, List.length_append] at hooksLength
  refine ⟨?_, ?_, ?_, ?_⟩
  · show ((Tree.walk outline.blocks).length : Int) -
      ((Tree.walk outline.blocks).filter fun block => block.label.kind == .test).length = _
    omega
  · rw [← tests]
    rfl
  · rw [← asyncTests]
    rfl
  · show (outline.hooks.length : Int) +
      ((Tree.walk outline.blocks).flatMap fun block => block.label.hooks).length = _
    omega

/-- **Nothing is lost from a tree to its outline, nothing is told twice, and nothing changes
places**: the blocks in the order in which they are visited show the suites and tests that were
collected, in the order in which they were collected; the hooks at the top and in all blocks show
each hook that was collected once; and the statistics count what was collected. -/
theorem outline_complete {reader : TreeReader} {options : Options} {text : Text}
    {language : Language} {tree : SyntaxTree} {outline : Outline}
    (encoded : Source.ofText? text = .ok source)
    (named : Language.ofName? options.language = .ok language)
    (read : SyntaxTree.read reader language source = .ok tree) (noFault : tree.hasFault = false)
    (wellPlaced : tree.WellPlaced) (apart : tree.CallsApart)
    (returned : ofTextBy reader options text = .ok outline) :
    ∃ candidates, Candidate.collect options tree = .ok candidates ∧
      List.Forall₂ BlockHead.Shows ((Tree.walk outline.blocks).map Tree.label)
        (candidates.filter fun candidate => !candidate.isHook) ∧
      (∃ hooks,
        hooks.Perm (outline.hooks ++
          (Tree.walk outline.blocks).flatMap fun block => block.label.hooks) ∧
          List.Forall₂ (Hook.Shows source) hooks (candidates.filter Candidate.isHook)) ∧
      outline.statistics.suites = (candidates.filter Candidate.isSuite).length ∧
      outline.statistics.tests = (candidates.filter Candidate.isTest).length ∧
      outline.statistics.asyncTests =
        (candidates.filter fun candidate => candidate.isTest && candidate.isAsync).length ∧
      outline.statistics.hooks = (candidates.filter Candidate.isHook).length := by
  have outcome := ofTree_outcome options tree []
  rw [← ofTextBy_of_noFault encoded named read noFault, returned] at outcome
  obtain ⟨candidates, found, collected, assembled⟩ := outcome.assembled
  obtain ⟨nonempty, laid⟩ := Candidate.collect_laid wellPlaced apart collected
  have laminar : Forest.Laminar candidates := ⟨nonempty, laid.imp fun laid => by
    rcases laid with around | before
    · exact .inr (.inr (.inl around))
    · exact .inl before⟩
  have increasing : candidates.Pairwise fun left right => left.startOffset < right.startOffset := by
    refine laid.imp_of_mem fun {left right} member _ laid => ?_
    have leftNonempty := nonempty left member
    rw [Candidate.contains_iff] at laid
    omega
  have blocks := walk_shows assembled laminar increasing
  have hooks := hooks_shown assembled laminar increasing
  rw [SyntaxTree.source_of_read read] at hooks
  exact ⟨candidates, collected, blocks, hooks, statistics_of_shows blocks hooks⟩

/-- A suite around a test. -/
def nestedText : String := "suite('a',()=>\x7bit('b',()=>\x7b\x7d)\x7d)"

/-- The tree of a suite around a test. -/
def nestedRoot : Node := nodeOver .program none 0 31 [declaring 0 5 3 31 [declaring 15 2 3 29 []]]

/-- The suite and the test are counted once each. -/
theorem outline_complete_nested : ∃ outline,
    ofTextBy (fun _ _ => .ok (some nestedRoot)) .usual (Text.ofString nestedText) = .ok outline ∧
      outline.statistics.suites = 1 ∧ outline.statistics.tests = 1 ∧
      outline.statistics.hooks = 0 := by
  let tree : SyntaxTree := ⟨Source.ofChars nestedText.toList, nestedRoot⟩
  have encoded : Source.ofText? (Text.ofString nestedText) = .ok tree.source :=
    Source.ofText?_ofChars _
  have named : Language.ofName? Options.usual.language = .ok .typescript := by decide +kernel
  have noFault : tree.hasFault = false := by decide +kernel
  obtain ⟨outline, returned⟩ : ∃ outline, ofTree .usual tree [] = .ok outline :=
    exists_usual (by decide +kernel) (by decide +kernel) (by decide +kernel)
  rw [← ofTextBy_of_noFault encoded named
    (rfl : SyntaxTree.read (fun _ _ => .ok (some nestedRoot)) _ _ = .ok tree)
    noFault] at returned
  obtain ⟨candidates, collected, _, _, suites, tests, _, hooks⟩ := outline_complete encoded named
    (rfl : SyntaxTree.read _ _ _ = .ok tree) noFault (by decide +kernel) (by decide +kernel)
      returned
  have counts : (Candidate.collect .usual tree).map (fun candidates =>
      ((candidates.filter Candidate.isSuite).length, (candidates.filter Candidate.isTest).length,
        (candidates.filter Candidate.isHook).length)) = .ok (1, 1, 0) := by
    decide +kernel
  rw [collected] at counts
  obtain ⟨suiteCount, others⟩ := Prod.mk.inj (Except.ok.inj counts)
  obtain ⟨testCount, hookCount⟩ := Prod.mk.inj others
  rw [suiteCount] at suites
  rw [testCount] at tests
  rw [hookCount] at hooks
  exact ⟨outline, returned, suites, tests, hooks⟩

end Outline

end TestOutline
