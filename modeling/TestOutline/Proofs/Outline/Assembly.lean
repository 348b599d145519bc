/-
**An outline as a function of what was read.**

Of a tree, its imports, its candidates and its metadata are read, and each may fail; so may saying
how deep a block lies. What comes behind does not: linking, judging and visiting a forest end and
meet no member of the wrong kind, so that the outline is put together by a function.

* `judgedHead`, `blocksOf`: the blocks of a forest.
* `deepWarnings`, `tellsDepth`: what is said about its depth, and whether it can be said.
* `assembled`: the outline. `ofTree_eq` says that it is what comes out of a tree.
* `exists_tree`, `exists_assembled`: the outline of a text is put together in this way, or is that
  of an error.
-/

import TestOutline.Proofs.Outline.Blocks
import TestOutline.Proofs.Forest.Listing
import TestOutline.Proofs.Returns

namespace TestOutline.Outline

open TestOutline.Tree (mapAll mapAll_congr)

/-- The head of the block that a place makes, once it is judged. -/
def judgedHead (source : Source) (classifier : Classifier) (forest : Forest)
    (place : Nat) : BlockHead :=
  headOf (if (forest.candidate place).isSuite then .suite else .test)
    (hooksOf source ((forest.member place).hooks.map forest.candidate))
    ((forest.member place).judged (classifier.verdict (forest.candidate place)))

/-- The blocks of a forest, once it is judged. -/
def blocksOf (source : Source) (classifier : Classifier) (forest : Forest) : List Block :=
  mapAll (judgedHead source classifier forest) forest.trees

/-- What is said about the blocks of a forest that lie too deep. -/
def deepWarnings (options : Options) (forest : Forest) : List Text :=
  match options.maxNestingDepth with
  | none => []
  | some limit =>
    ((forest.placesUnder forest.parents none).filter fun place =>
      limit < (forest.member place).depth).map fun place =>
      Forest.depthWarning limit (forest.candidate place)

/-- Whether what there is to say about the depth of a forest can be said. -/
def tellsDepth (options : Options) (forest : Forest) : Bool :=
  options.maxNestingDepth.all Text.canWrite || (deepWarnings options forest).isEmpty

theorem tellsDepth_of_canWrite {options : Options}
    (writes : options.maxNestingDepth.all Text.canWrite = true) (forest : Forest) :
    tellsDepth options forest = true := by
  rw [tellsDepth, writes, Bool.true_or]

/-- What a limit that cannot be written stops. -/
def checkLimit (options : Options) (forest : Forest) : Except ExtractionFault Unit :=
  if tellsDepth options forest then .ok () else .error .hugeLimit

/-- The requests of a source, each with the test after it. -/
def requestsOf (options : Options) (source : Source) (candidates : List Candidate)
    (found : MetadataOutline) :
    List MetadataBlock :=
  found.requestMetadata.map (attachTest options source (testsInOrder candidates))

/-- The rules under which the blocks of a source are judged. -/
def classifierOf (options : Options) (source : Source) (candidates : List Candidate)
    (found : MetadataOutline) :
    Classifier :=
  .ofOptions options ((requestsOf options source candidates found).map (·.endOffset))

/-- **The outline of what was read of a tree**; `warnings` are those about the tree itself. -/
def assembled (options : Options) (tree : SyntaxTree) (warnings : List Text) (imports : List Import)
    (candidates : List Candidate) (found : MetadataOutline) : Outline :=
  let forest := Forest.ofCandidates candidates
  let blocks := blocksOf tree.source (classifierOf options tree.source candidates found) forest
  let reports := strictReports options imports blocks found
  { imports := imports
    blocks := blocks
    hooks := hooksOf tree.source (forest.rootHooks.map forest.candidate)
    sharedCode := tree.sharedCode options
    fileMetadata := found.fileMetadata
    requestMetadata := requestsOf options tree.source candidates found
    groupMetadata := found.groupMetadata
    errors := found.errors ++ reports.1
    warnings :=
      (warnings ++ deepWarnings options forest ++ found.warnings ++ reports.2).foldl addMessage [] }

/-- The head of a block of a judged forest, by the forest that was judged. -/
theorem headAt_judged {forest judged : Forest} {classifier : Classifier}
    (given : Forest.Judged classifier forest judged) (source : Source) {tree : Tree Nat}
    (member : tree ∈ Tree.preorderAll forest.trees) :
    headAt source judged tree.label = judgedHead source classifier forest tree.label := by
  obtain ⟨listed, noHook⟩ := Forest.label_mem_of_treesUnder tree member
  rw [Forest.parents_fst, Forest.mem_order] at listed
  rw [headAt, judgedHead, given.candidate, given.hooks, funext given.candidate,
    given.member _ listed, noHook, if_neg Bool.false_ne_true]

section Linked

variable {forest : Forest} (linked : forest.Linked forest.parents)

include linked

/-- **The blocks of a forest are its trees**, with the heads that judging the forest gives them. -/
theorem blocksOf_eq (separate : forest.Separate) (source : Source) (classifier : Classifier) :
    ∃ judged, Forest.Judged classifier forest judged ∧
      blocksOf source classifier forest = mapAll (headAt source judged) forest.trees := by
  obtain ⟨judged, _, given⟩ := linked.classify_judged separate classifier
  refine ⟨judged, given, mapAll_congr forest.trees fun tree member => ?_⟩
  exact (headAt_judged given source member).symm

/-- **The parts of a forest** are its blocks and the hooks at its top. -/
theorem partsOf_eq_blocksOf (separate : forest.Separate) (source : Source)
    (classifier : Classifier) :
    partsOf source classifier forest =
      pure (blocksOf source classifier forest,
        hooksOf source (forest.rootHooks.map forest.candidate)) := by
  obtain ⟨judged, given, parts⟩ := partsOf_eq linked separate source classifier
  rw [parts, blocksOf,
    mapAll_congr forest.trees fun tree member => headAt_judged given source member]

/-- **What is said about the depth of a forest**, if it can be said. -/
theorem depthWarnings_eq_deepWarnings (options : Options) :
    forest.depthWarnings options =
      .ended (if tellsDepth options forest then .ok (deepWarnings options forest)
        else .error .hugeLimit) := by
  unfold Forest.depthWarnings tellsDepth deepWarnings
  rw [linked.walk_placesUnder]
  cases options.maxNestingDepth with
  | none => rfl
  | some limit =>
    show Visit.ended (List.mapM _ _) = _
    rw [Forest.mapM_sayDepth, List.isEmpty_map, List.map_map, List.isEmpty_map]
    rfl

theorem answer_depthWarnings (options : Options) :
    (forest.depthWarnings options).answer = (do
      let _ ← checkLimit options forest
      return deepWarnings options forest) := by
  rw [depthWarnings_eq_deepWarnings linked, checkLimit]
  cases tellsDepth options forest <;> rfl

/-- **A limit stops nothing** if it can be written, or if no block lies deeper. -/
theorem tellsDepth_iff (options : Options) :
    tellsDepth options forest = true ↔ ∀ limit, options.maxNestingDepth = some limit →
      Text.canWrite limit = true ∨ forest.Within limit := by
  obtain ⟨places, walked, perm⟩ := linked.walk_perm
  obtain rfl : forest.placesUnder forest.parents none = places :=
    Option.some.inj (linked.walk_placesUnder.symm.trans walked)
  unfold tellsDepth deepWarnings
  cases options.maxNestingDepth with
  | none => simp
  | some limit =>
    rw [forall_some_iff, Bool.or_eq_true, List.isEmpty_iff, List.map_eq_nil_iff,
      List.filter_eq_nil_iff]
    refine or_congr_right ⟨fun none place inside noHook => ?_, fun within place member => ?_⟩
    · have member :=
        perm.mem_iff.mpr (List.mem_filter.mpr ⟨List.mem_range.mpr inside, by simp [noHook]⟩)
      simpa using none place member
    · obtain ⟨inside, noHook⟩ := List.mem_filter.mp (perm.mem_iff.mp member)
      simpa using within place (List.mem_range.mp inside) (by simpa using noHook)

end Linked

/-- **What comes out of a tree** is the outline of what was read of it. -/
theorem ofTree_eq (options : Options) (tree : SyntaxTree) (warnings : List Text) :
    ofTree options tree warnings = (do
      let imports ← tree.imports.mapError .literal
      let candidates ← (Candidate.collect options tree).mapError .literal
      let _ ← checkLimit options (Forest.ofCandidates candidates)
      let found ← (Metadata.scan options tree.source).mapError .hugeInteger
      return assembled options tree warnings imports candidates found) := by
  unfold ofTree
  cases tree.imports with
  | error fault => rfl
  | ok imports =>
    cases Candidate.collect options tree with
    | error fault => rfl
    | ok candidates =>
      have lists := Forest.Lists.ofCandidates candidates
      show ((Forest.ofCandidates candidates).depthWarnings options).answer >>= _ = _
      rw [Forest.ofCandidates, answer_depthWarnings lists.linked]
      show _ = checkLimit options (Forest.ofCandidates candidates) >>= _
      rw [Forest.ofCandidates]
      cases checkLimit options (Forest.link _ _) with
      | error fault => rfl
      | ok told =>
        cases Metadata.scan options tree.source with
        | error digits => rfl
        | ok found =>
          let classifier := classifierOf options tree.source candidates found
          have parts := partsOf_eq_blocksOf lists.linked lists.separate tree.source classifier
          show (partsOf tree.source classifier (Forest.ofCandidates candidates)).answer >>= _ = _
          rw [Forest.ofCandidates, parts, Visit.answer_pure]
          rfl

/-- The outline of a tree is put together from what was read of it. -/
theorem exists_assembled {options : Options} {tree : SyntaxTree} {warnings : List Text}
    {outline : Outline} (returned : ofTree options tree warnings = .ok outline) :
    ∃ imports candidates found, Metadata.scan options tree.source = .ok found ∧
      outline = assembled options tree warnings imports candidates found := by
  rw [ofTree_eq] at returned
  cases imported : tree.imports with
  | error fault =>
    rw [imported] at returned
    cases returned
  | ok imports =>
    cases collected : Candidate.collect options tree with
    | error fault =>
      rw [imported, collected] at returned
      cases returned
    | ok candidates =>
      cases told : checkLimit options (Forest.ofCandidates candidates) with
      | error fault =>
        rw [imported, collected] at returned
        simp only [Except.mapError, bind, Except.bind, told] at returned
        cases returned
      | ok _ =>
        rw [imported, collected] at returned
        simp only [Except.mapError, bind, Except.bind, told] at returned
        cases scanned : Metadata.scan options tree.source with
        | error digits =>
          rw [scanned] at returned
          cases returned
        | ok found =>
          rw [scanned] at returned
          exact ⟨imports, candidates, found, rfl, (Except.ok.inj returned).symm⟩

/-- **The outline of a text** is that of an error or that of a tree, whose faults are a warning. -/
theorem exists_tree {reader : TreeReader} {options : Options} {text : Text} {outline : Outline}
    (returned : ofTextBy reader options text = .ok outline) :
    (∃ error, outline = ofError error) ∨ ∃ tree warnings,
      (∀ warning ∈ warnings, ∃ line, warning = brokenWarning line) ∧
        ofTree options tree warnings = .ok outline := by
  unfold ofTextBy at returned
  cases encoded : Source.ofText? text with
  | error fault =>
    rw [encoded] at returned
    exact .inl ⟨_, (Except.ok.inj returned).symm⟩
  | ok source =>
    rw [encoded] at returned
    simp only [ofSource] at returned
    cases named : Language.ofName? options.language with
    | error fault =>
      rw [named] at returned
      cases returned
    | ok language =>
      rw [named] at returned
      simp only [Except.mapError, bind, Except.bind] at returned
      split at returned
      · exact .inl ⟨_, (Except.ok.inj returned).symm⟩
      · split at returned
        · exact .inr ⟨_, [], by simp, returned⟩
        · split at returned
          · exact .inl ⟨_, (Except.ok.inj returned).symm⟩
          · exact .inr ⟨_, _, by simp, returned⟩

end TestOutline.Outline
