/-
**Outlines without the bodies of functions.**

The bodies that are kept of suites, tests, hooks and shared code go into an outline as they are: no
link, no rule and no search looks at them. So it makes no difference whether they are dropped from
an outline or from the candidates that it is made of.

* `Candidate.bare`, `Member.bare`, `Forest.bare`: without bodies.
* `Forest.bare_ofCandidates`: candidates without bodies are linked in the same way.
* `withoutBodies_assembled`: the outline of candidates without bodies.
-/

import TestOutline.Proofs.Outline.Assembly

namespace TestOutline

open TestOutline.Tree (mapAll mapAll_mapAll)

/-! ### Dropping bodies -/

def Hook.bare (hook : Hook) : Hook := { hook with body := [] }

def SharedCode.bare (code : SharedCode) : SharedCode := { code with body := [] }

def BlockHead.bare (head : BlockHead) : BlockHead :=
  { head with body := [], hooks := head.hooks.map Hook.bare }

/-- **An outline without bodies**: those of blocks, hooks and shared code are empty, and all else is
as it was. -/
def Outline.withoutBodies (outline : Outline) : Outline :=
  { outline with
    blocks := mapAll BlockHead.bare outline.blocks
    hooks := outline.hooks.map Hook.bare
    sharedCode := outline.sharedCode.map SharedCode.bare }

def Candidate.bare (candidate : Candidate) : Candidate := { candidate with body := [] }

def Member.bare (member : Member) : Member := { member with candidate := member.candidate.bare }

/-! ### Linking -/

namespace Forest

/-- A forest without the bodies of its candidates. -/
def bare (forest : Forest) : Forest := { forest with members := forest.members.map Member.bare }

variable (forest : Forest) (place : Nat)

@[simp] theorem size_bare : forest.bare.size = forest.size := rfl

theorem member_bare : forest.bare.member place = (forest.member place).bare := by
  unfold member bare
  cases forest.numbers[place]? with
  | none => rfl
  | some number =>
    simp only [Option.bind_some, Array.getElem?_map]
    cases forest.members[number]? with
    | none => rfl
    | some member => rfl

theorem candidate_bare : forest.bare.candidate place = (forest.candidate place).bare := by
  rw [candidate, member_bare]
  rfl

/-- What changes a member without looking at its body may be done without it. -/
theorem modify_bare (change : Member → Member)
    (keeps : ∀ member, (change member).bare = change member.bare) :
    (forest.modify place change).bare = forest.bare.modify place change := by
  unfold modify
  cases found : forest.numbers[place]? with
  | none => simp only [bare, found]
  | some number =>
    simp only [bare, found, Forest.mk.injEq, and_true]
    refine Array.ext_getElem? fun index => ?_
    rw [Array.getElem?_map, Array.getElem?_modify, Array.getElem?_modify, Array.getElem?_map]
    split
    · cases forest.members[index]? with
      | none => rfl
      | some member => exact congrArg some (keeps member)
    · rfl

theorem unlinked_bare (members : Array Member) (numbers : List Nat) :
    (unlinked members numbers).bare = unlinked (members.map Member.bare) numbers := by
  have step : ∀ (forest : Forest) (place : Nat),
      forest.bare.modify place (Member.unlinked place) =
        (forest.modify place (Member.unlinked place)).bare :=
    fun forest place => (modify_bare forest place (Member.unlinked place) fun _ => rfl).symm
  unfold unlinked
  exact (List.foldl_hom bare step).symm

theorem attach_bare (parent : Option Nat) :
    (forest.attach place parent).bare = forest.bare.attach place parent := by
  have isHook : (forest.bare.candidate place).isHook = (forest.candidate place).isHook := by
    rw [candidate_bare]
    rfl
  unfold attach
  rw [isHook]
  cases parent with
  | none =>
    simp only
    split <;> rfl
  | some owner =>
    have adopts : ∀ member : Member, (member.adopt (forest.candidate place).isHook place).bare =
        member.bare.adopt (forest.candidate place).isHook place := by
      intro member
      unfold Member.adopt
      split <;> rfl
    simp only
    rw [modify_bare _ owner _ adopts, member_bare]
    congr 1
    exact modify_bare forest place (Member.below owner ((forest.member owner).depth + 1))
      fun _ => rfl

theorem attachAll_bare (links : List ParentLink) :
    (forest.attachAll links).bare = forest.bare.attachAll links := by
  unfold attachAll
  exact (List.foldl_hom bare fun forest link => (attach_bare forest link.1 link.2).symm).symm

theorem order_bare : forest.bare.order = forest.order := by
  unfold order
  simp only [candidate_bare, size_bare]
  rfl

theorem parentsFrom_bare (opened places : List Nat) :
    forest.bare.parentsFrom opened places = forest.parentsFrom opened places := by
  induction places generalizing opened with
  | nil => rfl
  | cons place rest ih =>
    unfold parentsFrom stillOpen parentAmong
    simp only [candidate_bare]
    rw [ih]
    rfl

theorem parents_bare : forest.bare.parents = forest.parents := by
  rw [parents, parents, order_bare, parentsFrom_bare]

theorem treesUnder_bare (owner : Option Nat) (links : List ParentLink) :
    forest.bare.treesUnder owner links = forest.treesUnder owner links := by
  induction links generalizing owner with
  | nil => rfl
  | cons link rest ih =>
    unfold treesUnder
    rw [candidate_bare, ih, ih]
    rfl

theorem trees_bare : forest.bare.trees = forest.trees := by
  rw [trees, trees, parents_bare, treesUnder_bare]

/-- **Candidates without bodies are linked in the same way.** -/
theorem bare_ofCandidates (candidates : List Candidate) :
    (ofCandidates candidates).bare = ofCandidates (candidates.map Candidate.bare) := by
  unfold ofCandidates
  have members : (candidates.map Member.ofCandidate).toArray.map Member.bare =
      ((candidates.map Candidate.bare).map Member.ofCandidate).toArray := by
    rw [List.map_toArray, List.map_map, List.map_map]
    rfl
  rw [link_eq_attachAll, attachAll_bare, ← parents_bare, unlinked_bare, members, link_eq_attachAll,
    List.length_map]

theorem placesUnder_bare (links : List ParentLink) (owner : Option Nat) :
    forest.bare.placesUnder links owner = forest.placesUnder links owner := by
  rw [placesUnder, placesUnder, treesUnder_bare]

end Forest

/-! ### Putting an outline together -/

namespace Outline

variable {options : Options} {source : Source} {candidates : List Candidate} {forest : Forest}

theorem hooksOf_bare (source : Source) (candidates : List Candidate) :
    hooksOf source (candidates.map Candidate.bare) = (hooksOf source candidates).map Hook.bare := by
  rw [hooksOf, hooksOf, List.filterMap_map, List.map_filterMap]
  refine List.filterMap_congr fun candidate _ => ?_
  unfold Function.comp hookOf
  simp only [Candidate.bare]
  cases candidate.kind with
  | block kind => rfl
  | hook kind => rfl

theorem judgedHead_bare (source : Source) (classifier : Classifier) (forest : Forest)
    (place : Nat) :
    judgedHead source classifier forest.bare place =
      (judgedHead source classifier forest place).bare := by
  have hooks : (forest.member place).bare.hooks.map forest.bare.candidate =
      ((forest.member place).hooks.map forest.candidate).map Candidate.bare := by
    rw [List.map_map]
    exact List.map_congr_left fun hook _ => forest.candidate_bare hook
  rw [judgedHead, forest.member_bare, hooks, hooksOf_bare, forest.candidate_bare]
  rfl

/-- **The blocks of candidates without bodies** are the blocks without bodies. -/
theorem blocksOf_bare (source : Source) (classifier : Classifier) (forest : Forest) :
    blocksOf source classifier forest.bare =
      mapAll BlockHead.bare (blocksOf source classifier forest) := by
  rw [blocksOf, blocksOf, mapAll_mapAll, forest.trees_bare,
    funext (judgedHead_bare source classifier forest)]

theorem deepWarnings_bare (options : Options) (forest : Forest) :
    deepWarnings options forest.bare = deepWarnings options forest := by
  unfold deepWarnings
  rw [forest.parents_bare, forest.placesUnder_bare]
  simp only [forest.member_bare, forest.candidate_bare]
  rfl

theorem tellsDepth_bare (options : Options) (forest : Forest) :
    tellsDepth options forest.bare = tellsDepth options forest := by
  rw [tellsDepth, deepWarnings_bare, tellsDepth]

/-- Tests are searched by where they start, and the text that is taken of one is not its body. -/
theorem requestsOf_bare (options : Options) (source : Source) (candidates : List Candidate)
    (found : MetadataOutline) :
    requestsOf options source (candidates.map Candidate.bare) found =
      requestsOf options source candidates found := by
  have tests : testsInOrder (candidates.map Candidate.bare) =
      (testsInOrder candidates).map Candidate.bare := by
    let startsFirst := fun left right : Candidate => decide (left.startOffset ≤ right.startOffset)
    have sorted := @List.map_mergeSort _ _ startsFirst startsFirst Candidate.bare
      (candidates.filter Candidate.isTest)
      fun _ _ _ _ => rfl
    rw [testsInOrder, testsInOrder, sorted, List.filter_map]
    rfl
  have nextTests : ∀ offset lastLine, nextTest? ((testsInOrder candidates).map Candidate.bare)
      offset lastLine =
      (nextTest? (testsInOrder candidates) offset lastLine).map Candidate.bare :=
    fun offset lastLine => List.find?_map
  rw [requestsOf, requestsOf, tests]
  refine List.map_congr_left fun block _ => ?_
  rw [attachTest, nextTests, attachTest]
  cases nextTest? (testsInOrder candidates) block.endOffset
    (block.endLine + options.lookaheadLines) with
  | none => rfl
  | some test => rfl

theorem isHollowSuite_bare (block : Block) :
    isHollowSuite (block.map BlockHead.bare) = isHollowSuite block := by
  unfold isHollowSuite
  rw [Tree.label_map, Tree.children_map, Tree.walk_mapAll, List.any_map]
  simp only [Function.comp_def, Tree.label_map]
  rfl

theorem strictReports_bare (options : Options) (imports : List Import) (blocks : List Block)
    (found : MetadataOutline) :
    strictReports options imports (mapAll BlockHead.bare blocks) found =
      strictReports options imports blocks found := by
  have errors : ∀ hasMetadata,
      strictErrors (mapAll BlockHead.bare blocks) hasMetadata =
        strictErrors blocks hasMetadata := by
    intro hasMetadata
    cases blocks with
    | nil => rfl
    | cons block rest => rfl
  have warnings : strictWarnings imports (mapAll BlockHead.bare blocks) =
      strictWarnings imports blocks := by
    have hollow : isHollowSuite ∘ Tree.map BlockHead.bare = isHollowSuite :=
      funext isHollowSuite_bare
    have said : hollowWarning ∘ Tree.map BlockHead.bare = hollowWarning := by
      funext block
      rw [Function.comp_apply, hollowWarning, Tree.label_map]
      rfl
    rw [strictWarnings, Tree.walk_mapAll, List.filter_map, List.map_map, hollow, said,
      strictWarnings]
  unfold strictReports
  simp only [errors, warnings]

/-- **Bodies may be dropped from an outline or from its candidates.** -/
theorem withoutBodies_assembled (options : Options) (tree : SyntaxTree) (warnings : List Text)
    (imports : List Import) (candidates : List Candidate) (found : MetadataOutline) :
    (assembled options tree warnings imports candidates found).withoutBodies =
      { assembled options tree warnings imports (candidates.map Candidate.bare) found with
        sharedCode := (tree.sharedCode options).map SharedCode.bare } := by
  have classifiers : classifierOf options tree.source (candidates.map Candidate.bare) found =
      classifierOf options tree.source candidates found := by
    rw [classifierOf, requestsOf_bare, classifierOf]
  let forest := Forest.ofCandidates candidates
  have rootHooks : forest.rootHooks.map forest.bare.candidate =
      (forest.rootHooks.map forest.candidate).map Candidate.bare := by
    rw [List.map_map]
    exact List.map_congr_left fun hook _ => forest.candidate_bare hook
  unfold assembled withoutBodies
  simp only [← Forest.bare_ofCandidates, blocksOf_bare, deepWarnings_bare, requestsOf_bare,
    strictReports_bare, classifiers]
  rw [← hooksOf_bare, ← rootHooks]
  rfl

end Outline

end TestOutline
