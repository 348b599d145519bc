/-
**Options keep to their own part of an outline.**

Two extractions of one text under options that differ in one respect come to the same, but for the
part of the outline that the options are about. The two runs are followed side by side, down to the
function that puts an outline together.

* `Candidate.collect_alike`: the candidates of two runs are alike as far as the options let them be.
* `ofTree_related`, `ofTextBy_related`: what relates the outlines that are put together relates the
  runs.
* `options_apart`: what each of the options may change.
-/

import TestOutline.Proofs.Messages
import TestOutline.Proofs.Metadata.Finding
import TestOutline.Proofs.Outline.Bodies
import TestOutline.Proofs.Returns

namespace TestOutline

/-! ### Candidates -/

namespace Candidate

variable {left right : Options} {tree : SyntaxTree} {β : Type} {change : Candidate → β}
  (alike : ∀ call kind name function,
    change (ofCall left tree call kind name function) =
      change (ofCall right tree call kind name function))

include alike

theorem ofNode_alike (node : Node) :
    (ofNode left tree node).map (Option.map change) =
      (ofNode right tree node).map (Option.map change) := by
  have made : ∀ kind name (function? : Option Node),
      (function?.map (ofCall left tree node kind name)).map change =
      (function?.map (ofCall right tree node kind name)).map change := by
    intro kind name function?
    cases function? with
    | none => rfl
    | some function => exact congrArg some (alike node kind name function)
  unfold ofNode
  cases tree.callKind? node with
  | none => rfl
  | some found =>
    cases found with
    | block kind =>
      simp only [ofBlockCall]
      rcases node.callArguments with _ | ⟨name, _ | ⟨function, rest⟩⟩
      · rfl
      · rfl
      · simp only
        split
        · cases tree.stringValue name with
          | error fault => rfl
          | ok text => exact congrArg Except.ok (made (.block kind) text (some function))
        · rfl
    | hook kind =>
      simp only [ofHookCall]
      rcases node.callArguments with _ | ⟨first, rest⟩
      · rfl
      · simp only
        split
        · cases tree.stringValue first with
          | error fault => rfl
          | ok text =>
            exact congrArg Except.ok (made (.hook kind) text (rest.head?.filter Node.isFunction))
        · exact congrArg Except.ok (made (.hook kind) [] ((some first).filter Node.isFunction))

/-- **The candidates of two runs are alike** if those of each call are. -/
theorem collect_alike :
    (collect left tree).map (List.map change) = (collect right tree).map (List.map change) := by
  unfold collect
  induction tree.root.walk with
  | nil => rfl
  | cons node rest ih =>
    rw [ofNodes, ofNodes, map_gathered, map_gathered, ofNode_alike alike, ih]

end Candidate

namespace Outline

/-! ### Two runs -/

section Runs

variable (relates : Except ExtractionFault Outline → Except ExtractionFault Outline → Prop)
  (left right : Options)

/-- The limits of two runs stop both or neither, or what one of them stops is related to all that
may come of the other. -/
def LimitsAgree (leftTells rightTells : Bool) : Prop :=
  leftTells = rightTells ∨
    (leftTells = false → ∀ result, relates (.error .hugeLimit) result) ∧
      (rightTells = false → ∀ result, relates result (.error .hugeLimit))

/-- **Trees under two options** come to results that are related if what is put together of them is;
what is put together are candidates that are alike, and the same imports and metadata. -/
theorem ofTree_related {β : Type} (change : Candidate → β) {tree : SyntaxTree}
    {warnings : List Text}
    (json : left.validateJson = right.validateJson)
    (alike : ∀ call kind name function,
      change (Candidate.ofCall left tree call kind name function) =
      change (Candidate.ofCall right tree call kind name function))
    (same : ∀ result, relates result result)
    (limits : ∀ leftCandidates rightCandidates, leftCandidates.map change =
      rightCandidates.map change →
      LimitsAgree relates (tellsDepth left (.ofCandidates leftCandidates))
        (tellsDepth right (.ofCandidates rightCandidates)))
    (outlines : ∀ imports leftCandidates rightCandidates found, leftCandidates.map change =
      rightCandidates.map change →
      relates (.ok (assembled left tree warnings imports leftCandidates found))
        (.ok (assembled right tree warnings imports rightCandidates found))) :
    relates (ofTree left tree warnings) (ofTree right tree warnings) := by
  have collected := Candidate.collect_alike alike
  rw [ofTree_eq, ofTree_eq, Metadata.scan_congr json]
  -- Where reading fails, both runs are reduced before they are compared: as they stand they differ
  -- in what comes behind.
  cases tree.imports with
  | error fault =>
    simp only [Except.mapError, bind, Except.bind]
    exact same _
  | ok imports =>
    cases foundLeft : Candidate.collect left tree with
    | error fault =>
      rw [foundLeft] at collected
      cases foundRight : Candidate.collect right tree with
      | error other =>
        rw [foundRight] at collected
        cases collected
        simp only [Except.mapError, bind, Except.bind]
        exact same _
      | ok candidates =>
        rw [foundRight] at collected
        cases collected
    | ok leftCandidates =>
      rw [foundLeft] at collected
      cases foundRight : Candidate.collect right tree with
      | error other =>
        rw [foundRight] at collected
        cases collected
      | ok rightCandidates =>
        rw [foundRight] at collected
        have agreed := Except.ok.inj collected
        have limit := limits _ _ agreed
        simp only [Except.mapError, bind, Except.bind, checkLimit]
        cases leftTold : tellsDepth left (Forest.ofCandidates leftCandidates) with
        | false =>
          rw [leftTold] at limit
          rcases limit with both | ⟨leftStops, _⟩
          · rw [← both]
            exact same _
          · exact leftStops rfl _
        | true =>
          cases rightTold : tellsDepth right (Forest.ofCandidates rightCandidates) with
          | false =>
            rw [leftTold, rightTold] at limit
            rcases limit with both | ⟨_, rightStops⟩
            · cases both
            · exact rightStops rfl _
          | true =>
            cases Metadata.scan right tree.source with
            | error digits => exact same _
            | ok found => exact outlines imports _ _ found agreed

/-- **Texts under two options** come to results that are related if their trees do. -/
theorem ofTextBy_related (language : left.language = right.language)
    (refuses : left.validateSyntax = right.validateSyntax) (same : ∀ result, relates result result)
    (trees : ∀ tree warnings, relates (ofTree left tree warnings) (ofTree right tree warnings))
    (reader : TreeReader) (text : Text) :
    relates (ofTextBy reader left text) (ofTextBy reader right text) := by
  unfold ofTextBy
  cases Source.ofText? text with
  | error fault =>
    simp only
    exact same _
  | ok source =>
    simp only [ofSource]
    rw [language, refuses]
    cases Language.ofName? right.language with
    | error fault =>
      simp only [Except.mapError, bind, Except.bind]
      exact same _
    | ok language =>
      simp only [Except.mapError, bind, Except.bind]
      cases SyntaxTree.read reader language source with
      | error reason =>
        simp only
        exact same _
      | ok tree =>
        simp only
        split
        · exact trees _ _
        · split
          · exact same _
          · exact trees _ _

/-- Texts under two options that keep the same bodies. -/
theorem ofTextBy_related_of_bodies (language : left.language = right.language)
    (refuses : left.validateSyntax = right.validateSyntax)
    (json : left.validateJson = right.validateJson)
    (bodies : ∀ tree function, Candidate.functionBody left tree function =
      Candidate.functionBody right tree function)
    (same : ∀ result, relates result result)
    (limits : ∀ forest, LimitsAgree relates (tellsDepth left forest) (tellsDepth right forest))
    (outlines : ∀ tree warnings imports candidates found,
      relates (.ok (assembled left tree warnings imports candidates found))
        (.ok (assembled right tree warnings imports candidates found)))
    (reader : TreeReader) (text : Text) :
    relates (ofTextBy reader left text) (ofTextBy reader right text) := by
  refine ofTextBy_related relates left right language refuses same (fun tree warnings => ?_)
    reader text
  refine ofTree_related relates left right id json (fun call kind name function => ?_) same ?_ ?_
  · rw [Candidate.ofCall, Candidate.ofCall, bodies]
  · intro leftCandidates rightCandidates alike
    rw [List.map_id, List.map_id] at alike
    rw [alike]
    exact limits _
  · intro imports leftCandidates rightCandidates found alike
    rw [List.map_id, List.map_id] at alike
    rw [alike]
    exact outlines tree warnings imports rightCandidates found

end Runs

/-! ### Parts of an outline -/

def withoutSharedCode (outline : Outline) : Outline := { outline with sharedCode := [] }

def withoutWarnings (outline : Outline) : Outline := { outline with warnings := [] }

/-- An outline without the tests after its requests. -/
def withoutTestCode (outline : Outline) : Outline :=
  { outline with requestMetadata := outline.requestMetadata.map fun block =>
    { block with testCode := none } }

/-- An outline in which more is reported, behind what is reported already. -/
def withReports (errors warnings : List Text) (outline : Outline) : Outline :=
  { outline with errors := outline.errors ++ errors, warnings := outline.warnings ++ warnings }

/-- **Two results are the same but for a part** that is left out of both. -/
def SameBut (drop : Outline → Outline) (first second : Except ExtractionFault Outline) : Prop :=
  first.map drop = second.map drop

/-- **A limit of depths that cannot be written stops an extraction** under it. -/
structure StoppedByLimit (options : Options) (result : Except ExtractionFault Outline) : Prop where
  stopped : result = .error .hugeLimit
  unwritten : options.maxNestingDepth.all Text.canWrite = false

/-- Two results are the same but for a part, or the limit of one of them stops it. -/
def SameButUnlessStopped (drop : Outline → Outline) (left right : Options)
    (first second : Except ExtractionFault Outline) : Prop :=
  SameBut drop first second ∨ StoppedByLimit left first ∨ StoppedByLimit right second

/-- **The second result reports more than the first**, and is the same otherwise. -/
def ReportsMore (first second : Except ExtractionFault Outline) : Prop :=
  ∃ errors warnings, second = first.map (withReports errors warnings)

theorem sameBut_self (drop : Outline → Outline) (result : Except ExtractionFault Outline) :
    SameBut drop result result := rfl

theorem unwritten_of_not_tellsDepth {options : Options} {forest : Forest}
    (silent : tellsDepth options forest = false) :
    options.maxNestingDepth.all Text.canWrite = false := by
  rw [tellsDepth, Bool.or_eq_false_iff] at silent
  exact silent.1

/-- Where a limit stops a run, the other one may come to anything. -/
theorem limitsAgree_unlessStopped (drop : Outline → Outline) (left right : Options)
    (forest : Forest) :
    LimitsAgree (SameButUnlessStopped drop left right) (tellsDepth left forest)
      (tellsDepth right forest) :=
  .inr ⟨fun silent _ => .inr (.inl ⟨rfl, unwritten_of_not_tellsDepth silent⟩),
    fun silent _ => .inr (.inr ⟨rfl, unwritten_of_not_tellsDepth silent⟩)⟩

theorem reportsMore_self (result : Except ExtractionFault Outline) : ReportsMore result result := by
  refine ⟨[], [], ?_⟩
  cases result with
  | error fault => rfl
  | ok outline => simp [Except.map, withReports]

/-! ### What is put together -/

variable {left right : Options} (tree : SyntaxTree) (warnings : List Text) (imports : List Import)
  (candidates : List Candidate) (found : MetadataOutline)

/-- Options that ask for the same kinds of shared code differ in its bodies at most. -/
theorem sharedCode_bare (wanted : SyntaxTree.isWanted left = SyntaxTree.isWanted right) :
    (tree.sharedCode left).map SharedCode.bare = (tree.sharedCode right).map SharedCode.bare := by
  rw [SyntaxTree.sharedCode, SyntaxTree.sharedCode, List.map_filterMap, List.map_filterMap]
  refine List.filterMap_congr fun statement _ => ?_
  unfold SyntaxTree.sharedCodeOf?
  rw [wanted]
  cases SyntaxTree.declarationOf? statement with
  | none => rfl
  | some declaration =>
    simp only [Option.bind_eq_bind, Option.bind_some]
    cases SyntaxTree.sharedKind? declaration with
    | none => rfl
    | some kind =>
      simp only [Option.bind_some]
      split <;> rfl

/-- A test that is attached to a request changes nothing else about it. -/
theorem attachTest_keeps {β : Type} {field : MetadataBlock → β}
    (keeps : ∀ (block : MetadataBlock) testCode, field { block with testCode := testCode } =
      field block)
    (options : Options) (source : Source) (tests : List Candidate) (block : MetadataBlock) :
    field (attachTest options source tests block) = field block := by
  unfold attachTest
  split
  · split
    · rfl
    · exact keeps _ _
  · exact keeps _ _

/-- What is kept of all requests does not depend on their tests. -/
theorem requestsOf_keeps {β : Type} (field : MetadataBlock → β)
    (keeps : ∀ (block : MetadataBlock) testCode, field { block with testCode := testCode } =
      field block)
    (options : Options) (source : Source) :
    (requestsOf options source candidates found).map field = found.requestMetadata.map field := by
  rw [requestsOf, List.map_map]
  exact List.map_congr_left fun block _ => attachTest_keeps keeps _ _ _ block

/-- **How far tests are looked for** changes nothing but the tests of requests. -/
theorem assembled_lookahead (options : Options) (lines : Int) :
    (assembled { options with lookaheadLines := lines } tree warnings imports candidates
      found).withoutTestCode =
      (assembled options tree warnings imports candidates found).withoutTestCode := by
  let further := { options with lookaheadLines := lines }
  have classifiers : classifierOf further tree.source candidates found =
      classifierOf options tree.source candidates found := by
    rw [classifierOf, classifierOf, requestsOf_keeps candidates found _ fun _ _ => rfl,
      requestsOf_keeps candidates found _ fun _ _ => rfl]
    rfl
  have tested := fun options =>
    requestsOf_keeps candidates found (fun block => { block with testCode := none })
      (fun _ _ => rfl) options tree.source
  show (assembled further tree warnings imports candidates found).withoutTestCode = _
  unfold assembled withoutTestCode
  simp only [classifiers, tested]
  rfl

/-- **Strictness** reports more, behind what is reported without it. -/
theorem assembled_strict (options : Options) : ∃ errors more,
    assembled { options with strictMode := true } tree warnings imports candidates found =
      (assembled options tree warnings imports candidates found).withReports errors more := by
  cases strict : options.strictMode with
  | true =>
    have same : { options with strictMode := true } = options := by
      cases options
      cases strict
      rfl
    exact ⟨[], [], by simp [same, withReports]⟩
  | false =>
    let plain := assembled options tree warnings imports candidates found
    let base := warnings ++ deepWarnings options (Forest.ofCandidates candidates) ++ found.warnings
    let reports := strictReports { options with strictMode := true } imports plain.blocks found
    have silent : strictReports options imports plain.blocks found = ([], []) := by
      rw [strictReports, strict, if_neg Bool.false_ne_true]
    have errors : plain.errors = found.errors := by
      show found.errors ++ (strictReports options imports plain.blocks found).1 = _
      rw [silent, List.append_nil]
    have warned : plain.warnings = base.foldl addMessage [] := by
      show (base ++ (strictReports options imports plain.blocks found).2).foldl addMessage [] = _
      rw [silent, List.append_nil]
    let more :=
      (reports.2.filter fun message => !(base.foldl addMessage []).contains message).eraseDups
    have added : reports.2.foldl addMessage (base.foldl addMessage []) =
        base.foldl addMessage [] ++ more :=
      foldl_addMessage_eq _ _
    refine ⟨reports.1, more, ?_⟩
    show { plain with
      errors := found.errors ++ reports.1
      warnings := (base ++ reports.2).foldl addMessage [] } = plain.withReports reports.1 more
    rw [List.foldl_append, added, withReports, errors, warned]

/-- **Options keep to their own part of an outline**, whatever reads the trees. Formatting is about
bodies, the kinds of shared code about shared code, the depth of blocks about warnings, and how far
a test is looked for about the tests of requests. Strictness reports more, behind what is reported
without it. Only a limit of depths that cannot be written stops one of two such extractions and not
the other. -/
theorem options_apart (reader : TreeReader) (options : Options) (text : Text) :
    (∀ preserve comments, SameBut withoutBodies (ofTextBy reader options text)
      (ofTextBy reader { options with preserveFormatting := preserve, includeComments := comments }
        text)) ∧
    (∀ helpers types, SameBut withoutSharedCode (ofTextBy reader options text)
      (ofTextBy reader { options with extractHelpers := helpers, extractTypes := types } text)) ∧
    (∀ limit, SameButUnlessStopped withoutWarnings options { options with maxNestingDepth := limit }
      (ofTextBy reader options text)
        (ofTextBy reader { options with maxNestingDepth := limit } text)) ∧
    (∀ lines, SameBut withoutTestCode (ofTextBy reader options text)
      (ofTextBy reader { options with lookaheadLines := lines } text)) ∧
    ReportsMore (ofTextBy reader options text)
      (ofTextBy reader { options with strictMode := true } text) := by
  refine ⟨fun preserve comments => ?formatting, fun helpers types => ?shared, fun limit => ?depth,
    fun lines => ?lookahead, ?strict⟩
  case formatting =>
    have same := sameBut_self withoutBodies
    have wanted : SyntaxTree.isWanted options =
        SyntaxTree.isWanted
          { options with preserveFormatting := preserve, includeComments := comments } := by
      funext kind
      cases kind <;> rfl
    refine ofTextBy_related _ options _ (by rfl) (by rfl) same (fun tree warnings => ?_) reader text
    refine ofTree_related _ options _ Candidate.bare (by rfl) (fun _ _ _ _ => by rfl) same ?limits
      ?outlines
    case limits =>
      intro leftCandidates rightCandidates alike
      refine .inl ?_
      rw [← tellsDepth_bare, Forest.bare_ofCandidates, alike, ← Forest.bare_ofCandidates,
        tellsDepth_bare]
      rfl
    intro imports leftCandidates rightCandidates found alike
    refine congrArg Except.ok ?_
    -- Without their bodies both runs have the same candidates, and nothing else reads how these are
    -- formatted.
    rw [withoutBodies_assembled, withoutBodies_assembled, alike, sharedCode_bare tree wanted]
    rfl
  case shared =>
    have same := sameBut_self withoutSharedCode
    exact ofTextBy_related_of_bodies _ options _ (by rfl) (by rfl) (by rfl) (fun _ _ => by rfl) same
      (fun _ => .inl (by rfl)) (fun _ _ _ _ _ => by rfl) reader text
  case depth =>
    exact ofTextBy_related_of_bodies _ options _ (by rfl) (by rfl) (by rfl) (fun _ _ => by rfl)
      (fun _ => .inl (by rfl)) (limitsAgree_unlessStopped withoutWarnings _ _)
      (fun _ _ _ _ _ => .inl (by rfl)) reader text
  case lookahead =>
    have same := sameBut_self withoutTestCode
    refine ofTextBy_related_of_bodies _ options _ (by rfl) (by rfl) (by rfl) (fun _ _ => by rfl)
      same (fun _ => .inl (by rfl)) (fun tree warnings imports candidates found => ?_) reader text
    exact congrArg Except.ok
      (assembled_lookahead tree warnings imports candidates found options lines).symm
  case strict =>
    refine ofTextBy_related_of_bodies _ options _ (by rfl) (by rfl) (by rfl) (fun _ _ => by rfl)
      reportsMore_self (fun _ => .inl (by rfl))
      (fun tree warnings imports candidates found => ?_) reader text
    obtain ⟨errors, more, strict⟩ := assembled_strict tree warnings imports candidates found options
    exact ⟨errors, more, congrArg Except.ok strict⟩

end Outline

end TestOutline
