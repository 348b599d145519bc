/-
**What an extraction can come to.**

* `TreeOutcome`, `TextOutcome`: the ways in which a tree and a text can come out, with what is in an
  outline.
* `ofTree_outcome`, `ofTextBy_outcome`: there are no others. A member of the wrong kind and a visit
  that does not end are not among them.
-/

import TestOutline.Proofs.Forest.WellFormed
import TestOutline.Proofs.Outline.Assembly
import TestOutline.Proofs.Returns

namespace TestOutline.Outline

open TestOutline.Tree (mapAll)

/-- **The outline of a tree** holds what was found in it: the blocks are the trees of its
candidates. -/
structure Assembled (options : Options) (tree : SyntaxTree) (candidates : List Candidate)
    (found : MetadataOutline) (outline : Outline) : Prop where
  requestMetadata : outline.requestMetadata =
    found.requestMetadata.map (attachTest options tree.source (testsInOrder candidates))
  blocks : ∃ judged,
    Forest.Judged (.ofOptions options (outline.requestMetadata.map (·.endOffset)))
      (.ofCandidates candidates) judged ∧
      outline.blocks = mapAll (headAt tree.source judged) (Forest.ofCandidates candidates).trees
  hooks : outline.hooks = hooksOf tree.source
    ((Forest.ofCandidates candidates).rootHooks.map (Forest.ofCandidates candidates).candidate)

/-- **The ways in which a tree can come out.** -/
inductive TreeOutcome (options : Options) (tree : SyntaxTree) :
    Except ExtractionFault Outline → Prop
  | imports {fault : StringLiteral.Fault} : tree.imports = .error fault →
      TreeOutcome options tree (.error (.literal fault))
  | candidates {fault : StringLiteral.Fault} : Candidate.collect options tree = .error fault →
      TreeOutcome options tree (.error (.literal fault))
  | limit {candidates : List Candidate} : Candidate.collect options tree = .ok candidates →
      tellsDepth options (.ofCandidates candidates) = false →
      TreeOutcome options tree (.error .hugeLimit)
  | metadata {digits : Nat} : Metadata.scan options tree.source = .error digits →
      TreeOutcome options tree (.error (.hugeInteger digits))
  | outline {imports : List Import} {candidates : List Candidate} {found : MetadataOutline}
      {outline : Outline} :
      tree.imports = .ok imports → Candidate.collect options tree = .ok candidates →
      tellsDepth options (.ofCandidates candidates) = true →
      Metadata.scan options tree.source = .ok found →
      Assembled options tree candidates found outline →
      TreeOutcome options tree (.ok outline)

/-- **A tree comes out in one of these ways.** -/
theorem ofTree_outcome (options : Options) (tree : SyntaxTree) (warnings : List Text) :
    TreeOutcome options tree (ofTree options tree warnings) := by
  rw [ofTree_eq]
  cases imported : tree.imports with
  | error fault => exact .imports imported
  | ok imports =>
    cases collected : Candidate.collect options tree with
    | error fault => exact .candidates collected
    | ok candidates =>
      simp only [Except.mapError, bind, Except.bind, checkLimit]
      cases told : tellsDepth options (Forest.ofCandidates candidates) with
      | false => exact .limit collected told
      | true =>
        rw [if_pos rfl]
        cases scanned : Metadata.scan options tree.source with
        | error digits => exact .metadata scanned
        | ok found =>
          have lists := Forest.Lists.ofCandidates candidates
          obtain ⟨judged, given, blocks⟩ := blocksOf_eq lists.linked lists.separate tree.source
            (classifierOf options tree.source candidates found)
          exact .outline imported collected told scanned ⟨rfl, ⟨judged, given, blocks⟩, rfl⟩

theorem TreeOutcome.assembled {options : Options} {tree : SyntaxTree} {outline : Outline}
    (outcome : TreeOutcome options tree (.ok outline)) :
    ∃ candidates found, Candidate.collect options tree = .ok candidates ∧
      Assembled options tree candidates found outline := by
  cases outcome with
  | outline _ collected _ _ assembled => exact ⟨_, _, collected, assembled⟩

/-- **A tree has an outline** where its imports, its candidates and its metadata can be read and the
limit of depths stops nothing. -/
theorem TreeOutcome.returns_iff {options : Options} {tree : SyntaxTree}
    {result : Except ExtractionFault Outline} (outcome : TreeOutcome options tree result) :
    Returns result ↔ Returns tree.imports ∧ Returns (Candidate.collect options tree) ∧
      (∀ candidates, Candidate.collect options tree = .ok candidates →
        tellsDepth options (.ofCandidates candidates) = true) ∧
      Returns (Metadata.scan options tree.source) := by
  cases outcome with
  | imports failed =>
    rw [failed]
    exact iff_of_false (not_returns_error _) fun all => not_returns_error _ all.1
  | candidates failed =>
    rw [failed]
    exact iff_of_false (not_returns_error _) fun all => not_returns_error _ all.2.1
  | limit collected silent =>
    refine iff_of_false (not_returns_error _) fun all => ?_
    rw [all.2.2.1 _ collected] at silent
    cases silent
  | metadata failed =>
    rw [failed]
    exact iff_of_false (not_returns_error _) fun all => not_returns_error _ all.2.2.2
  | outline imported collected told scanned _ =>
    rw [imported, collected, scanned, forall_ok_iff rfl]
    exact iff_of_true (returns_ok _) ⟨returns_ok _, returns_ok _, told, returns_ok _⟩

/-- Under the usual options there is no limit. -/
theorem exists_usual {tree : SyntaxTree} (imports : tree.imports.isOk = true)
    (candidates : (Candidate.collect .usual tree).isOk = true)
    (metadata : (Metadata.scan .usual tree.source).isOk = true) :
    ∃ outline, ofTree .usual tree [] = .ok outline :=
  (ofTree_outcome .usual tree []).returns_iff.mpr ⟨returns_of_isOk imports,
    returns_of_isOk candidates, fun _ _ => tellsDepth_of_canWrite rfl _, returns_of_isOk metadata⟩

/-- **The ways in which a text can come out.** -/
inductive TextOutcome (reader : TreeReader) (options : Options) (text : Text) :
    Except ExtractionFault Outline → Prop
  | unencodable {fault : EncodingFault} : Source.ofText? text = .error fault →
      TextOutcome reader options text (.ok (ofError (parseError fault.message)))
  | language {source : Source} {fault : LanguageFault} : Source.ofText? text = .ok source →
      Language.ofName? options.language = .error fault →
      TextOutcome reader options text (.error (.language fault))
  | unread {source : Source} {language : Language} {reason : Text} :
      Source.ofText? text = .ok source →
      Language.ofName? options.language = .ok language →
      SyntaxTree.read reader language source = .error reason →
      TextOutcome reader options text (.ok (ofError (parseError reason)))
  | refused {source : Source} {language : Language} {tree : SyntaxTree} :
      Source.ofText? text = .ok source →
      Language.ofName? options.language = .ok language →
      SyntaxTree.read reader language source = .ok tree →
      tree.hasFault = true → options.validateSyntax = true →
      TextOutcome reader options text (.ok (ofError (brokenError (faultLine tree))))
  | read {source : Source} {language : Language} {tree : SyntaxTree}
      {result : Except ExtractionFault Outline} :
      Source.ofText? text = .ok source → Language.ofName? options.language = .ok language →
      SyntaxTree.read reader language source = .ok tree →
      tree.hasFault = false ∨ options.validateSyntax = false → TreeOutcome options tree result →
      TextOutcome reader options text result

/-- **A text comes out in one of these ways.** -/
theorem ofTextBy_outcome (reader : TreeReader) (options : Options) (text : Text) :
    TextOutcome reader options text (ofTextBy reader options text) := by
  unfold ofTextBy
  cases encoded : Source.ofText? text with
  | error fault => exact .unencodable encoded
  | ok source =>
    simp only [ofSource]
    cases named : Language.ofName? options.language with
    | error fault => exact .language encoded named
    | ok language =>
      simp only [Except.mapError, bind, Except.bind]
      cases read : SyntaxTree.read reader language source with
      | error reason => exact .unread encoded named read
      | ok tree =>
        simp only
        by_cases fault : tree.hasFault = true
        · rw [if_neg (by simp [fault])]
          by_cases refuses : options.validateSyntax = true
          · rw [if_pos refuses]
            exact .refused encoded named read fault refuses
          · rw [if_neg refuses]
            exact .read encoded named read (.inr (by simpa using refuses)) (ofTree_outcome _ _ _)
        · rw [if_pos (by simpa using fault)]
          exact .read encoded named read (.inl (by simpa using fault)) (ofTree_outcome _ _ _)

/-- The outline of a text whose tree has no fault is that of the tree. -/
theorem ofTextBy_of_noFault {reader : TreeReader} {options : Options} {text : Text}
    {source : Source} {language : Language} {tree : SyntaxTree}
    (encoded : Source.ofText? text = .ok source)
    (named : Language.ofName? options.language = .ok language)
    (read : SyntaxTree.read reader language source = .ok tree) (noFault : tree.hasFault = false) :
    ofTextBy reader options text = ofTree options tree [] := by
  rw [ofTextBy, encoded]
  simp only [ofSource]
  rw [named]
  simp only [Except.mapError, bind, Except.bind]
  rw [read]
  simp only
  rw [if_pos (by simp [noFault])]

/-- No tree comes out at a member of the wrong kind, or at a visit that does not end. -/
theorem TreeOutcome.fault {options : Options} {tree : SyntaxTree} {fault : ExtractionFault}
    (outcome : TreeOutcome options tree (.error fault)) :
    (∃ literal, fault = .literal literal) ∨ (∃ digits, fault = .hugeInteger digits) ∨
      fault = .hugeLimit := by
  cases outcome with
  | imports _ => exact .inl ⟨_, rfl⟩
  | candidates _ => exact .inl ⟨_, rfl⟩
  | limit _ _ => exact .inr (.inr rfl)
  | metadata _ => exact .inr (.inl ⟨_, rfl⟩)

/-- **What can stop an extraction**: the language, a string literal, an integer in metadata, and the
limit of depths. -/
theorem TextOutcome.fault {reader : TreeReader} {options : Options} {text : Text}
    {fault : ExtractionFault} (outcome : TextOutcome reader options text (.error fault)) :
    (∃ language, fault = .language language) ∨ (∃ literal, fault = .literal literal) ∨
      (∃ digits, fault = .hugeInteger digits) ∨ fault = .hugeLimit := by
  cases outcome with
  | language _ _ => exact .inl ⟨_, rfl⟩
  | read _ _ _ _ outcome => exact .inr outcome.fault

/-- A node of a kind and a role that reaches over some bytes. -/
def nodeOver (kind : NodeKind) (field : Option NodeField) (start stop : Nat)
    (children : List Node) : Node :=
  .mk
    { kind := kind, field := field, isNamed := true, isMissing := false, start := start,
      stop := stop }
    children

/-- The statement `name('literal',()=>{…})` as the parser reads it, with a name and a literal of so
many bytes and with the statements `inner` in its function. -/
def declaring (start nameLength literalLength stop : Nat) (inner : List Node) : Node :=
  let arguments := start + nameLength
  let arrow := arguments + literalLength + 2
  nodeOver .expressionStatement none start stop [nodeOver .call none start stop [
    nodeOver .identifier (some .function) start arguments [],
    nodeOver .arguments (some .arguments) arguments stop [
      nodeOver .string none (arguments + 1) (arguments + 1 + literalLength) [],
      nodeOver .arrowFunction none arrow (stop - 1) [
        nodeOver .other none arrow (arrow + 2) [],
        nodeOver .statementBlock (some .body) (arrow + 4) (stop - 1) inner]]]]

/-! ### Links -/

/-- **Links fit together whatever is listed**, as long as each place has a member of its own, and so
no extraction comes to a member of the wrong kind or to a visit that does not end. -/
theorem links_fit_together :
    (∀ (members : Array Member) (numbers : List Nat) (candidates : List Candidate),
      Forest.Lists members numbers candidates →
        (Forest.link members numbers).size = candidates.length ∧
        (∀ (place : Nat) (inside : place < candidates.length),
          (Forest.link members numbers).candidate place = candidates[place]) ∧
        (Forest.link members numbers).WellFormed) ∧
    ∀ (reader : TreeReader) (options : Options) (text : Text),
      (∀ fault, ofTextBy reader options text ≠ .error (.kind fault)) ∧
        ofTextBy reader options text ≠ .error .endless := by
  refine ⟨fun members numbers candidates lists => ⟨lists.size, fun place => lists.candidate_link,
    lists.linked.wellFormed⟩, fun reader options text => ⟨fun fault failed => ?_, fun failed => ?_⟩⟩
  all_goals
    have outcome := ofTextBy_outcome reader options text
    rw [failed] at outcome
    rcases outcome.fault with ⟨_, same⟩ | ⟨_, same⟩ | ⟨_, same⟩ | same <;> cases same

/-- A suite around a test. -/
def suiteAround : List Candidate :=
  [Forest.spanning (.block .suite) 0 100, Forest.spanning (.block .test) 10 20]

/-- A test in a suite is owned by it alone. -/
theorem links_fit_together_nested :
    Forest.Lists (suiteAround.map Member.ofCandidate).toArray [0, 1] suiteAround ∧
    (Forest.link (suiteAround.map Member.ofCandidate).toArray [0, 1]).WellFormed :=
  have lists := Forest.Lists.ofCandidates suiteAround
  ⟨lists, (links_fit_together.1 _ _ _ lists).2.2⟩

/-- **A suite that is listed twice owns what is in it twice.** -/
theorem not_wellFormed_of_listed_twice : ¬ ∀ (members : Array Member) (numbers : List Nat),
    (∀ number ∈ numbers, number < members.size) → (Forest.link members numbers).WellFormed := by
  intro always
  let members := (suiteAround.map Member.ofCandidate).toArray
  have wellFormed := always members [0, 0, 1] (by decide)
  have once := (wellFormed.once false).length_eq
  have order : (Forest.unlinked members [0, 0, 1]).order = [0, 1, 2] :=
    List.mergeSort_of_pairwise (by decide)
  rw [Forest.link, order] at once
  revert once
  decide

end TestOutline.Outline
