/-
**When an extraction comes to a result.**

What is wrong with a text is reported in its outline, with three exceptions: an escape sequence
beyond the last code point in a literal that is read as text, metadata with an integer of too many
digits, and a limit of depths with too many digits for what is to be said about a block that lies
deeper.

* `SyntaxTree.imports_returns_iff`, `Candidate.collect_returns_iff`: the imports and the candidates
  of a tree can be read where their literals stand for texts.
* `Metadata.scan_returns_iff`: metadata can be read where no integer in it is too long.
* `LimitTold`: the limit of depths can be written, or no block lies deeper.
* `extraction_returns_iff`: nothing else stops the extraction of a text in a known language.
-/

import TestOutline.Proofs.Json.LongInteger
import TestOutline.Proofs.Outline.Outcome
import TestOutline.Proofs.Syntax.StringLiteral

namespace TestOutline

/-! ### Literals that are read -/

namespace SyntaxTree

variable {tree : SyntaxTree}

/-- **A literal stands for a text**: none of its escape sequences has a number beyond the last code
point. -/
def StandsForText (tree : SyntaxTree) (literal : Node) : Prop :=
  ∀ number, .numbered number ∈ StringLiteral.escapes (StringLiteral.unquoted (tree.text literal)) →
    number < 0x110000

/-- The literal with the name of the module that a statement imports. -/
def importLiteral? (statement : Node) : Option Node :=
  (statement.child? .source).filter (·.label.kind == .string)

/-- The literals with the names of modules. -/
def importLiterals (tree : SyntaxTree) : List Node :=
  (tree.root.namedChildren.filter (·.label.kind == .importStatement)).filterMap importLiteral?

/-- The literal with the name that a call gives to what it declares. A hook is given one even
without a function. -/
def nameLiteral? (tree : SyntaxTree) (call : Node) : Option Node :=
  match tree.callKind? call, call.callArguments with
  | some (.block _), name :: function :: _ => if name.kind = .string ∧
      function.isFunction then some name else none
  | some (.hook _), first :: _ => if first.kind = .string then some first else none
  | _, _ => none

/-- The literals with the names of suites, tests and hooks. -/
def nameLiterals (tree : SyntaxTree) : List Node := tree.root.walk.filterMap tree.nameLiteral?

theorem stringValue_returns_iff (tree : SyntaxTree) (literal : Node) :
    Returns (tree.stringValue literal) ↔ tree.StandsForText literal :=
      StringLiteral.cooked_returns_iff _

theorem importOf?_returns_iff (tree : SyntaxTree) (statement : Node) :
    Returns (importOf? tree statement) ↔ ∀ literal, importLiteral? statement = some literal →
      tree.StandsForText literal := by
  unfold importOf?
  cases found : importLiteral? statement with
  | none =>
    rw [importLiteral?] at found
    simp only [found]
    exact returns_ok_iff_of_none
  | some literal =>
    rw [importLiteral?] at found
    simp only [found]
    rw [returns_bind_pure_iff, stringValue_returns_iff, forall_some_iff]

/-- **Imports can be read** where the names of their modules stand for texts. -/
theorem imports_returns_iff (tree : SyntaxTree) :
    Returns tree.imports ↔ ∀ literal ∈ tree.importLiterals, tree.StandsForText literal := by
  unfold imports importLiterals
  induction tree.root.namedChildren.filter (·.label.kind == .importStatement) with
  | nil => exact iff_of_true (returns_ok _) (List.forall_mem_nil _)
  | cons statement rest ih =>
    rw [importsOf, returns_bind_iff fun found => returns_bind_pure_iff, ih, importOf?_returns_iff]
    exact forall_mem_filterMap_cons.symm

end SyntaxTree

namespace Candidate

theorem ofNode_returns_iff (options : Options) (tree : SyntaxTree) (node : Node) :
    Returns (ofNode options tree node) ↔ ∀ literal, tree.nameLiteral? node = some literal →
      tree.StandsForText literal := by
  unfold ofNode SyntaxTree.nameLiteral?
  cases tree.callKind? node with
  | none => exact returns_ok_iff_of_none
  | some found =>
    cases found with
    | block kind =>
      simp only [ofBlockCall]
      rcases node.callArguments with _ | ⟨name, _ | ⟨function, rest⟩⟩
      · exact returns_ok_iff_of_none
      · exact returns_ok_iff_of_none
      · simp only
        split
        · rw [returns_bind_pure_iff, SyntaxTree.stringValue_returns_iff, forall_some_iff]
        · exact returns_ok_iff_of_none
    | hook kind =>
      simp only [ofHookCall]
      rcases node.callArguments with _ | ⟨first, rest⟩
      · exact returns_ok_iff_of_none
      · simp only
        split
        · rw [returns_bind_pure_iff, SyntaxTree.stringValue_returns_iff, forall_some_iff]
        · exact returns_ok_iff_of_none

/-- **Candidates can be collected** where their names stand for texts. -/
theorem collect_returns_iff (options : Options) (tree : SyntaxTree) :
    Returns (collect options tree) ↔ ∀ literal ∈ tree.nameLiterals, tree.StandsForText literal := by
  unfold collect SyntaxTree.nameLiterals
  induction tree.root.walk with
  | nil => exact iff_of_true (returns_ok _) (List.forall_mem_nil _)
  | cons node rest ih =>
    rw [ofNodes, returns_bind_iff fun found => returns_bind_pure_iff, ih, ofNode_returns_iff]
    exact forall_mem_filterMap_cons.symm

end Candidate

/-! ### Metadata that is read -/

/-- **Metadata holds no integer that is too long**: reading what stands between a pair of markers
does not come to one. -/
def Source.MetadataReadable (source : Source) : Prop :=
  ∀ scope, ∀ pair ∈ Marker.pairs scope source.text, ∀ digits,
    Json.parse (Text.strip (source.slice pair.openingStop pair.closingStart)) ≠
      .error (.hugeInteger digits)

/-- **A text without so many digits in a row** holds no integer that is too long. -/
theorem Source.metadataReadable_of_short {source : Source}
    (short : ∀ digits, ¬ Json.HoldsLongInteger digits source.text) : source.MetadataReadable := by
  intro scope pair _ digits refused
  refine short digits ((Json.parse_hugeInteger refused).mono ?_)
  rw [Source.slice_eq]
  exact (Text.strip_isInfix _).trans (Text.slice_isInfix _ _ _)

namespace Metadata

theorem payloadOf_returns_iff (options : Options) (content : Text) :
    Returns (payloadOf options content) ↔
      ∀ digits, Json.parse content ≠ .error (.hugeInteger digits) := by
  unfold payloadOf
  cases Json.parse content with
  | error refusal =>
    cases refusal with
    | malformed problem place => exact iff_of_true (returns_ok _) (by simp)
    | hugeInteger digits => exact iff_of_false (not_returns_error _) fun all => all digits rfl
  | ok payload =>
    refine iff_of_true ?_ (by simp)
    simp only
    split <;> exact returns_ok _

theorem ofPair_returns_iff (options : Options) (source : Source) (scope : Scope)
    (pair : Marker.Pair) :
    Returns (ofPair options source scope pair) ↔ ∀ digits,
      Json.parse (Text.strip (source.slice pair.openingStop pair.closingStart)) ≠
        .error (.hugeInteger digits) := by
  rw [← payloadOf_returns_iff options]
  refine Iff.trans (b := Returns _ ∧ True) (returns_bind_iff fun payload => ?_)
    (and_iff_left trivial)
  cases payload <;> exact iff_of_true (returns_ok _) trivial

theorem ofPairs_returns_iff (options : Options) (source : Source) (scope : Scope)
    (pairs : List Marker.Pair) :
    Returns (ofPairs options source scope pairs) ↔ ∀ pair ∈ pairs, ∀ digits,
      Json.parse (Text.strip (source.slice pair.openingStop pair.closingStart)) ≠
        .error (.hugeInteger digits) := by
  induction pairs with
  | nil => exact iff_of_true (returns_ok _) (List.forall_mem_nil _)
  | cons pair rest ih =>
    rw [ofPairs, returns_bind_iff fun found => returns_bind_pure_iff, ih, ofPair_returns_iff,
      List.forall_mem_cons]

/-- **Metadata can be read** where no integer in it is too long. -/
theorem scan_returns_iff (options : Options) (source : Source) :
    Returns (scan options source) ↔ source.MetadataReadable := by
  unfold scan scanScope
  rw [returns_bind_iff fun file => returns_bind_iff fun request => returns_bind_pure_iff]
  simp only [ofPairs_returns_iff]
  constructor
  · rintro ⟨file, request, group⟩ scope
    cases scope with
    | file => exact file
    | request => exact request
    | group => exact group
  · intro readable
    exact ⟨readable .file, readable .request, readable .group⟩

end Metadata

/-! ### Extractions that come to a result -/

namespace Outline

/-- **What is to be said about the depth of a tree can be said**: its limit can be written, or no
suite and no test lies deeper. -/
def LimitTold (options : Options) (tree : SyntaxTree) : Prop :=
  ∀ candidates, Candidate.collect options tree = .ok candidates →
    ∀ limit, options.maxNestingDepth = some limit →
      Text.canWrite limit = true ∨ (Forest.ofCandidates candidates).Within limit

/-- **What can be read of a tree**: its literals stand for texts, and its metadata holds no integer
that is too long. -/
theorem TreeOutcome.returns_iff_readable {options : Options} {tree : SyntaxTree}
    {result : Except ExtractionFault Outline} (outcome : TreeOutcome options tree result) :
    Returns result ↔
      (∀ literal ∈ tree.importLiterals ++ tree.nameLiterals, tree.StandsForText literal) ∧
      tree.source.MetadataReadable ∧ LimitTold options tree := by
  have told : LimitTold options tree ↔
      ∀ candidates, Candidate.collect options tree = .ok candidates →
      tellsDepth options (.ofCandidates candidates) = true :=
    forall₂_congr fun candidates _ =>
      (tellsDepth_iff (Forest.Lists.ofCandidates candidates).linked options).symm
  rw [outcome.returns_iff, SyntaxTree.imports_returns_iff, Candidate.collect_returns_iff,
    Metadata.scan_returns_iff, List.forall_mem_append, and_assoc, told,
    and_comm (a := tree.source.MetadataReadable)]

/-- **When an extraction comes to a result.** The outline of a text in a known language is missing
only where a tree is read, is not refused for its faults, and holds a literal that stands for no
text, metadata with an integer that is too long, or a block below a limit that cannot be written.
Metadata alone is missing only for such an integer, which holds more digits in a row than are
allowed. -/
theorem extraction_returns_iff (reader : TreeReader) (options : Options) (text : Text) :
    ((∃ outline, ofTextBy reader options text = .ok outline) ↔
      ∀ source, Source.ofText? text = .ok source →
        ∃ language, Language.ofName? options.language = .ok language ∧
          ∀ tree, SyntaxTree.read reader language source = .ok tree →
            (tree.hasFault = true ∧ options.validateSyntax = true) ∨
              ((∀ literal ∈ tree.importLiterals ++ tree.nameLiterals, tree.StandsForText literal) ∧
                source.MetadataReadable ∧ LimitTold options tree)) ∧
    ((∃ found, MetadataOutline.ofText options text = .ok found) ↔
      ∀ source, Source.ofText? text = .ok source → source.MetadataReadable) ∧
    ((∃ found, MetadataOutline.ofText options text = .ok found) ∨
      ∃ digits, Json.HoldsLongInteger digits text) := by
  have metadata : Returns (MetadataOutline.ofText options text) ↔
      ∀ source, Source.ofText? text = .ok source → source.MetadataReadable := by
    unfold MetadataOutline.ofText
    cases encoded : Source.ofText? text with
    | error fault => exact iff_of_true (returns_ok _) (forall_ok_of_error rfl)
    | ok source =>
      simp only
      rw [forall_ok_iff rfl, returns_mapError_iff, Metadata.outlineOf, returns_bind_pure_iff,
        Metadata.scan_returns_iff]
  refine ⟨?_, metadata, ?_⟩
  · have outcome := ofTextBy_outcome reader options text
    show Returns (ofTextBy reader options text) ↔ _
    generalize ofTextBy reader options text = result at outcome ⊢
    cases outcome with
    | unencodable failed => exact iff_of_true (returns_ok _) (forall_ok_of_error failed)
    | language encoded failed =>
      rw [forall_ok_iff encoded]
      exact iff_of_false (not_returns_error _) (not_exists_ok_of_error failed)
    | unread encoded named failed =>
      rw [forall_ok_iff encoded, exists_ok_iff named]
      exact iff_of_true (returns_ok _) (forall_ok_of_error failed)
    | refused encoded named read fault refuses =>
      rw [forall_ok_iff encoded, exists_ok_iff named, forall_ok_iff read]
      exact iff_of_true (returns_ok _) (.inl ⟨fault, refuses⟩)
    | @read _ _ tree _ encoded named read proceeds outcome =>
      have notRefused : ¬ (tree.hasFault = true ∧ options.validateSyntax = true) := by
        rintro ⟨fault, refuses⟩
        simp [fault, refuses] at proceeds
      rw [forall_ok_iff encoded, exists_ok_iff named, forall_ok_iff read, or_iff_right notRefused,
        outcome.returns_iff_readable, SyntaxTree.source_of_read read]
  · by_cases long : ∃ digits, Json.HoldsLongInteger digits text
    · exact .inr long
    · refine .inl
        (metadata.mpr fun source encoded => Source.metadataReadable_of_short fun digits holds => ?_)
      rw [Source.text_of_ofText? encoded] at holds
      exact long ⟨digits, holds⟩

/-- A test whose name has a number beyond the last code point. -/
def beyondText : String := "it('\\u\x7b110000\x7d',()=>\x7b\x7d)"

/-- The tree of a test whose name has a number beyond the last code point. -/
def beyondRoot : Node := nodeOver .program none 0 23 [declaring 0 2 12 23 []]

/-- **A name beyond the last code point stops an extraction** in a known language. -/
theorem not_returns_beyond_code_points :
    ¬ ∀ (reader : TreeReader) (options : Options) (text : Text),
      (∃ language, Language.ofName? options.language = .ok language) →
        ∃ outline, ofTextBy reader options text = .ok outline := by
  intro always
  let tree : SyntaxTree := ⟨Source.ofChars beyondText.toList, beyondRoot⟩
  have encoded : Source.ofText? (Text.ofString beyondText) = .ok tree.source :=
    Source.ofText?_ofChars _
  have named : Language.ofName? Options.usual.language = .ok .typescript := by decide +kernel
  have noFault : tree.hasFault = false := by decide +kernel
  have returns :=
    always (fun _ _ => .ok (some beyondRoot)) .usual (Text.ofString beyondText) ⟨_, named⟩
  rw [ofTextBy_of_noFault encoded named (rfl : SyntaxTree.read _ _ _ = .ok tree) noFault] at returns
  obtain ⟨_, ⟨candidates, collected⟩, _⟩ := (ofTree_outcome .usual tree []).returns_iff.mp returns
  have fails : (Candidate.collect .usual tree).isOk = false := by decide +kernel
  rw [collected] at fails
  cases fails

end Outline

end TestOutline
