/-
**Extraction.** The outline of a source text.

* `Outline.ofText` — the outline of a text under options. What is wrong with the text is reported in
  the outline; only an unknown language, an escape sequence without meaning and an integer of too
  many digits, in metadata or as the limit of depths, stop it.
* `Outline.validated` — the same, but an outline with errors is refused.
-/

import TestOutline.Metadata.Scan
import TestOutline.Outline.Classifier
import TestOutline.Outline.Forest
import TestOutline.Outline.Imports
import TestOutline.Syntax.Parse

namespace TestOutline

/-- What stops an extraction; a visit to a forest that does not end stops it for good. -/
inductive ExtractionFault where
  | language (fault : LanguageFault)
  | literal (fault : StringLiteral.Fault)
  | hugeInteger (digits : Nat)
  | hugeLimit
  | kind (fault : KindFault)
  | endless
  deriving DecidableEq, Repr

/-- The wording of the refusal to write a limit. -/
def hugeLimitMessage : Text :=
  "Exceeds the limit (" ++ Text.ofNat Text.mostDigits ++
    " digits) for integer string conversion; use sys.set_int_max_str_digits() to increase the limit"

def ExtractionFault.message : ExtractionFault → Text
  | .language fault => fault.message
  | .literal fault => fault.message
  | .hugeInteger digits => Json.hugeIntegerMessage digits
  | .hugeLimit => hugeLimitMessage
  | .kind fault => fault.message
  | .endless => []

/-- What stops an extraction where a visit is stopped. -/
def ExtractionFault.ofVisit : VisitFault → ExtractionFault
  | .kind fault => .kind fault
  | .hugeLimit => .hugeLimit

/-- What comes of a visit to a forest. -/
def Visit.answer {α : Type} (visit : Visit α) : Except ExtractionFault α :=
  match visit.run with
  | none => .error .endless
  | some result => result.mapError .ofVisit

/-- A failure with what it says in detail. -/
structure Failure where
  message : Text
  details : List Text
  deriving DecidableEq, Repr

/-- The message of a failure with its details. -/
def Failure.text (failure : Failure) : Text :=
  if failure.details.isEmpty then failure.message
  else failure.message ++ ": " ++ Text.join "; " failure.details

namespace Outline

/-! ### Test code after request metadata -/

/-- The first test that starts after an offset and no later than on a line, if the first one that
starts after the offset does so; `tests` come in the order of their starts. -/
def nextTest? (tests : List Candidate) (offset lastLine : Int) : Option Candidate :=
  tests.find? fun test => offset ≤ test.startOffset && test.line ≤ lastLine

/-- The tests among some candidates, in the order of their starts. -/
def testsInOrder (candidates : List Candidate) : List Candidate :=
  (candidates.filter Candidate.isTest).mergeSort fun left right =>
    left.startOffset ≤ right.startOffset

/-- A block of request metadata with the test after it: a candidate, or else a call in the text. A
candidate without text is as good as none, but stands in the way of others. -/
def attachTest (options : Options) (source : Source) (tests : List Candidate)
    (block : MetadataBlock) :
    MetadataBlock :=
  match nextTest? tests block.endOffset (block.endLine + options.lookaheadLines) with
  | some test =>
    if test.fullText.isEmpty then block else { block with testCode := some test.fullText }
  | none => Metadata.withTestCode options source block

/-! ### Blocks and hooks -/

def hookOf (source : Source) (candidate : Candidate) : Except KindFault Hook :=
  match candidate.kind with
  | .block kind => .error (.noHook candidate.line kind)
  | .hook kind => .ok {
      kind := kind
      body := candidate.body
      isAsync := candidate.isAsync
      line := candidate.line
      range := source.range candidate.startOffset candidate.endOffset }

def hooksAt (source : Source) (forest : Forest)
    (places : List Nat) : Except KindFault (List Hook) :=
  places.mapM fun place => hookOf source (forest.candidate place)

def blockKindOf (candidate : Candidate) : Except KindFault BlockKind :=
  match candidate.kind with
  | .block kind => .ok kind
  | .hook kind => .error (.noBlock candidate.line kind)

/-- The block that a member makes, apart from the blocks in it. -/
def headOf (kind : BlockKind) (hooks : List Hook) (member : Member) : BlockHead where
  kind := kind
  name := member.candidate.name
  body := member.candidate.body
  fullText := member.candidate.fullText
  startOffset := member.candidate.startOffset
  endOffset := member.candidate.endOffset
  line := member.candidate.line
  depth := member.depth
  isAsync := member.candidate.isAsync
  isRequest := member.isRequest
  evidence := member.evidence
  hooks := hooks

end Outline

/-- The block that the member at a place makes. -/
def Forest.blockAt (source : Source) (forest : Forest) (place : Nat) : Visit Block := do
  let kind ← Visit.ofExcept (Outline.blockKindOf (forest.candidate place))
  let children ← (forest.member place).children.mapM (forest |>.blockAt source)
  let hooks ← Visit.ofExcept (Outline.hooksAt source forest (forest.member place).hooks)
  return .mk (Outline.headOf kind hooks (forest.member place)) children
partial_fixpoint

namespace Outline

/-- The blocks and the hooks at the top of a forest, once it is known which blocks exercise
requests. -/
def partsOf (source : Source) (classifier : Classifier)
    (forest : Forest) : Visit (List Block × List Hook) := do
  let judged ← forest.classify classifier
  let blocks ← judged.roots.mapM (judged.blockAt source)
  let hooks ← Visit.ofExcept (hooksAt source judged judged.rootHooks)
  return (blocks, hooks)

/-! ### Strictness -/

def frameworkModules : List Text := ["mocha", "chai"]

/-- The names that are imported from the test framework. -/
def frameworkNames : List Text := ["describe", "it", "expect"]

def importsFramework (found : Import) : Bool :=
  (frameworkModules.any fun name => found.moduleName.contains name) ||
    frameworkNames.any found.named.contains

/-- Whether a block is a suite that exercises requests and holds no test. -/
def isHollowSuite (block : Block) : Bool :=
  block.label.isSuite && block.label.isRequest &&
    !(Tree.walk block.children).any fun inner => inner.label.kind == .test

/-- What is said about a suite that exercises requests and holds no test. -/
def hollowWarning (block : Block) : Text :=
  "Request suite '" ++ block.label.name ++ "' has no test blocks"

/-- The errors that strictness adds. -/
def strictErrors (blocks : List Block) (hasMetadata : Bool) : List Text :=
  let noBlocks : List Text := if blocks.isEmpty then ["No test blocks found in strict mode"] else []
  noBlocks ++ if hasMetadata then [] else [Metadata.missingMessage]

/-- The warnings that strictness adds. -/
def strictWarnings (imports : List Import) (blocks : List Block) : List Text :=
  let noFramework : List Text :=
    if imports.any importsFramework then []
    else ["No Mocha/Chai imports found - this may not be a test file"]
  noFramework ++ ((Tree.walk blocks).filter isHollowSuite).map hollowWarning

/-! ### Outlines -/

def brokenWarning (line : Text) : Text := "Source contains syntax errors near line " ++ line

def brokenError (line : Text) : Text := "Parse error: syntax error near line " ++ line

/-- The line of the first fault in a tree, in words. -/
def faultLine (tree : SyntaxTree) : Text := (tree.firstFaultLine?.map Text.ofNat).getD "None"

/-- What strictness reports, if the options ask for it. -/
def strictReports (options : Options) (imports : List Import) (blocks : List Block)
    (found : MetadataOutline) :
    List Text × List Text :=
  if options.strictMode then
    let hasMetadata :=
      found.fileMetadata.isSome || !found.requestMetadata.isEmpty || !found.groupMetadata.isEmpty
    (strictErrors blocks hasMetadata, strictWarnings imports blocks)
  else ([], [])

/-- The outline of a tree; `warnings` are those about the tree itself. -/
def ofTree (options : Options) (tree : SyntaxTree)
    (warnings : List Text) : Except ExtractionFault Outline := do
  let imports ← tree.imports.mapError .literal
  let candidates ← (Candidate.collect options tree).mapError .literal
  let forest := Forest.ofCandidates candidates
  let depthWarnings ← (forest.depthWarnings options).answer
  let found ← (Metadata.scan options tree.source).mapError .hugeInteger
  let requests :=
    found.requestMetadata.map (attachTest options tree.source (testsInOrder candidates))
  let classifier := Classifier.ofOptions options (requests.map (·.endOffset))
  let (blocks, hooks) ← (partsOf tree.source classifier forest).answer
  let (strictErrors, strictWarnings) := strictReports options imports blocks found
  return {
    imports := imports
    blocks := blocks
    hooks := hooks
    sharedCode := tree.sharedCode options
    fileMetadata := found.fileMetadata
    requestMetadata := requests
    groupMetadata := found.groupMetadata
    errors := found.errors ++ strictErrors
    warnings :=
      (warnings ++ depthWarnings ++ found.warnings ++ strictWarnings).foldl addMessage [] }

/-- The error of a source of which no tree is made. -/
def parseError (reason : Text) : Text := "Parse error: " ++ reason

/-- The outline of a source, by a reader of sources. -/
def ofSource (reader : TreeReader) (options : Options)
    (source : Source) : Except ExtractionFault Outline := do
  let language ← (Language.ofName? options.language).mapError .language
  match SyntaxTree.read reader language source with
  | .error reason => return ofError (parseError reason)
  | .ok tree =>
    if !tree.hasFault then ofTree options tree []
    else if options.validateSyntax then return ofError (brokenError (faultLine tree))
    else ofTree options tree [brokenWarning (faultLine tree)]

/-- The outline of a text, by a reader of sources. -/
def ofTextBy (reader : TreeReader) (options : Options)
    (text : Text) : Except ExtractionFault Outline :=
  match Source.ofText? text with
  | .error fault => .ok (ofError (parseError fault.message))
  | .ok source => ofSource reader options source

/-- The outline of a text. -/
def ofText (options : Options) (text : Text) : Except ExtractionFault Outline :=
  ofTextBy SyntaxTree.reader options text

/-- The outline of a text; one with errors is a failure. -/
def validated (options : Options) (text : Text) :
    Except ExtractionFault (Except Failure Outline) := do
  let outline ← ofText options text
  if outline.hasErrors then return .error ⟨"Failed to extract test code", outline.errors⟩
  else return .ok outline

end Outline

namespace MetadataOutline

/-- The metadata of a text. -/
def ofText (options : Options) (text : Text) : Except ExtractionFault MetadataOutline :=
  match Source.ofText? text with
  | .error fault => .ok ⟨none, [], [], [Outline.parseError fault.message], []⟩
  | .ok source => (Metadata.outlineOf options source).mapError .hugeInteger

end MetadataOutline

end TestOutline
