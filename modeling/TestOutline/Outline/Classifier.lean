/-
**Classification.** Whether a suite or a test exercises a request: by its name, by request metadata
shortly before it, or by what its body mentions, in this order.

* `Classifier.followsMetadata` — request metadata ends at most so far before an offset; found by
  bisection.
* `Classifier.evidence?` — the first rule that holds.
* `Forest.classify` — the forest with the rule that holds of each suite and each test.
-/

import TestOutline.Outline.Forest
import TestOutline.Search.Bisect

namespace TestOutline

/-- The rules for telling which blocks exercise a request. -/
structure Classifier where
  patterns : List NamePattern
  /-- Where request metadata ends, in ascending order. -/
  metadataEnds : Array Int
  /-- How far back request metadata counts. -/
  lookbackChars : Int

namespace Classifier

/-- The rules under some options, for request metadata with the given ends. -/
def ofOptions (options : Options) (metadataEnds : List Int) : Classifier where
  patterns := options.patterns
  metadataEnds := (metadataEnds.mergeSort fun left right => left ≤ right).toArray
  lookbackChars := options.lookbackChars

def matchesName (classifier : Classifier) (kind : BlockKind) (name : Text) : Bool :=
  classifier.patterns.any fun pattern => pattern.holds kind name

/-- Whether request metadata ends shortly before an offset. -/
def followsMetadata (classifier : Classifier) (start : Int) : Bool :=
  let index := Bisect.lowerBound classifier.metadataEnds (start - classifier.lookbackChars)
  match classifier.metadataEnds[index]? with
  | some stop => stop ≤ start
  | none => false

/-- The words that show a request being used. -/
def indicators : List Text :=
  ["response.", ".status", ".body", ".headers", "request.", ".url", ".method"]

/-- The methods whose call shows a request being made. -/
def requestMethods : List Text := [".get", ".post", ".put", ".delete", ".patch"]

/-- Whether a text starts with the call of a method, with blanks before its parenthesis or not. -/
def startsCall (method text : Text) : Bool :=
  method.isPrefixOf text && (Text.stripStart (text.drop method.length)).head? == some (.scalar '(')

/-- Whether a request method is called in a text. -/
def callsRequestMethod : Text → Bool
  | [] => false
  | point :: rest => requestMethods.any (startsCall · (point :: rest)) || callsRequestMethod rest

/-- Whether a body mentions a request. -/
def mentionsRequest (body : Text) : Bool :=
  (indicators.any fun indicator => body.contains indicator) || callsRequestMethod body

/-- The first rule that holds of a block. -/
def evidence? (classifier : Classifier) (kind : BlockKind) (name rawBody : Text) (start : Int) :
    Option Evidence :=
  if classifier.matchesName kind name then some .name
  else if classifier.followsMetadata start then some .metadata
  else if mentionsRequest rawBody then some .content
  else none

/-- The first rule that holds of a candidate, which has to be a suite or a test. -/
def classify (classifier : Classifier)
    (candidate : Candidate) : Except KindFault (Option Evidence) :=
  match candidate.kind with
  | .block kind =>
    .ok (classifier.evidence? kind candidate.name candidate.rawBody candidate.startOffset)
  | .hook _ => .error (.cannotClassify candidate.line)

end Classifier

namespace Forest

/-- Notes the rule that holds of the member at a place. -/
def judge (classifier : Classifier) (forest : Forest) (place : Nat) : Except KindFault Forest := do
  let evidence ← classifier.classify (forest.candidate place)
  return forest.modify place (Member.judged evidence)

/-- Notes the rule that holds of each member at some places. -/
def judgeAll (classifier : Classifier) (forest : Forest) : List Nat → Except KindFault Forest
  | [] => .ok forest
  | place :: rest => do
    let judged ← forest.judge classifier place
    judged.judgeAll classifier rest

/-- Notes the rule that holds of each suite and each test, in the order in which they are
visited. -/
def classify (classifier : Classifier) (forest : Forest) : Visit Forest := do
  let places ← forest.walk
  Visit.ofExcept (forest.judgeAll classifier places)

end Forest

end TestOutline
