/-
**Metadata.** The blocks of metadata in a source, found by their markers alone; each holds one JSON
value.

* `Metadata.ofPair` — what a pair of markers holds: a block, or what is wrong with it.
* `Metadata.scan` — the metadata of all scopes, with what is reported about it.
* `Metadata.find?` — the block with an identifier.
-/

import TestOutline.Json.Reader
import TestOutline.Metadata.Marker
import TestOutline.Metadata.TestCode
import TestOutline.Outline.Options

namespace TestOutline

/-- Messages without repetitions: one that is there already is not added again. -/
def addMessage (messages : List Text) (message : Text) : List Text :=
  if messages.contains message then messages else messages ++ [message]

namespace Metadata

/-- What is wrong with a block of metadata. -/
inductive Fault where
  | malformed (reason : Text)
  | noContainer
  deriving DecidableEq, Repr

def Fault.message (scope : Scope) (line : Nat) : Fault → Text
  | .malformed reason =>
    "Invalid JSON in " ++ Text.ofString scope.word ++ " metadata at line " ++ Text.ofNat line ++
      ": " ++ reason
  | .noContainer =>
    Text.ofString scope.title ++ " metadata is not a valid object at line " ++ Text.ofNat line

/-- The identifier of metadata: its `id` if that is an integer or a text that is not empty, else the
scope with the line. -/
def identifier (payload : Json) (scope : Scope) (line : Nat) : Text :=
  match payload.get? "id" with
  | some (.string (point :: rest)) => point :: rest
  | some (.int value) => Text.ofInt value
  | _ => Text.ofString scope.word ++ "-" ++ Text.ofNat line

/-- What metadata holds, under options that may want an object or an array. An integer of too many
digits stops all reading. -/
def payloadOf (options : Options) (content : Text) : Except Nat (Except Fault Json) :=
  match Json.parse content with
  | .error (.hugeInteger digits) => .error digits
  | .error (.malformed problem place) => .ok (.error (.malformed (problem.messageAt content place)))
  | .ok payload =>
    if options.validateJson ∧ !payload.isContainer then .ok (.error .noContainer)
    else .ok (.ok payload)

/-- What a pair of markers in a source holds: a block of metadata, or the report of a fault. -/
def ofPair (options : Options) (source : Source) (scope : Scope) (pair : Marker.Pair) :
    Except Nat (Except Text MetadataBlock) := do
  let line := source.lineNumber pair.openingStart
  match ← payloadOf options (Text.strip (source.slice pair.openingStop pair.closingStart)) with
  | .error fault => return .error (fault.message scope line)
  | .ok payload =>
    return .ok {
      scope := scope
      id := identifier payload scope line
      payload := payload
      startLine := line
      endLine := source.lineNumber pair.closingStart
      startOffset := pair.openingStart
      endOffset := pair.closingStop
      testCode := none }

def ofPairs (options : Options) (source : Source) (scope : Scope) :
    List Marker.Pair → Except Nat (List (Except Text MetadataBlock))
  | [] => .ok []
  | pair :: rest => do
    let first ← ofPair options source scope pair
    let others ← ofPairs options source scope rest
    return first :: others

def blocksOf (found : List (Except Text MetadataBlock)) : List MetadataBlock :=
  found.filterMap fun
    | .ok block => some block
    | .error _ => none

def reportsOf (found : List (Except Text MetadataBlock)) : List Text :=
  found.filterMap fun
    | .ok _ => none
    | .error report => some report

/-- What the markers of a scope hold. -/
def scanScope (options : Options) (source : Source) (scope : Scope) :
    Except Nat (List (Except Text MetadataBlock)) :=
  ofPairs options source scope (Marker.pairs scope source.text)

/-- The identifiers that come more than once, in the order of their second coming; `seen` are those
before. -/
def repeated (seen found : List Text) : List Text → List Text
  | [] => found
  | id :: rest =>
    repeated (id :: seen)
      (if seen.contains id ∧ !found.contains id then found ++ [id] else found) rest

/-- The identifiers that several blocks share. -/
def duplicateIds (blocks : List MetadataBlock) : List Text := repeated [] [] (blocks.map (·.id))

/-- What is said about blocks that are about the file, beyond the first of them. -/
def surplusWarning (block : MetadataBlock) : Text :=
  "Multiple file metadata blocks found; ignoring the block at line " ++ Text.ofInt block.startLine

/-- What is said about identifiers that several blocks share. -/
def duplicateWarnings (blocks : List MetadataBlock) : List Text :=
  match duplicateIds blocks with
  | [] => []
  | ids => ["Duplicate metadata IDs found: " ++ Text.join ", " ids]

end Metadata

/-- The metadata of a source, with what is reported about it. -/
structure MetadataOutline where
  fileMetadata : Option MetadataBlock
  requestMetadata : List MetadataBlock
  groupMetadata : List MetadataBlock
  errors : List Text
  warnings : List Text

namespace Metadata

/-- The metadata of all scopes. -/
def scan (options : Options) (source : Source) : Except Nat MetadataOutline := do
  let file ← scanScope options source .file
  let request ← scanScope options source .request
  let group ← scanScope options source .group
  return {
    fileMetadata := (blocksOf file).head?
    requestMetadata := blocksOf request
    groupMetadata := blocksOf group
    errors := reportsOf file ++ reportsOf request ++ reportsOf group
    warnings := (((blocksOf file).drop 1).map surplusWarning ++
      duplicateWarnings (blocksOf request ++ blocksOf group)).foldl addMessage [] }

/-- The block with an identifier among requests, groups and the block about the file, in this
order. -/
def find? (requests groups : List MetadataBlock) (file : Option MetadataBlock) (id : Text) :
    Option MetadataBlock :=
  (requests ++ groups ++ file.toList).find? fun block => block.id == id

def missingMessage : Text := "No metadata blocks found in strict mode"

/-- A block of request metadata with the test in the text after it. -/
def withTestCode (options : Options) (source : Source) (block : MetadataBlock) : MetadataBlock :=
  { block with testCode := source.testCode? block.endLine block.endOffset options.lookaheadLines }

/-- The metadata of a source, which is not read as code; each request with the test in the text
after it. -/
def outlineOf (options : Options) (source : Source) : Except Nat MetadataOutline := do
  let found ← scan options source
  let missing := options.strictMode && found.requestMetadata.isEmpty && found.groupMetadata.isEmpty
  return { found with
    requestMetadata := found.requestMetadata.map (withTestCode options source)
    errors := found.errors ++ if missing then [missingMessage] else [] }

end Metadata

end TestOutline
