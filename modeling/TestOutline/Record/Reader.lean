/-
**Outlines from JSON.** The parts of an outline read as records; fields that are not known are
passed over.
-/

import TestOutline.Outline.Statistics
import TestOutline.Record.Fields
import TestOutline.Record.Scalar

namespace TestOutline.Reading

def position : Json → Reading Position :=
  record "Position" fun members =>
    Position.mk <$> required members "row" integer <*> required members "column" integer

def sourceRange : Json → Reading SourceRange :=
  record "SourceRange" fun members =>
    SourceRange.mk <$> required members "start_offset" integer <*>
      required members "end_offset" integer <*>
      required members "start_point" position <*> required members "end_point" position

def hook : Json → Reading Hook :=
  record "Hook" fun members =>
    Hook.mk <$> required members "type" (word HookKind.words) <*>
      required members "body_text" text <*>
      withDefault members "is_async" false boolean <*> required members "line_number" integer <*>
      required members "range" sourceRange

/-- A block from its fields in their order. -/
def blockOfFields (kind : BlockKind) (name body fullText : Text)
    (startOffset endOffset line depth : Int) (isAsync isRequest : Bool) (evidence : Option Evidence)
    (children : List Block) (hooks : List Hook) :
    Block :=
  .mk ⟨kind, name, body, fullText, startOffset, endOffset, line, depth, isAsync, isRequest,
    evidence, hooks⟩
    children

/-- A block, with blocks in it as deep as there is fuel. -/
def blockWithin : Nat → Json → Reading Block
  | 0 => fun _ => fail (.noRecord "Block")
  | fuel + 1 =>
    record "Block" fun members =>
      blockOfFields <$> required members "kind" (word BlockKind.words) <*>
        required members "name" text <*>
        required members "body_text" text <*> required members "full_text" text <*>
        required members "start_offset" integer <*> required members "end_offset" integer <*>
        required members "line_number" integer <*> withDefault members "depth" 0 integer <*>
        withDefault members "is_async" false boolean <*>
        withDefault members "is_request_specific" false boolean <*>
        withDefault members "classified_by" none (nullable (word Evidence.words)) <*>
        withDefault members "children" [] (tuple (blockWithin fuel)) <*>
        withDefault members "hooks" [] (tuple hook)

mutual

/-- How deep containers are nested in a value. -/
def depth : Json → Nat
  | .array items => 1 + depthOfItems items
  | .object members => 1 + depthOfMembers members
  | _ => 0

def depthOfItems : List Json → Nat
  | [] => 0
  | item :: rest => max (depth item) (depthOfItems rest)

def depthOfMembers : List (Text × Json) → Nat
  | [] => 0
  | (_, value) :: rest => max (depth value) (depthOfMembers rest)

end

def block (json : Json) : Reading Block := blockWithin (depth json + 1) json

def importRecord : Json → Reading Import :=
  record "Import" fun members =>
    Import.mk <$> required members "module_specifier" text <*>
      withDefault members "named_imports" [] (tuple text) <*>
      withDefault members "default_import" none (nullable text) <*>
      withDefault members "namespace_import" none (nullable text) <*>
      withDefault members "is_type_only" false boolean <*>
        required members "line_number" integer <*>
      required members "full_text" text

def sharedCode : Json → Reading SharedCode :=
  record "SharedCodeEntry" fun members =>
    SharedCode.mk <$> required members "kind" (word SharedKind.words) <*>
      withDefault members "name" none (nullable text) <*> required members "body_text" text <*>
      required members "line_number" integer <*> required members "range" sourceRange

/-- A block of metadata, with any payload. -/
def metadataBlock : Json → Reading MetadataBlock :=
  record "MetadataBlock" fun members =>
    MetadataBlock.mk <$> required members "scope" (word Scope.words) <*>
      required members "id" text <*>
      required members "payload" .ok <*> required members "line_number_start" integer <*>
      required members "line_number_end" integer <*> required members "start_offset" integer <*>
      required members "end_offset" integer <*> withDefault members "test_code" none (nullable text)

def outline : Json → Reading Outline :=
  record "ExtractionResult" fun members =>
    Outline.mk <$> withDefault members "imports" [] (tuple importRecord) <*>
      withDefault members "root_blocks" [] (tuple block) <*>
        withDefault members "root_hooks" [] (tuple hook) <*>
      withDefault members "shared_code" [] (tuple sharedCode) <*>
      withDefault members "file_metadata" none (nullable metadataBlock) <*>
      withDefault members "request_metadata" [] (tuple metadataBlock) <*>
      withDefault members "group_metadata" [] (tuple metadataBlock) <*>
      withDefault members "errors" [] (tuple text) <*>
        withDefault members "warnings" [] (tuple text)

def statistics : Json → Reading Statistics :=
  record "ExtractionStats" fun members =>
    let count (name : String) := required members name integer
    Statistics.mk <$> count "total_suites" <*> count "total_tests" <*> count "async_tests" <*>
      count "request_specific_blocks" <*> count "total_hooks" <*> count "total_imports" <*>
      count "total_shared_code" <*> required members "has_file_metadata" boolean <*>
      count "total_request_metadata" <*> count "total_group_metadata" <*>
        count "requests_with_test_code" <*>
      count "max_depth" <*> count "total_errors" <*> count "total_warnings"

end TestOutline.Reading
