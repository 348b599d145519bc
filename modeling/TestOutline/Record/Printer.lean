/-
**Outlines as JSON.** The parts of an outline and options written as records, fields in their order.
-/

import TestOutline.Metadata.Scan
import TestOutline.Outline.Statistics
import TestOutline.Record.Fields

namespace TestOutline

/-- A record of some fields. -/
def Json.ofFields (fields : List (String × Json)) : Json :=
  .object (fields.map fun (name, value) => (Text.ofString name, value))

def Json.ofWord (word : String) : Json := .string (Text.ofString word)

/-- A list, item by item. -/
def Json.ofList {α : Type} (write : α → Json) (items : List α) : Json := .array (items.map write)

/-- A value or null. -/
def Json.ofOption {α : Type} (write : α → Json) (value : Option α) : Json :=
  (value.map write).getD .null

def Position.toJson (position : Position) : Json :=
  .ofFields [("row", .int position.row), ("column", .int position.column)]

def SourceRange.toJson (range : SourceRange) : Json :=
  .ofFields [
    ("start_offset", .int range.startOffset), ("end_offset", .int range.endOffset),
    ("start_point", range.startPoint.toJson), ("end_point", range.endPoint.toJson)]

def Hook.toJson (hook : Hook) : Json :=
  .ofFields [
    ("type", .ofWord hook.kind.word), ("body_text", .string hook.body),
      ("is_async", .bool hook.isAsync),
    ("line_number", .int hook.line), ("range", hook.range.toJson)]

/-- The fields of a block in front of the blocks in it. -/
def BlockHead.fields (head : BlockHead) : List (String × Json) := [
  ("kind", .ofWord head.kind.word), ("name", .string head.name), ("body_text", .string head.body),
  ("full_text", .string head.fullText), ("start_offset", .int head.startOffset),
  ("end_offset", .int head.endOffset), ("line_number", .int head.line), ("depth", .int head.depth),
  ("is_async", .bool head.isAsync), ("is_request_specific", .bool head.isRequest),
  ("classified_by", .ofOption (fun evidence => .ofWord evidence.word) head.evidence)]

namespace Block

mutual

def toJson : Tree BlockHead → Json
  | .mk head children =>
    .ofFields (head.fields ++
      [("children", .array (listToJson children)), ("hooks", .ofList Hook.toJson head.hooks)])

def listToJson : List (Tree BlockHead) → List Json
  | [] => []
  | block :: rest => toJson block :: listToJson rest

end

end Block

def Import.toJson (found : Import) : Json :=
  .ofFields [
    ("module_specifier", .string found.moduleName), ("named_imports", .ofList .string found.named),
    ("default_import", .ofOption .string found.defaultName),
    ("namespace_import", .ofOption .string found.wholeName),
    ("is_type_only", .bool found.isTypeOnly), ("line_number", .int found.line),
    ("full_text", .string found.fullText)]

def SharedCode.toJson (code : SharedCode) : Json :=
  .ofFields [
    ("kind", .ofWord code.kind.word), ("name", .ofOption .string code.name),
      ("body_text", .string code.body),
    ("line_number", .int code.line), ("range", code.range.toJson)]

def MetadataBlock.toJson (block : MetadataBlock) : Json :=
  .ofFields [
    ("scope", .ofWord block.scope.word), ("id", .string block.id), ("payload", block.payload),
    ("line_number_start", .int block.startLine), ("line_number_end", .int block.endLine),
    ("start_offset", .int block.startOffset), ("end_offset", .int block.endOffset),
    ("test_code", .ofOption .string block.testCode)]

def Outline.toJson (outline : Outline) : Json :=
  .ofFields [
    ("imports", .ofList Import.toJson outline.imports),
    ("root_blocks", .array (Block.listToJson outline.blocks)),
    ("root_hooks", .ofList Hook.toJson outline.hooks),
    ("shared_code", .ofList SharedCode.toJson outline.sharedCode),
    ("file_metadata", .ofOption MetadataBlock.toJson outline.fileMetadata),
    ("request_metadata", .ofList MetadataBlock.toJson outline.requestMetadata),
    ("group_metadata", .ofList MetadataBlock.toJson outline.groupMetadata),
    ("errors", .ofList .string outline.errors), ("warnings", .ofList .string outline.warnings)]

def MetadataOutline.toJson (outline : MetadataOutline) : Json :=
  .ofFields [
    ("file_metadata", .ofOption MetadataBlock.toJson outline.fileMetadata),
    ("request_metadata", .ofList MetadataBlock.toJson outline.requestMetadata),
    ("group_metadata", .ofList MetadataBlock.toJson outline.groupMetadata),
    ("errors", .ofList .string outline.errors), ("warnings", .ofList .string outline.warnings)]

def Statistics.toJson (statistics : Statistics) : Json :=
  .ofFields [
    ("total_suites", .int statistics.suites), ("total_tests", .int statistics.tests),
    ("async_tests", .int statistics.asyncTests),
    ("request_specific_blocks", .int statistics.requestBlocks),
    ("total_hooks", .int statistics.hooks), ("total_imports", .int statistics.imports),
    ("total_shared_code", .int statistics.sharedCode),
    ("has_file_metadata", .bool statistics.hasFileMetadata),
    ("total_request_metadata", .int statistics.requestMetadata),
    ("total_group_metadata", .int statistics.groupMetadata),
    ("requests_with_test_code", .int statistics.requestsWithTestCode),
    ("max_depth", .int statistics.maxDepth),
    ("total_errors", .int statistics.errors), ("total_warnings", .int statistics.warnings)]

def Pattern.toJson (pattern : Pattern) : Json :=
  .ofFields [("pattern", .string pattern.source), ("ignore_case", .bool pattern.ignoreCase)]

def NamePattern.toJson (pattern : NamePattern) : Json :=
  .ofFields [
    ("pattern", pattern.pattern.toJson),
      ("kind", .ofOption (fun kind => .ofWord kind.word) pattern.kind)]

def Options.toJson (options : Options) : Json :=
  .ofFields [
    ("preserve_formatting", .bool options.preserveFormatting),
    ("include_comments", .bool options.includeComments),
    ("extract_helpers", .bool options.extractHelpers),
    ("extract_types", .bool options.extractTypes),
    ("request_identifier_patterns", .ofOption (.ofList NamePattern.toJson) options.namePatterns),
    ("max_nesting_depth", (options.maxNestingDepth.map Json.int).getD (.bool false)),
    ("strict_mode", .bool options.strictMode), ("validate_syntax", .bool options.validateSyntax),
    ("validate_json", .bool options.validateJson), ("language", .string options.language),
    ("metadata_lookback_chars", .int options.lookbackChars),
    ("test_code_lookahead_lines", .int options.lookaheadLines)]

end TestOutline
