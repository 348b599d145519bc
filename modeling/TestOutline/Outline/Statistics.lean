/-
**Statistics.** Counts over an outline.
-/

import TestOutline.Outline.Basic

namespace TestOutline

/-- Counts over an outline. -/
structure Statistics where
  suites : Int
  tests : Int
  asyncTests : Int
  requestBlocks : Int
  hooks : Int
  imports : Int
  sharedCode : Int
  hasFileMetadata : Bool
  requestMetadata : Int
  groupMetadata : Int
  requestsWithTestCode : Int
  maxDepth : Int
  errors : Int
  warnings : Int
  deriving DecidableEq, Repr

/-- The greatest of some numbers, zero if there are none. -/
def greatest : List Int → Int
  | [] => 0
  | first :: rest => rest.foldl max first

/-- The counts over an outline. -/
def Outline.statistics (outline : Outline) : Statistics :=
  let blocks := Tree.walk outline.blocks
  let tests := blocks.filter fun block => block.label.kind == .test
  { suites := (blocks.length : Int) - tests.length
    tests := tests.length
    asyncTests := (tests.filter (·.label.isAsync)).length
    requestBlocks := (blocks.filter (·.label.isRequest)).length
    hooks := outline.hooks.length + (blocks.flatMap (·.label.hooks)).length
    imports := outline.imports.length
    sharedCode := outline.sharedCode.length
    hasFileMetadata := outline.fileMetadata.isSome
    requestMetadata := outline.requestMetadata.length
    groupMetadata := outline.groupMetadata.length
    requestsWithTestCode :=
      (outline.requestMetadata.filter fun block => block.testCode.any (!·.isEmpty)).length
    maxDepth := greatest (blocks.map (·.label.depth))
    errors := outline.errors.length
    warnings := outline.warnings.length }

end TestOutline
