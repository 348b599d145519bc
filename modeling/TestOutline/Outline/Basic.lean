/-
**Outlines.** What is recovered from a test source: its imports, its tree of suites and tests with
their hooks, the code they share, and the metadata in its comments.
-/

import TestOutline.Json.Value
import TestOutline.Source.Basic
import TestOutline.Tree

namespace TestOutline

/-- A range of a source, by offsets and by places. -/
structure SourceRange where
  startOffset : Int
  endOffset : Int
  startPoint : Position
  endPoint : Position
  deriving DecidableEq, Repr

/-- The range between two offsets of a source. -/
def Source.range (source : Source) (start stop : Int) : SourceRange :=
  ⟨start, stop, source.position start, source.position stop⟩

/-- What a block is: a suite of blocks, or a test. -/
inductive BlockKind where
  | suite
  | test
  deriving DecidableEq, Repr, Inhabited

/-- When a hook runs. -/
inductive HookKind where
  | before
  | after
  | beforeEach
  | afterEach
  deriving DecidableEq, Repr

/-- What a piece of shared code declares. -/
inductive SharedKind where
  | values
  | function
  | objectClass
  | typeName
  deriving DecidableEq, Repr

/-- What metadata is about. -/
inductive Scope where
  | file
  | request
  | group
  deriving DecidableEq, Repr

/-- Why a block counts as exercising a request. -/
inductive Evidence where
  | name
  | metadata
  | content
  deriving DecidableEq, Repr

/-- A hook. -/
structure Hook where
  kind : HookKind
  body : Text
  isAsync : Bool
  line : Int
  range : SourceRange
  deriving DecidableEq, Repr

/-- What a block is apart from the blocks in it. -/
structure BlockHead where
  kind : BlockKind
  name : Text
  body : Text
  fullText : Text
  startOffset : Int
  endOffset : Int
  line : Int
  depth : Int
  isAsync : Bool
  isRequest : Bool
  evidence : Option Evidence
  hooks : List Hook
  deriving DecidableEq, Repr

/-- A suite or a test with the blocks in it. -/
abbrev Block := Tree BlockHead

def BlockHead.isSuite (head : BlockHead) : Bool := head.kind == .suite

/-- An import of a module: the names it brings in. -/
structure Import where
  moduleName : Text
  named : List Text
  defaultName : Option Text
  wholeName : Option Text
  isTypeOnly : Bool
  line : Int
  fullText : Text
  deriving DecidableEq, Repr

/-- A declaration at the top of a source that is no test. -/
structure SharedCode where
  kind : SharedKind
  name : Option Text
  body : Text
  line : Int
  range : SourceRange
  deriving DecidableEq, Repr

/-- A comment with metadata, and the code of the test that follows it. -/
structure MetadataBlock where
  scope : Scope
  id : Text
  payload : Json
  startLine : Int
  endLine : Int
  startOffset : Int
  endOffset : Int
  testCode : Option Text

/-- All that is recovered from a source. -/
structure Outline where
  imports : List Import
  blocks : List Block
  hooks : List Hook
  sharedCode : List SharedCode
  fileMetadata : Option MetadataBlock
  requestMetadata : List MetadataBlock
  groupMetadata : List MetadataBlock
  errors : List Text
  warnings : List Text

namespace BlockKind

def word : BlockKind → String
  | .suite => "suite"
  | .test => "test"

end BlockKind

namespace HookKind

def word : HookKind → String
  | .before => "before"
  | .after => "after"
  | .beforeEach => "beforeEach"
  | .afterEach => "afterEach"

end HookKind

namespace SharedKind

def word : SharedKind → String
  | .values => "variable"
  | .function => "function"
  | .objectClass => "class"
  | .typeName => "type"

end SharedKind

namespace Scope

def word : Scope → String
  | .file => "file"
  | .request => "request"
  | .group => "group"

/-- The word for a scope at the start of a sentence. -/
def title : Scope → String
  | .file => "File"
  | .request => "Request"
  | .group => "Group"

end Scope

namespace Evidence

def word : Evidence → String
  | .name => "name"
  | .metadata => "metadata"
  | .content => "content"

end Evidence

namespace Outline

/-- The outline of a source that could not be read. -/
def ofError (error : Text) : Outline := ⟨[], [], [], [], none, [], [], [error], []⟩

def hasErrors (outline : Outline) : Bool := !outline.errors.isEmpty

end Outline

end TestOutline
