/-
**Options.** How a source is read and what of it is kept.
-/

import TestOutline.Outline.Basic
import TestOutline.Pattern.Reader

namespace TestOutline

/-- A pattern for the names of blocks that exercise a request; without a kind it is for suites and
tests alike. -/
structure NamePattern where
  pattern : Pattern
  kind : Option BlockKind
  deriving DecidableEq, Repr

/-- Whether the pattern occurs in the name of a block of its kind. -/
def NamePattern.holds (pattern : NamePattern) (kind : BlockKind) (name : Text) : Bool :=
  (pattern.kind.isNone || pattern.kind == some kind) && pattern.pattern.occursIn name

/-- How a source is read and what of it is kept. -/
structure Options where
  /-- Keep indentation and blanks at line ends. -/
  preserveFormatting : Bool
  /-- Keep comments in code. -/
  includeComments : Bool
  /-- List shared functions and classes. -/
  extractHelpers : Bool
  /-- List shared types. -/
  extractTypes : Bool
  /-- The patterns for names, the usual ones if none are given. -/
  namePatterns : Option (List NamePattern)
  /-- The depth beyond which blocks are warned about. -/
  maxNestingDepth : Option Int
  /-- Report missing tests and metadata. -/
  strictMode : Bool
  /-- Give up on broken sources. -/
  validateSyntax : Bool
  /-- Refuse metadata that is neither an object nor an array. -/
  validateJson : Bool
  /-- The name of the language, if it is given. -/
  languageName : Option Text
  /-- How far back from a block request metadata is looked for. -/
  lookbackChars : Int
  /-- How many lines after metadata its test may start. -/
  lookaheadLines : Int

namespace Options

/-- The name of the language that is taken when none is given. -/
def defaultLanguageName : Text := "typescript"

def usual : Options where
  preserveFormatting := true
  includeComments := true
  extractHelpers := true
  extractTypes := false
  namePatterns := none
  maxNestingDepth := none
  strictMode := false
  validateSyntax := false
  validateJson := true
  languageName := none
  lookbackChars := 500
  lookaheadLines := 20

def language (options : Options) : Text := options.languageName.getD defaultLanguageName

/-- A pattern that is blind to case. -/
def caseless (kind : BlockKind) (source : String) : Option NamePattern :=
  (Pattern.read? true source).map fun pattern => ⟨pattern, some kind⟩

def usualPatterns : List NamePattern :=
  [caseless .suite "request", caseless .suite "API", caseless .suite "endpoint",
    caseless .test "should\\s*(make|send|call)"].filterMap id

def patterns (options : Options) : List NamePattern := options.namePatterns.getD usualPatterns

end Options

end TestOutline
