/-
**Field names and words of records.** How the parts of an outline are named when they are read from
JSON or written to it.
-/

import TestOutline.Outline.Basic

namespace TestOutline

def BlockKind.words : List (String × BlockKind) :=
  [BlockKind.suite, .test].map fun kind => (kind.word, kind)

def HookKind.words : List (String × HookKind) :=
  [HookKind.before, .after, .beforeEach, .afterEach].map fun kind => (kind.word, kind)

def SharedKind.words : List (String × SharedKind) :=
  [SharedKind.values, .function, .objectClass, .typeName].map fun kind => (kind.word, kind)

def Scope.words : List (String × Scope) :=
  [Scope.file, .request, .group].map fun scope => (scope.word, scope)

def Evidence.words : List (String × Evidence) :=
  [Evidence.name, .metadata, .content].map fun evidence => (evidence.word, evidence)

end TestOutline
