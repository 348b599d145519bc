/-
**Reading records.** Values read from JSON, or all the problems that keep them from being read, each
with its place.

* `Reading` collects the problems of all parts of a record, in the order of its fields.
* `Problem.kind`, `Problem.message` — the name of a problem and its wording.
-/

import TestOutline.Json.Value

namespace TestOutline

/-- A step on the way to a part of a record. -/
inductive Step where
  | field (name : String)
  | index (index : Nat)
  deriving DecidableEq, Repr

/-- What keeps a value from being read. -/
inductive Cause where
  | missing
  | noInteger
  | malformedInteger
  | longInteger
  | fractional
  | notFinite
  | noBoolean
  | malformedBoolean
  | noString
  | noTuple
  | noWord (words : List String)
  | noRecord (name : String)
  | noPattern
  | malformedPattern
  | negative
  | trueDepth
  | negativeDepth
  | notFalse
  | frozen
  deriving DecidableEq, Repr

/-- What keeps a part of a record from being read, and the way to that part. -/
structure Problem where
  place : List Step
  cause : Cause
  deriving DecidableEq, Repr

namespace Cause

def name : Cause → String
  | .missing => "missing"
  | .noInteger => "int_type"
  | .malformedInteger => "int_parsing"
  | .longInteger => "int_parsing_size"
  | .fractional => "int_from_float"
  | .notFinite => "finite_number"
  | .noBoolean => "bool_type"
  | .malformedBoolean => "bool_parsing"
  | .noString => "string_type"
  | .noTuple => "tuple_type"
  | .noWord _ => "enum"
  | .noRecord _ => "model_type"
  | .noPattern => "pattern_type"
  | .malformedPattern => "pattern_regex"
  | .negative => "greater_than_equal"
  | .trueDepth => "value_error"
  | .negativeDepth => "value_error"
  | .notFalse => "literal_error"
  | .frozen => "frozen_instance"

/-- Words in quotes, with commas between them and `or` before the last. -/
def alternatives : List String → String
  | [] => ""
  | [word] => "'" ++ word ++ "'"
  | [word, last] => "'" ++ word ++ "' or '" ++ last ++ "'"
  | word :: others => "'" ++ word ++ "', " ++ alternatives others

def message : Cause → String
  | .missing => "Field required"
  | .noInteger => "Input should be a valid integer"
  | .malformedInteger => "Input should be a valid integer, unable to parse string as an integer"
  | .longInteger => "Unable to parse input string as an integer, exceeded maximum size"
  | .fractional => "Input should be a valid integer, got a number with a fractional part"
  | .notFinite => "Input should be a finite number"
  | .noBoolean => "Input should be a valid boolean"
  | .malformedBoolean => "Input should be a valid boolean, unable to interpret input"
  | .noString => "Input should be a valid string"
  | .noTuple => "Input should be a valid tuple"
  | .noWord words => "Input should be " ++ alternatives words
  | .noRecord name => "Input should be a valid dictionary or instance of " ++ name
  | .noPattern => "Input should be a valid pattern"
  | .malformedPattern => "Input should be a valid regular expression"
  | .negative => "Input should be greater than or equal to 0"
  | .trueDepth => "Value error, max_nesting_depth must be an integer or False"
  | .negativeDepth => "Value error, max_nesting_depth must not be negative"
  | .notFalse => "Input should be False"
  | .frozen => "Instance is frozen"

end Cause

/-- The problem that a record does not change, met when a field is set. -/
def Problem.ofFrozen (field : String) : Problem := ⟨[.field field], .frozen⟩

/-- What reading gives: a value, or the problems that keep it from one. -/
inductive Reading (α : Type) where
  | ok (value : α)
  | refused (problems : List Problem)

namespace Reading

variable {α β : Type}

/-- A value that could not be read, for one cause. -/
def fail (cause : Cause) : Reading α := .refused [⟨[], cause⟩]

/-- A value read, under a function. -/
def map (change : α → β) : Reading α → Reading β
  | .ok value => .ok (change value)
  | .refused problems => .refused problems

/-- A function applied to a value, with the problems of both. -/
def apply (change : Reading (α → β)) (reading : Reading α) : Reading β :=
  match change, reading with
  | .ok change, .ok value => .ok (change value)
  | .ok _, .refused problems => .refused problems
  | .refused problems, .ok _ => .refused problems
  | .refused problems, .refused others => .refused (problems ++ others)

instance : Applicative Reading where
  pure := .ok
  map := map
  seq change reading := apply change (reading ())

/-- A reading that depends on a value already read. -/
def andThen (reading : Reading α) (next : α → Reading β) : Reading β :=
  match reading with
  | .ok value => next value
  | .refused problems => .refused problems

/-- The reading of what lies one step further in. -/
def under (step : Step) : Reading α → Reading α
  | .ok value => .ok value
  | .refused problems =>
    .refused (problems.map fun problem => { problem with place := step :: problem.place })

/-- The readings of items, each under its index. -/
def itemsFrom (read : Json → Reading α) (index : Nat) : List Json → Reading (List α)
  | [] => .ok []
  | item :: rest =>
    apply (map List.cons ((read item).under (.index index))) (itemsFrom read (index + 1) rest)

/-- The items of an array. -/
def tuple (read : Json → Reading α) : Json → Reading (List α)
  | .array items => itemsFrom read 0 items
  | _ => fail .noTuple

/-- A value, or none for a null. -/
def nullable (read : Json → Reading α) : Json → Reading (Option α)
  | .null => .ok none
  | json => (read json).map some

/-- The members of an object, read as a record of a name. -/
def record (name : String) (read : List (Text × Json) → Reading α) : Json → Reading α
  | .object members => read members
  | _ => fail (.noRecord name)

def member? (members : List (Text × Json)) (name : String) : Option Json :=
  (members.find? fun member => member.1 == Text.ofString name).map (·.2)

/-- A field that has to be there. -/
def required (members : List (Text × Json)) (name : String) (read : Json → Reading α) : Reading α :=
  match member? members name with
  | some json => (read json).under (.field name)
  | none => (fail .missing).under (.field name)

/-- A field that has a value of its own when it is not there. -/
def withDefault (members : List (Text × Json)) (name : String) (default : α)
    (read : Json → Reading α) :
    Reading α :=
  match member? members name with
  | some json => (read json).under (.field name)
  | none => .ok default

def text : Json → Reading Text
  | .string text => .ok text
  | _ => fail .noString

/-- The meaning of a text among some words. -/
def meaning? (words : List (String × α)) (text : Text) : Option α :=
  (words.find? fun entry => Text.ofString entry.fst == text).map Prod.snd

/-- One of some words, by its meaning. -/
def word (words : List (String × α)) : Json → Reading α
  | .string text =>
    match meaning? words text with
    | some value => .ok value
    | none => fail (.noWord (words.map Prod.fst))
  | _ => fail (.noWord (words.map Prod.fst))

end Reading

end TestOutline
