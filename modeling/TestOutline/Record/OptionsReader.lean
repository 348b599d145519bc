/-
**Options from JSON.** Options read as a record.

A pattern is given as a text, or as an object with the text under `regex` and its marks under
`flags`, where `i` makes it blind to case.

* `Options.readBy` — options, unless what stands for the patterns cannot be gone through, by a
  reader of integers from texts.
* `Options.read` — the same by `Reading.integerOfText`.
-/

import TestOutline.Outline.Options
import TestOutline.Record.Fields
import TestOutline.Record.Scalar

namespace TestOutline

/-- A value that cannot be gone through item by item. -/
structure NoItems where
  kind : String
  deriving DecidableEq, Repr

def NoItems.message (fault : NoItems) : String := "'" ++ fault.kind ++ "' object is not iterable"

namespace Reading

def patternOf (ignoreCase : Bool) (source : Text) : Reading Pattern :=
  match Pattern.read? ignoreCase source with
  | some pattern => .ok pattern
  | none => fail .malformedPattern

/-- The pattern that an object stands for, if it has its text under `regex`. -/
def compiledPattern? (json : Json) : Option (Reading Pattern) :=
  match json.get? "regex" with
  | some (.string source) =>
    let ignoreCase :=
      match json.get? "flags" with
      | some (.string flags) => flags.any (· == .scalar 'i')
      | _ => false
    some (patternOf ignoreCase source)
  | _ => none

def pattern (json : Json) : Reading Pattern :=
  match json with
  | .string source => patternOf false source
  | _ => (compiledPattern? json).getD (fail .noPattern)

def namePattern : Json → Reading NamePattern :=
  record "RequestPattern" fun members =>
    NamePattern.mk <$> required members "pattern" pattern <*>
      withDefault members "kind" none (nullable (word BlockKind.words))

/-- A pattern for names, which may be given by its pattern alone. -/
def namePatternItem (json : Json) : Reading NamePattern :=
  let alone (reading : Reading Pattern) : Reading NamePattern :=
    (reading.under (.field "pattern")).map fun pattern => ⟨pattern, none⟩
  match json, compiledPattern? json with
  | .string source, _ => alone (patternOf false source)
  | _, some compiled => alone compiled
  | _, none => namePattern json

/-- The items of what stands for a list: those of an array, the single code points of a text, or the
keys of an object. -/
def items? : Json → Except NoItems (Option (List Json))
  | .null => .ok none
  | .array items => .ok (some items)
  | .string text => .ok (some (text.map fun point => .string [point]))
  | .object members => .ok (some (members.map fun member => .string member.1))
  | .bool _ => .error ⟨"bool"⟩
  | .int _ => .error ⟨"int"⟩
  | .float _ => .error ⟨"float"⟩

/-- The patterns that items stand for, if there are any items. -/
def namePatterns : Option (List Json) → Reading (Option (List NamePattern))
  | none => .ok none
  | some items =>
    ((itemsFrom namePatternItem 0 items).under (.field "request_identifier_patterns")).map some

/-- Whether a value is as good as false: false itself, or a zero that is not given as an integer. -/
def meansFalse : Json → Bool
  | .bool value => !value
  | .float float => float.integer? == some 0
  | _ => false

/-- The limit that an integer is. -/
def limitOf (reading : Reading Int) : Reading (Option Int) :=
  match reading.under (.field "int") with
  | .ok number => .ok (some number)
  | .refused problems => .refused (problems ++ [⟨[.field "literal[False]"], .notFalse⟩])

/-- The greatest depth of blocks: an integer, or no limit. A negative one is refused where it is
given as an integer; `ofText` reads integers from texts. -/
def depthLimitBy (ofText : Text → Reading Int) (json : Json) : Reading (Option Int) :=
  if meansFalse json then .ok none
  else
    match json with
    | .bool _ => fail .trueDepth
    | .int number => if number < 0 then fail .negativeDepth else .ok (some number)
    | json => limitOf (integerBy ofText json)

end Reading

namespace Options

/-- The patterns among the members of options. -/
def patternItems (members : List (Text × Json)) : Except NoItems (Option (List Json)) :=
  match Reading.member? members "request_identifier_patterns" with
  | some json => Reading.items? json
  | none => .ok none

/-- A field that is either on or off. -/
def flag (members : List (Text × Json)) (name : String) (default : Bool) : Reading Bool :=
  Reading.withDefault members name default Reading.boolean

/-- Options from members and the items that stand for patterns; `ofText` reads integers from
texts. -/
def ofMembersBy (ofText : Text → Reading Int) (members : List (Text × Json))
    (items : Option (List Json)) :
    Reading Options :=
  Options.mk <$> flag members "preserve_formatting" true <*>
    flag members "include_comments" true <*>
    flag members "extract_helpers" true <*> flag members "extract_types" false <*>
      Reading.namePatterns items <*>
    Reading.withDefault members "max_nesting_depth" none (Reading.depthLimitBy ofText) <*>
    flag members "strict_mode" false <*> flag members "validate_syntax" false <*>
      flag members "validate_json" true <*>
    Reading.withDefault members "language" none (fun json => (Reading.text json).map some) <*>
    Reading.withDefault members "metadata_lookback_chars" usual.lookbackChars
      (Reading.naturalBy ofText) <*>
    Reading.withDefault members "test_code_lookahead_lines" usual.lookaheadLines
      (Reading.naturalBy ofText)

def ofMembers (members : List (Text × Json)) (items : Option (List Json)) : Reading Options :=
  ofMembersBy Reading.integerOfText members items

/-- Options, unless what stands for the patterns cannot be gone through; `ofText` reads integers
from texts. -/
def readBy (ofText : Text → Reading Int) (json : Json) : Except NoItems (Reading Options) :=
  match json with
  | .object members => do
    let items ← patternItems members
    return ofMembersBy ofText members items
  | _ => return Reading.fail (.noRecord "ExtractionOptions")

/-- Options, unless what stands for the patterns cannot be gone through. -/
def read (json : Json) : Except NoItems (Reading Options) := readBy Reading.integerOfText json

end Options

end TestOutline
