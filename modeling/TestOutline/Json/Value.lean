/-
**JSON values.** Integers and other numbers are told apart; members keep the order in which their
keys first came.

* `Json.insert` — a key that comes again keeps its place and takes the new value.
-/

import TestOutline.Number.Binary64
import TestOutline.Text.CodePoint

namespace TestOutline

/-- A JSON value. -/
inductive Json where
  | null
  | bool (value : Bool)
  | int (value : Int)
  | float (value : Binary64)
  | string (value : Text)
  | array (items : List Json)
  | object (members : List (Text × Json))
  deriving Inhabited, Repr

namespace Json

/-- Adds a member; a key that is there already keeps its place and takes the new value. -/
def insert (key : Text) (value : Json) : List (Text × Json) → List (Text × Json)
  | [] => [(key, value)]
  | member :: rest =>
    if member.1 = key then (key, value) :: rest else member :: insert key value rest

def get? (key : Text) : Json → Option Json
  | .object members => (members.find? fun member => member.1 == key).map (·.2)
  | _ => none

/-- Whether a value is an object or an array. -/
def isContainer : Json → Bool
  | .object _ => true
  | .array _ => true
  | _ => false

end Json

end TestOutline
