/-
**Forests.** Candidates linked by their ranges: the parent of a candidate is the innermost suite
that is still open where it starts and lies strictly around it.

* `Forest.link` links the members of a list; places in the list stand for the members. What a member
  is linked to from an earlier list is forgotten.
* `Forest.walk` — the suites and tests, parents first and neighbours in the order of their starts. A
  walk that did not end would give nothing.
* `Forest.depthWarnings` — what is said about blocks that lie too deep, unless the limit cannot be
  written.
-/

import TestOutline.Outline.Candidate

namespace TestOutline

namespace Candidate

/-- Whether a candidate lies strictly inside another one. -/
def contains (outer inner : Candidate) : Bool :=
  outer.startOffset < inner.startOffset && inner.endOffset < outer.endOffset

/-- Whether a candidate comes no later than another one: an earlier start comes first, and of equal
starts the later end. -/
def comesFirst (left right : Candidate) : Bool :=
  left.startOffset < right.startOffset ||
    (left.startOffset == right.startOffset && right.endOffset ≤ left.endOffset)

end Candidate

/-- A candidate with its links, which are places in the list that linked it last, and with why it
counts as exercising a request. -/
structure Member where
  candidate : Candidate
  place : Option Nat
  parent : Option Nat
  depth : Nat
  children : List Nat
  hooks : List Nat
  isRequest : Bool
  evidence : Option Evidence
  deriving DecidableEq, Repr, Inhabited

/-- Members, and a list of some of them with the places that have no parent. A member that is listed
twice stands at both places. -/
structure Forest where
  members : Array Member
  /-- Which member stands at each place of the list. -/
  numbers : Array Nat
  roots : List Nat
  rootHooks : List Nat
  deriving DecidableEq, Repr

/-- What stops a visit to a forest: a member of the wrong kind, or a limit that cannot be
written. -/
inductive VisitFault where
  | kind (fault : KindFault)
  | hugeLimit
  deriving DecidableEq, Repr

/-- What comes of a visit to the members of a forest: a value or a fault, and nothing of a visit
that does not end. -/
abbrev Visit (α : Type) := ExceptT VisitFault Option α

/-- A visit that ends. -/
def Visit.ended {α : Type} (result : Except VisitFault α) : Visit α := ExceptT.mk (some result)

/-- A visit that meets a member of the wrong kind at most. -/
def Visit.ofExcept {α : Type} (result : Except KindFault α) : Visit α :=
  .ended (result.mapError .kind)

namespace Member

/-- A candidate that is in no list yet. -/
def ofCandidate (candidate : Candidate) : Member := ⟨candidate, none, none, 0, [], [], false, none⟩

/-- The member at a place of a new list, before it is linked. -/
def unlinked (place : Nat) (member : Member) : Member :=
  { member with place := some place, parent := none, depth := 0, children := [], hooks := [] }

/-- The member below a parent. -/
def below (parent depth : Nat) (member : Member) : Member :=
  { member with parent := some parent, depth := depth }

/-- The member with one more member below it. -/
def adopt (isHook : Bool) (place : Nat) (member : Member) : Member :=
  if isHook then { member with hooks := member.hooks ++ [place] }
  else { member with children := member.children ++ [place] }

/-- The member with why it counts as exercising a request, if it does. -/
def judged (evidence : Option Evidence) (member : Member) : Member :=
  { member with isRequest := evidence.isSome, evidence := evidence }

@[simp] theorem unlinked_candidate (place : Nat) (member : Member) :
    (member.unlinked place).candidate = member.candidate := rfl

@[simp] theorem below_candidate (parent depth : Nat) (member : Member) :
    (member.below parent depth).candidate = member.candidate := rfl

@[simp] theorem adopt_candidate (isHook : Bool) (place : Nat) (member : Member) :
    (member.adopt isHook place).candidate = member.candidate := by
  unfold adopt
  split <;> rfl

@[simp] theorem adopt_parent (isHook : Bool) (place : Nat) (member : Member) :
    (member.adopt isHook place).parent = member.parent := by
  unfold adopt
  split <;> rfl

@[simp] theorem adopt_depth (isHook : Bool) (place : Nat) (member : Member) :
    (member.adopt isHook place).depth = member.depth := by
  unfold adopt
  split <;> rfl

theorem adopt_children (isHook : Bool) (place : Nat) (member : Member) :
    (member.adopt isHook place).children = member.children ++ if isHook then [] else [place] := by
  cases isHook <;> simp [adopt]

theorem adopt_hooks (isHook : Bool) (place : Nat) (member : Member) :
    (member.adopt isHook place).hooks = member.hooks ++ if isHook then [place] else [] := by
  cases isHook <;> simp [adopt]

@[simp] theorem judged_candidate (evidence : Option Evidence) (member : Member) :
    (member.judged evidence).candidate = member.candidate := rfl

end Member

namespace Forest

/-! ### Members -/

def size (forest : Forest) : Nat := forest.numbers.size

def member (forest : Forest) (place : Nat) : Member :=
  (forest.numbers[place]?.bind fun number => forest.members[number]?).getD default

def candidate (forest : Forest) (place : Nat) : Candidate := (forest.member place).candidate

/-- Changes the member at a place. -/
def modify (forest : Forest) (place : Nat) (change : Member → Member) : Forest :=
  match forest.numbers[place]? with
  | some number => { forest with members := forest.members.modify number change }
  | none => forest

/-- The hooks, in the order of the list. -/
def hooks (forest : Forest) : List Member :=
  ((List.range forest.size).map forest.member).filter (·.candidate.isHook)

/-! ### Linking -/

/-- A list of members that are not linked yet. -/
def unlinked (members : Array Member) (numbers : List Nat) : Forest :=
  (List.range numbers.length).foldl
    (fun forest place => forest.modify place (Member.unlinked place))
    ⟨members, numbers.toArray, [], []⟩

/-- The places in the order in which they are linked. -/
def order (forest : Forest) : List Nat :=
  (List.range forest.size).mergeSort fun left right =>
    (forest.candidate left).comesFirst (forest.candidate right)

/-- The open suites, innermost first, once those are closed that end before a place; closing stops
at the first that does not. -/
def stillOpen (forest : Forest) (opened : List Nat) (place : Nat) : List Nat :=
  opened.dropWhile fun suite =>
    (forest.candidate suite).endOffset ≤ (forest.candidate place).startOffset

/-- The innermost open suite around a place. -/
def parentAmong (forest : Forest) (opened : List Nat) (place : Nat) : Option Nat :=
  opened.find? fun suite => (forest.candidate suite).contains (forest.candidate place)

/-- Puts the member at a place below a parent, or at the top. -/
def attach (forest : Forest) (place : Nat) (parent : Option Nat) : Forest :=
  let isHook := (forest.candidate place).isHook
  match parent with
  | some parent =>
    let depth := (forest.member parent).depth + 1
    (forest.modify place (Member.below parent depth)).modify parent (Member.adopt isHook place)
  | none =>
    if isHook then { forest with rootHooks := forest.rootHooks ++ [place] }
    else { forest with roots := forest.roots ++ [place] }

/-- Links places one after the other, with the suites that are open before the first of them. -/
def sweep (forest : Forest) (opened : List Nat) : List Nat → Forest
  | [] => forest
  | place :: rest =>
    let opened := forest.stillOpen opened place
    let attached := forest.attach place (forest.parentAmong opened place)
    attached.sweep (if (forest.candidate place).isSuite then place :: opened else opened) rest

/-- The forest of a list of members. -/
def link (members : Array Member) (numbers : List Nat) : Forest :=
  let forest := unlinked members numbers
  forest.sweep [] forest.order

/-- The forest of some candidates. -/
def ofCandidates (candidates : List Candidate) : Forest :=
  link (candidates.map Member.ofCandidate).toArray (List.range candidates.length)

/-! ### Visiting -/

/-- Visits places from a stack: the top one first, then those below it before the rest of the
stack. -/
def walkFrom (forest : Forest) (stack : List Nat) : Option (List Nat) :=
  match stack with
  | [] => some []
  | place :: rest => do
    let others ← forest |>.walkFrom ((forest.member place).children ++ rest)
    return place :: others
partial_fixpoint

/-- The suites and tests, parents first and neighbours in the order in which they were linked. -/
def walk (forest : Forest) : Option (List Nat) := forest.walkFrom forest.roots

/-- What is said about a block that lies too deep. -/
def depthWarning (limit : Int) (candidate : Candidate) : Text :=
  "Block '" ++ candidate.name ++ "' at line " ++ Text.ofInt candidate.line ++
    " exceeds maximum nesting depth of " ++ Text.ofInt limit

/-- What is said about a block that lies too deep, if the limit can be written. -/
def sayDepth (limit : Int) (candidate : Candidate) : Except VisitFault Text :=
  if Text.canWrite limit then .ok (depthWarning limit candidate) else .error .hugeLimit

/-- What is said about the blocks that lie too deep. -/
def depthWarnings (options : Options) (forest : Forest) : Visit (List Text) :=
  match options.maxNestingDepth with
  | none => return []
  | some limit => do
    let places ← forest.walk
    let deep := places.filter fun place => limit < (forest.member place).depth
    Visit.ended ((deep.map forest.candidate).mapM (sayDepth limit))

/-- A limit that cannot be written is no matter where no block lies too deep. -/
theorem mapM_sayDepth (limit : Int) (candidates : List Candidate) :
    candidates.mapM (sayDepth limit) =
      if Text.canWrite limit || candidates.isEmpty then .ok (candidates.map (depthWarning limit))
      else .error .hugeLimit := by
  induction candidates with
  | nil =>
    rw [List.isEmpty_nil, Bool.or_true]
    rfl
  | cons candidate rest ih =>
    rw [List.mapM_cons, ih, sayDepth]
    cases Text.canWrite limit <;> rfl

end Forest

end TestOutline
