/-
**Arguments.** What a command line asks for.

* `Command.parse` — the command of some arguments, or what is wrong with them.
* `Command.integer?` — the integer that an argument spells.
-/

import TestOutline.Text.Blank
import TestOutline.Text.Digit

namespace TestOutline

/-- How outlines are to be extracted and shown. -/
structure ExtractRequest where
  paths : List Text
  asJson : Bool
  strict : Bool
  comments : Bool
  maxDepth : Option Int
  language : Option Text
  deriving DecidableEq, Repr

/-- What a command line asks for. -/
inductive Command where
  | extract (request : ExtractRequest)
  | metadata (path : Text) (asJson : Bool)
  | stats (paths : List Text)
  | help
  deriving DecidableEq, Repr

/-- What is wrong with a command line. -/
inductive UsageFault where
  | noCommand
  | unknownCommand (name : Text)
  | unknownOption (name : Text)
  | missingValue (name : Text)
  | unexpectedValue (name : Text)
  | noInteger (value : Text)
  | missingPath
  | surplusPath (path : Text)
  deriving DecidableEq, Repr

def UsageFault.message : UsageFault → Text
  | .noCommand => "Missing command."
  | .unknownCommand name => "No such command '" ++ name ++ "'."
  | .unknownOption name => "No such option: " ++ name
  | .missingValue name => "Option '" ++ name ++ "' requires an argument."
  | .unexpectedValue name => "Option '" ++ name ++ "' does not take a value."
  | .noInteger value => "Invalid value for '--max-depth': '" ++ value ++ "' is not a valid integer."
  | .missingPath => "Missing path."
  | .surplusPath path => "Got unexpected extra argument (" ++ path ++ ")"

namespace Command

/-! ### Integers -/

/-- The value of a decimal digit of any script: the place in its run of ten. -/
def digitValue? (point : CodePoint) : Option Nat :=
  (digitRanges.find? fun range => range.1 ≤ point.value && point.value ≤ range.2).map fun range =>
    (point.value - range.1) % 10

/-- The number that digits spell, which may have single underscores between them. -/
def digitsValue? (number : Nat) : Text → Option Nat
  | [] => none
  | [last] => (digitValue? last).map (number * 10 + ·)
  | first :: .scalar '_' :: rest => do
    let digit ← digitValue? first
    digitsValue? (number * 10 + digit) rest
  | first :: rest => do
    let digit ← digitValue? first
    digitsValue? (number * 10 + digit) rest

/-- The integer that an argument spells. -/
def integer? (text : Text) : Option Int :=
  match Text.strip text with
  | .scalar '-' :: digits => (digitsValue? 0 digits).map fun number => -(number : Int)
  | .scalar '+' :: digits => (digitsValue? 0 digits).map Int.ofNat
  | digits => (digitsValue? 0 digits).map Int.ofNat

/-! ### Options -/

/-- The options of a command: what each does when it is met, with the value that it takes if it
takes one. -/
structure Switches (α : Type) where
  flags : List (Text × (α → α))
  values : List (Text × (α → Text → Except UsageFault α))

/-- Whether an argument is an option: a dash and something more. -/
def isOption : Text → Bool
  | .scalar '-' :: _ :: _ => true
  | _ => false

/-- The two dashes after which nothing is an option. -/
def endMark : Text := "--"

/-- The first of some pairs with a key. -/
def lookUp? {α β : Type} [BEq α] (pairs : List (α × β)) (key : α) : Option β :=
  (pairs.find? fun pair => pair.1 == key).map (·.2)

/-- Reads the options and the other arguments of a command. A value follows its option, or stands
behind an equals sign. -/
def readSwitches {α : Type} (switches : Switches α) :
    List Text → α → Except UsageFault (α × List Text)
  | [], state => .ok (state, [])
  | argument :: rest, state =>
    if argument = endMark then .ok (state, rest)
    else if !isOption argument then do
      let (state, others) ← readSwitches switches rest state
      return (state, argument :: others)
    else
      let name := argument.takeWhile (· != .scalar '=')
      let attached :=
        if name.length < argument.length then some (argument.drop (name.length + 1)) else none
      match lookUp? switches.flags name, lookUp? switches.values name, attached with
      | some change, _, none => readSwitches switches rest (change state)
      | some _, _, some _ => .error (.unexpectedValue name)
      | none, some change, some value => do readSwitches switches rest (← change state value)
      | none, some change, none =>
        match rest with
        | value :: rest => do readSwitches switches rest (← change state value)
        | [] => .error (.missingValue name)
      | none, none, _ => .error (.unknownOption name)

def helpNames : List Text := ["-h", "--help"]

/-! ### Commands -/

def extractSwitches : Switches ExtractRequest where
  flags := [
    ("--json", fun request => { request with asJson := true }),
    ("--strict", fun request => { request with strict := true }),
    ("--no-strict", fun request => { request with strict := false }),
    ("--comments", fun request => { request with comments := true }),
    ("--no-comments", fun request => { request with comments := false })]
  values := [
    ("--max-depth", fun request value =>
      match integer? value with
      | some depth => .ok { request with maxDepth := some depth }
      | none => .error (.noInteger value)),
    ("--language", fun request value => .ok { request with language := some value })]

def metadataSwitches : Switches Bool where
  flags := [("--json", fun _ => true)]
  values := []

def statsSwitches : Switches Unit where
  flags := []
  values := []

def asksForHelp (arguments : List Text) : Bool :=
  (arguments.takeWhile (· != endMark)).any helpNames.contains

def parseExtract (arguments : List Text) : Except UsageFault Command := do
  let (request, paths) ← readSwitches extractSwitches arguments ⟨[], false, false, true, none, none⟩
  if paths.isEmpty then throw .missingPath
  return .extract { request with paths := paths }

def parseMetadata (arguments : List Text) : Except UsageFault Command := do
  let (asJson, paths) ← readSwitches metadataSwitches arguments false
  match paths with
  | [] => throw .missingPath
  | [path] => return .metadata path asJson
  | _ :: surplus :: _ => throw (.surplusPath surplus)

def parseStats (arguments : List Text) : Except UsageFault Command := do
  let ((), paths) ← readSwitches statsSwitches arguments ()
  if paths.isEmpty then throw .missingPath
  return .stats paths

/-- The commands by their names. -/
def parsers : List (Text × (List Text → Except UsageFault Command)) := [
  ("extract", parseExtract), ("metadata", parseMetadata), ("stats", parseStats)]

def parseNamed : List Text → Except UsageFault Command
  | [] => .error .noCommand
  | name :: arguments =>
    match lookUp? parsers name with
    | none => .error (.unknownCommand name)
    | some parser => if asksForHelp arguments then .ok .help else parser arguments

/-- Whether an argument only asks for more to be logged. -/
def isVerbose (argument : Text) : Bool :=
  match argument with
  | .scalar '-' :: letter :: letters => (letter :: letters).all (· == .scalar 'v') ||
      argument == "--verbose"
  | _ => false

/-- Reads a command line: options of the program, then a command with its arguments. -/
def parse : List Text → Except UsageFault Command
  | [] => .error .noCommand
  | argument :: rest =>
    if argument = endMark then parseNamed rest
    else if helpNames.contains argument then .ok .help
    else if isVerbose argument then parse rest
    else if isOption argument then .error (.unknownOption argument)
    else parseNamed (argument :: rest)

end Command

end TestOutline
