/-
**Commands.** What the commands show, and how they end.

* `Command.run` — runs a command on files; nothing but the report comes of it.
* `Report.status` — zero if all went well.
-/

import TestOutline.Command.Arguments
import TestOutline.Json.Printer
import TestOutline.Outline.Files
import TestOutline.Outline.Statistics
import TestOutline.Record.OptionsReader
import TestOutline.Record.Printer
import TestOutline.Terminal.Table

namespace TestOutline

/-- What breaks a command off. -/
inductive Crash where
  | files (fault : FileFault)
  | options (problems : List Problem)
  | markup (fault : Markup.Fault)
  deriving DecidableEq, Repr

def Crash.message : Crash → Text
  | .files fault => fault.message
  | .options problems =>
    Text.join [Text.lineFeed] (problems.map fun problem => Text.ofString problem.cause.message)
  | .markup fault => fault.message

/-- What a command shows: its lines, what broke it off, and whether it met errors. -/
structure Report where
  lines : List Text
  crash : Option Crash
  hasErrors : Bool

namespace Report

/-- The report of a command that breaks off before it shows anything. -/
def ofCrash (crash : Crash) : Report := ⟨[], some crash, false⟩

def text (report : Report) : Text := report.lines.flatMap fun line => line ++ [Text.lineFeed]

/-- The status that the program ends with. -/
def status (report : Report) : Nat := if report.crash.isSome || report.hasErrors then 1 else 0

/-- The report of pieces that are shown one after the other, up to the first that cannot be. -/
def ofPieces (hasErrors : Bool) : List (Except Markup.Fault (List Text)) → Report
  | [] => ⟨[], none, hasErrors⟩
  | .error fault :: _ => ofCrash (.markup fault)
  | .ok lines :: rest =>
    let others := ofPieces hasErrors rest
    { others with lines := lines ++ others.lines }

end Report

namespace Command

/-! ### Pieces -/

/-- A piece of marked text. -/
def marked (text : Text) : Except Markup.Fault (List Text) := (Markup.render text).map Text.lines

/-- A piece of text that is shown as it is. -/
def verbatim (text : Text) : Except Markup.Fault (List Text) := .ok text.lines

def messages (errors warnings : List Text) : List (Except Markup.Fault (List Text)) :=
  (errors.map fun error => marked ("[red]error[/red] " ++ Markup.escape error)) ++
    warnings.map fun warning => marked ("[yellow]warning[/yellow] " ++ Markup.escape warning)

def lineText (line : Int) : Text := " (line " ++ Text.ofInt line ++ ")"

def hookLabel (hook : Hook) : Text :=
  "[magenta]" ++ Text.ofString hook.kind.word ++ "[/magenta]" ++ lineText hook.line

def blockLabel (head : BlockHead) : Text :=
  let style : Text := if head.isSuite then "cyan" else "green"
  let async : Text := if head.isAsync then "async " else ""
  let mark : Text := if head.isRequest then " [yellow]request[/yellow]" else ""
  "[" ++ style ++ "]" ++ async ++ Text.ofString head.kind.word ++ "[/" ++ style ++ "] " ++
    Markup.escape head.name.quoted ++ lineText head.line ++ mark

/-- The label of a hook as a tree without branches. -/
def hookTree (hook : Hook) : Tree Text := .mk (hookLabel hook) []

mutual

/-- The labels of a block, of its hooks, and of the blocks in it. -/
def blockTree : Tree BlockHead → Tree Text
  | .mk head children => .mk (blockLabel head) (head.hooks.map hookTree ++ blockTrees children)

def blockTrees : List (Tree BlockHead) → List (Tree Text)
  | [] => []
  | block :: rest => blockTree block :: blockTrees rest

end

/-- The labels of all that was found in a file. -/
def outlineTree (name : Text) (outline : Outline) : Tree Text :=
  .mk ("[bold]" ++ Markup.escape name ++ "[/bold]")
    (outline.hooks.map hookTree ++ blockTrees outline.blocks)

/-- The pieces for the outline of a file. -/
def outlinePieces (name : Text) (outline : Outline) : List (Except Markup.Fault (List Text)) :=
  (outlineTree name outline).render :: messages outline.errors outline.warnings

/-- The pieces for a table, with the number of its rows. -/
def tablePieces (table : Table) : List (Except Markup.Fault (List Text)) :=
  [table.render, marked ("(" ++ Text.ofNat table.rows.length ++ " rows)")]

/-! ### Commands -/

/-- The shortest text of a path. -/
def normalPath (path : Text) : Text := (Path.parse path).text

def optionsOf (request : ExtractRequest) : Reading Options :=
  let members := [
    (Text.ofString "strict_mode", Json.bool request.strict),
    (Text.ofString "include_comments", Json.bool request.comments),
    (Text.ofString "max_nesting_depth", (request.maxDepth.map Json.int).getD (.bool false))]
  let language := (request.language.filter (!·.isEmpty)).map fun name =>
    (Text.ofString "language", Json.string name)
  Options.ofMembers (members ++ language.toList) none

/-- The outlines of files as JSON, by their names. -/
def outlinesJson (outlines : List (Text × Outline)) : Json :=
  .object (outlines.map fun (name, outline) => (name, outline.toJson))

def runExtract (read : FileReader) (request : ExtractRequest) : Report :=
  match optionsOf request with
  | .refused problems => .ofCrash (.options problems)
  | .ok options =>
    match Outline.ofFiles read options none (request.paths.map normalPath) with
    | .error fault => .ofCrash (.files fault)
    | .ok outlines =>
      .ofPieces (outlines.any (·.2.hasErrors)) <|
        if request.asJson then [verbatim (outlinesJson outlines).pretty]
        else outlines.flatMap fun (name, outline) => outlinePieces name outline

/-- The blocks of metadata in the order of their lines; on one line the block about the file comes
first, then those about groups. -/
def inLineOrder (outline : MetadataOutline) : List MetadataBlock :=
  (outline.fileMetadata.toList ++ outline.groupMetadata ++ outline.requestMetadata).mergeSort
    fun left right =>
    left.startLine ≤ right.startLine

/-- The row of a block of metadata. -/
def metadataRow (block : MetadataBlock) : List Text := [
  Text.ofString block.scope.word, block.id,
  Text.ofInt block.startLine ++ "-" ++ Text.ofInt block.endLine,
  if block.testCode.any (!·.isEmpty) then "yes" else "no"]

def metadataTable (path : Text) (outline : MetadataOutline) : Table where
  title := path
  heads := ["scope", "id", "lines", "test code"]
  rows := (inLineOrder outline).map metadataRow

/-- The report of a file that cannot be read. -/
def unreadable (path : Path) (fault : ReadFault) : Report :=
  .ofPieces true
    [marked ("[red]error[/red] Failed to read file: " ++ Markup.escape (fault.message path))]

def runMetadata (read : FileReader) (path : Text) (asJson : Bool) : Report :=
  let parsed := Path.parse path
  match read parsed with
  | .error fault => .ofCrash (.files (.path fault))
  | .ok (.error fault) => unreadable parsed fault
  | .ok (.ok text) =>
    match MetadataOutline.ofText Options.usual text with
    | .error fault => .ofCrash (.files (.extraction fault))
    | .ok outline =>
      .ofPieces (!outline.errors.isEmpty) <|
        if asJson then [verbatim outline.toJson.pretty]
        else tablePieces (metadataTable parsed.text outline) ++
          messages outline.errors outline.warnings

def statsRow (name : Text) (outline : Outline) : List Text :=
  let statistics := outline.statistics
  name :: [statistics.suites, statistics.tests, statistics.requestBlocks, statistics.hooks,
    statistics.requestMetadata, statistics.errors, statistics.warnings].map Text.ofInt

def statsTable (outlines : List (Text × Outline)) : Table where
  title := "Extraction statistics"
  heads := ["file", "suites", "tests", "request", "hooks", "request metadata", "errors", "warnings"]
  rows := outlines.map fun (name, outline) => statsRow name outline

def runStats (read : FileReader) (paths : List Text) : Report :=
  match Outline.ofFiles read Options.usual none (paths.map normalPath) with
  | .error fault => .ofCrash (.files fault)
  | .ok outlines => .ofPieces (outlines.any (·.2.hasErrors)) (tablePieces (statsTable outlines))

def helpText : Text :=
  "Usage: test-outline [-v] extract PATHS... [--json] [--strict|--no-strict] " ++
  "[--comments|--no-comments]\n" ++
  "                         [--max-depth N] [--language NAME]\n" ++
  "       test-outline [-v] metadata PATH [--json]\n" ++
  "       test-outline [-v] stats PATHS..."

def run (read : FileReader) : Command → Report
  | .extract request => runExtract read request
  | .metadata path asJson => runMetadata read path asJson
  | .stats paths => runStats read paths
  | .help => .ofPieces false [verbatim helpText]

end Command

end TestOutline
