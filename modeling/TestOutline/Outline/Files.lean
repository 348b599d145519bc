/-
**Outlines of files.** Files are read in the order in which they are named; a file that cannot be
read has an outline that says so.

* `Outline.ofFile` — the outline of a file, in the language that the options name or else the path
  shows.
* `Outline.ofFiles` — the outlines of files by their names, each name once.
-/

import TestOutline.Files.Reading
import TestOutline.Outline.Extraction

namespace TestOutline

/-- What stops the extraction of files. -/
inductive FileFault where
  | path (fault : PathFault)
  | extraction (fault : ExtractionFault)
  | noWorkers
  deriving DecidableEq, Repr

def FileFault.message : FileFault → Text
  | .path fault => fault.message
  | .extraction fault => fault.message
  | .noWorkers => "max_workers must be greater than 0"

namespace Outline

/-- The options for a file: if they name no language, it is that of the file's extension. -/
def optionsFor (options : Options) (path : Path) : Options :=
  match options.languageName, Language.ofPath? path with
  | none, .ok language => { options with languageName := some (Text.ofString language.name) }
  | _, _ => options

/-- The error for a file that cannot be read; `name` is how the file is named. -/
def readError (name : Text) (path : Path) : ReadFault → Text
  | .missing => "File not found: " ++ name
  | fault => "Failed to read file: " ++ fault.message path

def ofFile (read : FileReader) (options : Options) (name : Text) : Except FileFault Outline := do
  let path := Path.parse name
  match ← (read path).mapError .path with
  | .error fault => return ofError (readError name path fault)
  | .ok text => (ofText (optionsFor options path) text).mapError .extraction

def ofEachFile (read : FileReader) (options : Options) :
    List Text → Except FileFault (List (Text × Outline))
  | [] => .ok []
  | name :: rest => do
    let outline ← ofFile read options name
    let others ← ofEachFile read options rest
    return (name, outline) :: others

/-- The outlines without those whose name came before. -/
def firstOfEachName (seen : List Text) : List (Text × Outline) → List (Text × Outline)
  | [] => []
  | entry :: rest =>
    if seen.contains entry.1 then firstOfEachName seen rest
    else entry :: firstOfEachName (entry.1 :: seen) rest

/-- The outlines of some files by their names; the number of workers, if it is given, has to be
positive. -/
def ofFiles (read : FileReader) (options : Options) (workers : Option Int) (names : List Text) :
    Except FileFault (List (Text × Outline)) := do
  if workers.any fun count => count ≤ 0 then throw .noWorkers
  let outlines ← ofEachFile read options names
  return firstOfEachName [] outlines

end Outline

end TestOutline
