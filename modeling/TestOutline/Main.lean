/-
**The program.** It reads the files that its arguments name, runs the command on them, and writes
the report.

* `main` — ends with the report's status, or with two if the arguments are no command.
-/

import TestOutline.Command.Report

namespace TestOutline

/-- The paths of the files that a command reads. -/
def Command.paths : Command → List Path
  | .extract request => request.paths.map Path.parse
  | .metadata path _ => [Path.parse path]
  | .stats paths => paths.map Path.parse
  | .help => []

/-- Why a file could not be opened or read, by the number of the system's error; some numbers come
negated, as words of 32 bits. -/
def ReadFault.ofNumber (word : UInt32) (problem : String) : ReadFault :=
  match if word.toNat < 0x80000000 then word.toNat else 0x100000000 - word.toNat with
  | 2 => .missing
  | 20 => .notDirectory
  | 21 => .isDirectory
  | 36 => .nameTooLong
  | number => .other number problem

/-- Why a file could not be opened or read. -/
def ReadFault.ofError : IO.Error → ReadFault
  | .noFileOrDirectory _ number problem => ofNumber number problem
  | .inappropriateType _ number problem => ofNumber number problem
  | .noSuchThing _ number problem => ofNumber number problem
  | .invalidArgument _ number problem => ofNumber number problem
  | .permissionDenied _ number problem => ofNumber number problem
  | .resourceExhausted _ number problem => ofNumber number problem
  | .otherError number problem => ofNumber number problem
  | problem => .other 5 (toString problem)

def readFile (path : Path) : IO (Except ReadFault Text) := do
  try
    let bytes ← IO.FS.readBinFile (String.ofList (path.text.filterMap CodePoint.char?))
    return textOfBytes bytes.toList
  catch problem => return .error (.ofError problem)

def readFiles (paths : List Path) : IO FileReader := do
  let texts ← paths.mapM fun path => return (path, ← readFile path)
  return fun path => .ok ((Command.lookUp? texts path).getD (.error .missing))

/-- Writes a text; a code point without encoding is written as a question mark. -/
def writeText (stream : IO.FS.Stream) (text : Text) : IO Unit :=
  stream.putStr (String.ofList (text.map fun point => point.char?.getD '?'))

def runProgram (arguments : List String) : IO UInt32 := do
  match Command.parse (arguments.map Text.ofString) with
  | .error fault =>
    writeText (← IO.getStderr) (fault.message ++ "\n")
    return 2
  | .ok command =>
    let report := command.run (← readFiles command.paths)
    writeText (← IO.getStdout) report.text
    if let some crash := report.crash then writeText (← IO.getStderr) (crash.message ++ "\n")
    return report.status.toUInt32

end TestOutline

/-- The program's entry. -/
def main (arguments : List String) : IO UInt32 := TestOutline.runProgram arguments
