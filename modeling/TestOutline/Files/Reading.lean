/-
**Reading files.** What a file holds as text, or why it cannot be read.

* `ReadFault.message` — the wording of why a file cannot be read.
* `textOfBytes` — the text of a file: UTF-8, with every kind of line end made a line feed.
-/

import TestOutline.Files.Path
import TestOutline.Text.Quoted

namespace TestOutline

/-- Why no file can have a path: it holds a zero, or a code point without encoding. -/
inductive PathFault where
  | holdsZero
  | noEncoding
  deriving DecidableEq, Repr

def PathFault.message : PathFault → Text
  | .holdsZero => "embedded null byte"
  | .noEncoding => "surrogates not allowed"

/-- Why a file cannot be read. -/
inductive ReadFault where
  | missing
  | isDirectory
  | notDirectory
  | nameTooLong
  | undecodable (fault : DecodingFault)
  | other (number : Nat) (problem : String)
  deriving DecidableEq, Repr

namespace ReadFault

/-- The wording of a fault of the file system, with its number. -/
def ofSystem (number : Nat) (problem : String) (path : Path) : Text :=
  "[Errno " ++ Text.ofNat number ++ "] " ++ Text.ofString problem ++ ": " ++ path.text.quoted

def message (path : Path) : ReadFault → Text
  | .missing => ofSystem 2 "No such file or directory" path
  | .isDirectory => ofSystem 21 "Is a directory" path
  | .notDirectory => ofSystem 20 "Not a directory" path
  | .nameTooLong => ofSystem 36 "File name too long" path
  | .undecodable fault => fault.message
  | .other number problem => ofSystem number problem path

end ReadFault

/-- The characters with every kind of line end made a line feed. -/
def unifyLineEnds : List Char → List Char
  | '\r' :: '\n' :: rest => '\n' :: unifyLineEnds rest
  | '\r' :: rest => '\n' :: unifyLineEnds rest
  | char :: rest => char :: unifyLineEnds rest
  | [] => []

/-- The text of a file with the given bytes. -/
def textOfBytes (bytes : List UInt8) : Except ReadFault Text :=
  match Utf8.decode bytes with
  | .ok chars => .ok (Text.ofChars (unifyLineEnds chars))
  | .error fault => .error (.undecodable fault)

/-- How files are read: a path has a text, or there is a reason why it has none. -/
abbrev FileReader := Path → Except PathFault (Except ReadFault Text)

end TestOutline
