/-
**Disks.** Files and directories below a working directory, and how paths lead to them.

* `Disk.ofEntries` — the disk that holds some files and directories, with the directories above
  them.
* `Disk.read` — the text at a path.
-/

import TestOutline.Files.Reading

namespace TestOutline

/-- Files and directories, by their names from the working directory on. -/
structure Disk where
  files : List (List Text × List UInt8)
  directories : List (List Text)

namespace Disk

/-- The directories above a place. -/
def above : List Text → List (List Text)
  | [] => []
  | name :: rest => [] :: (above rest).map (name :: ·)

def withFile (disk : Disk) (path : Path) (bytes : List UInt8) : Disk where
  files := (path.names, bytes) :: disk.files
  directories := above path.names ++ disk.directories

def withDirectory (disk : Disk) (path : Path) : Disk where
  files := disk.files
  directories := path.names :: above path.names ++ disk.directories

/-- The disk that holds some files, and directories where no bytes are given. -/
def ofEntries (entries : List (Path × Option (List UInt8))) : Disk :=
  entries.foldl
    (fun disk entry =>
      match entry.2 with
      | some bytes => disk.withFile entry.1 bytes
      | none => disk.withDirectory entry.1)
    ⟨[], [[]]⟩

/-- The bytes of the file at a place. -/
def file? (disk : Disk) (names : List Text) : Option (List UInt8) :=
  (disk.files.find? fun entry => entry.1 == names).map (·.2)

/-- The two dots that lead to the directory above. -/
def parentName : Text := [Path.dot, Path.dot]

/-- Whether a code point stands for a byte that is no text. -/
def isRawByte (point : CodePoint) : Bool := 0xDC80 ≤ point.value && point.value ≤ 0xDCFF

/-- The number of bytes of a code point in a path. -/
def byteCount (point : CodePoint) : Nat :=
  match point with
  | .scalar char => char.utf8Size
  | .surrogate _ => 1

/-- The number of bytes of a text in a path. -/
def byteLength : Text → Nat
  | [] => 0
  | point :: rest => byteCount point + byteLength rest

/-- The most bytes that a name may have. -/
def longestName : Nat := 255

/-- The most bytes that a path may have. -/
def longestPath : Nat := 4095

/-- The place that names lead to from a directory; it is none outside the working directory, of
which nothing is known but that it is there. -/
def locate (disk : Disk) (place : Option (List Text)) :
    List Text → Except ReadFault (Option (List Text))
  | [] => .ok place
  | name :: rest =>
    match place with
    | none => if name = parentName then locate disk none rest else .error .missing
    | some names =>
      if (disk.file? names).isSome then .error .notDirectory
      else if name = parentName
        then locate disk (if names.isEmpty then none else some names.dropLast) rest
      else if longestName < byteLength name then .error .nameTooLong
      else
        let next := names ++ [name]
        if (disk.file? next).isSome || disk.directories.contains next
          then locate disk (some next) rest
        else .error .missing

def textAt (disk : Disk) (path : Path) : Except ReadFault Text := do
  if longestPath < byteLength path.text then throw .nameTooLong
  let place ← disk.locate (if path.anchor.isEmpty then some [] else none) path.names
  match place.bind disk.file? with
  | some bytes => textOfBytes bytes
  | none => throw .isDirectory

def read (disk : Disk) : FileReader := fun path =>
  if path.text.any fun point => point.isSurrogate && !isRawByte point then .error .noEncoding
  else if path.text.contains (Text.ofString "\x00") then .error .holdsZero
  else .ok (disk.textAt path)

end Disk

end TestOutline
