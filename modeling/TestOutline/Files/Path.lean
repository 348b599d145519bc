/-
**Paths.** A path is an anchor and a list of names; empty names and single dots are dropped, double
dots stay.

* `Path.parse` reads a path and `Path.text` writes it in its shortest form.
* `Path.extension` — the last part of the last name from its last dot on, unless the dot stands
  first or last.
-/

import TestOutline.Text.CodePoint

namespace TestOutline

/-- A path: the slashes it starts from, and its names. -/
structure Path where
  anchor : Text
  names : List Text
  deriving DecidableEq, Repr

namespace Path

def slash : CodePoint := .scalar '/'

def dot : CodePoint := .scalar '.'

/-- The parts of a text between slashes. -/
def split : Text → List Text
  | [] => [[]]
  | point :: rest =>
    if point = slash then [] :: split rest
    else
      match split rest with
      | [] => [[point]]
      | part :: others => (point :: part) :: others

/-- Reads a path. Exactly two leading slashes are an anchor of their own. -/
def parse (text : Text) : Path where
  anchor :=
    match (text.takeWhile (· == slash)).length with
    | 0 => []
    | 2 => [slash, slash]
    | _ => [slash]
  names := (split text).filter fun name => !name.isEmpty && name != [dot]

/-- The shortest text of a path. -/
def text (path : Path) : Text :=
  match path.anchor ++ Text.join [slash] path.names with
  | [] => [dot]
  | text => text

def lastName (path : Path) : Text := path.names.getLastD []

/-- The extension of a path, with its dot. -/
def extension (path : Path) : Text :=
  let name := path.lastName
  let tail := (name.reverse.takeWhile (· != dot)).reverse
  if tail.isEmpty || name.length ≤ tail.length + 1 then [] else dot :: tail

end Path

end TestOutline
