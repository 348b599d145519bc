/-
**Sources.** A text of characters with the two indexes that are derived from it once: where its
lines start, and which character each byte of its UTF-8 encoding belongs to.

Offsets count characters, rows count from zero and line numbers from one.

* `Source.ofText?` — a source from a text, unless the text has no encoding.
* `Source.charOffset` — from bytes to characters.
* `Source.lineNumber`, `Source.position` — from offsets to lines, by bisection of the line starts.
-/

import TestOutline.Search.Bisect
import TestOutline.Text.Encoding
import TestOutline.Text.Lines

namespace TestOutline

/-- A place as a row and a column, both counted from zero. -/
structure Position where
  row : Int
  column : Int
  deriving DecidableEq, Repr

/-- The offsets right after the line feeds of some characters, of which the first stands at
`index`. -/
def lineStartsFrom (index : Nat) : List Char → List Nat
  | [] => []
  | char :: rest =>
    if char = '\n' then (index + 1) :: lineStartsFrom (index + 1) rest
    else lineStartsFrom (index + 1) rest

/-- For each byte the index of its character, the first character being number `index`; the number
of all characters follows. -/
def byteOwnersFrom (index : Nat) : List Char → List Nat
  | [] => [index]
  | char :: rest => List.replicate char.utf8Size index ++ byteOwnersFrom (index + 1) rest

/-- A text of characters, indexed by lines and bytes. -/
structure Source where
  /-- The characters. -/
  chars : List Char
  /-- The offsets at which lines start. -/
  lineStarts : Array Nat
  /-- The character that each byte belongs to; absent when bytes and characters are the same. -/
  byteOwners : Option (Array Nat)
  lineStarts_eq : lineStarts = (0 :: lineStartsFrom 0 chars).toArray
  byteOwners_eq : byteOwners =
    if (chars.all fun char => char.utf8Size = 1) then none
    else some (byteOwnersFrom 0 chars).toArray

namespace Source

/-- The source of some characters. -/
def ofChars (chars : List Char) : Source where
  chars := chars
  lineStarts := (0 :: lineStartsFrom 0 chars).toArray
  byteOwners := if (chars.all fun char => char.utf8Size = 1)
    then none else some (byteOwnersFrom 0 chars).toArray
  lineStarts_eq := rfl
  byteOwners_eq := rfl

/-- The source of a text, or what keeps the text from having an encoding. -/
def ofText? (text : Text) : Except EncodingFault Source := (text.encodable?).map ofChars

def text (source : Source) : Text := Text.ofChars source.chars

def length (source : Source) : Nat := source.chars.length

def lineCount (source : Source) : Nat := source.lineStarts.size

/-- The bytes of the encoding. -/
def bytes (source : Source) : List UInt8 := encodeChars source.chars

/-- The offset of the character that a byte belongs to; past the end it is the length. -/
def charOffset (source : Source) (byte : Nat) : Nat :=
  match source.byteOwners with
  | none => byte
  | some owners => owners.getD (min byte (owners.size - 1)) 0

/-- The same for a byte that is counted from the end when negative; nothing lies before the first
byte. -/
def charOffsetSigned? (source : Source) (byte : Int) : Option Int :=
  match source.byteOwners with
  | none => some byte
  | some owners =>
    if 0 ≤ byte then some (source.charOffset byte.toNat)
    else if 0 ≤ (owners.size : Int) + byte
      then some (owners.getD (owners.size + byte).toNat 0 : Nat)
    else none

def lineNumber (source : Source) (offset : Int) : Nat := Bisect.upperBound source.lineStarts offset

/-- The offset at which a line starts; the number is first brought into range. -/
def lineStart (source : Source) (number : Int) : Nat :=
  source.lineStarts.getD ((min (max number 1) source.lineCount).toNat - 1) 0

/-- The row and the column of an offset. An offset below zero is on row -1, whose columns count from
the last line's start. -/
def position (source : Source) (offset : Int) : Position :=
  let number := source.lineNumber offset
  let start := source.lineStarts.getD (if number = 0 then source.lineCount - 1 else number - 1) 0
  ⟨(number : Int) - 1, offset - start⟩

/-- The text from `start` up to `stop`. -/
def slice (source : Source) (start stop : Nat) : Text :=
  Text.ofChars ((source.chars.drop start).take (stop - start))

@[simp] theorem ofChars_chars (chars : List Char) : (ofChars chars).chars = chars := rfl

@[simp] theorem length_text (source : Source) : source.text.length = source.length := by
  simp [text, length]

/-- A slice of the source is the slice of its text. -/
theorem slice_eq (source : Source) (start stop : Nat) :
    source.slice start stop = source.text.slice start stop := by
  simp [slice, text, Text.slice, Text.ofChars]

/-- A text of characters has a source, and that source has the same text. -/
theorem ofText?_ofChars (chars : List Char) :
    ofText? (Text.ofChars chars) = .ok (ofChars chars) := by
  simp [ofText?, Text.encodable?_ofChars, Except.map]

/-- The source of a text has that text. -/
theorem text_of_ofText? {text : Text} {source : Source} (encoded : ofText? text = .ok source) :
    source.text = text := by
  unfold ofText? at encoded
  cases found : text.encodable? with
  | error fault =>
    rw [found] at encoded
    cases encoded
  | ok chars =>
    rw [found] at encoded
    cases encoded
    exact Text.ofChars_of_encodable? found

end Source

end TestOutline
