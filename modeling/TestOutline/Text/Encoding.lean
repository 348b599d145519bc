/-
**UTF-8.** Which texts have an encoding, and which byte sequences are one.

* `Text.encodable?_ofChars`, `Text.ofChars_of_encodable?` — a text is encodable if it is made of
  characters, and the answer is its characters.
* A refused text is described by the first run of surrogates in it; refused bytes by the first place
  where they stop being UTF-8, with the reason.
-/

import TestOutline.Text.CodePoint

namespace TestOutline

/-- Why a text has no UTF-8 encoding: the place, the length and the first member of a run of
surrogates. -/
structure EncodingFault where
  position : Nat
  count : Nat
  first : Nat
  deriving DecidableEq, Repr

namespace Text

/-- A number in hexadecimal, with zeros in front up to the given width. -/
def ofHex (width number : Nat) : Text :=
  let digits := Nat.toDigits 16 number
  ofChars (List.replicate (width - digits.length) '0' ++ digits)

/-- The characters of a text, or the first run of surrogates that keeps it from having an
encoding. -/
def encodable? (text : Text) : Except EncodingFault (List Char) :=
  let head := text.takeWhile (!·.isSurrogate)
  match text.drop head.length with
  | [] => .ok (head.filterMap CodePoint.char?)
  | first :: rest =>
    .error ⟨head.length, 1 + (rest.takeWhile CodePoint.isSurrogate).length, first.value⟩

end Text

def EncodingFault.message (fault : EncodingFault) : Text :=
  if fault.count = 1 then
    "'utf-8' codec can't encode character '\\u" ++ Text.ofHex 4 fault.first ++ "' in position " ++
      Text.ofNat fault.position ++ ": surrogates not allowed"
  else
    "'utf-8' codec can't encode characters in position " ++ Text.ofNat fault.position ++ "-" ++
      Text.ofNat (fault.position + fault.count - 1) ++ ": surrogates not allowed"

/-- The bytes of characters in UTF-8. -/
def encodeChars (chars : List Char) : List UInt8 := chars.flatMap String.utf8EncodeChar

/-- What stops a byte sequence from being UTF-8. -/
inductive DecodingReason where
  | invalidStart
  | invalidContinuation
  | unexpectedEnd
  deriving DecidableEq, Repr

/-- Where a byte sequence stops being UTF-8: the place and number of the bytes at fault, and the
first of them. -/
structure DecodingFault where
  position : Nat
  count : Nat
  first : UInt8
  reason : DecodingReason
  deriving DecidableEq, Repr

def DecodingReason.message : DecodingReason → Text
  | .invalidStart => "invalid start byte"
  | .invalidContinuation => "invalid continuation byte"
  | .unexpectedEnd => "unexpected end of data"

def DecodingFault.message (fault : DecodingFault) : Text :=
  if fault.count = 1 then
    "'utf-8' codec can't decode byte 0x" ++ Text.ofHex 2 fault.first.toNat ++ " in position " ++
      Text.ofNat fault.position ++ ": " ++ fault.reason.message
  else
    "'utf-8' codec can't decode bytes in position " ++ Text.ofNat fault.position ++ "-" ++
      Text.ofNat (fault.position + fault.count - 1) ++ ": " ++ fault.reason.message

namespace Utf8

/-- The least and the greatest second byte that may follow a lead byte; any later byte lies between
`0x80` and `0xBF`. -/
def secondRange (lead : UInt8) : UInt8 × UInt8 :=
  if lead = 0xE0 then (0xA0, 0xBF)
  else if lead = 0xED then (0x80, 0x9F)
  else if lead = 0xF0 then (0x90, 0xBF)
  else if lead = 0xF4 then (0x80, 0x8F)
  else (0x80, 0xBF)

/-- The number of bytes that follow a lead byte, if it is one. -/
def followers? (lead : UInt8) : Option Nat :=
  if lead < 0x80 then some 0
  else if lead < 0xC2 then none
  else if lead < 0xE0 then some 1
  else if lead < 0xF0 then some 2
  else if lead < 0xF5 then some 3
  else none

/-- How many of the wanted bytes are there and in range; the first has a range of its own. -/
def goodFollowers (wanted : Nat) (range : UInt8 × UInt8) : List UInt8 → Nat
  | [] => 0
  | byte :: rest =>
    match wanted with
    | 0 => 0
    | wanted + 1 =>
      if range.1 ≤ byte && byte ≤ range.2 then 1 + goodFollowers wanted (0x80, 0xBF) rest else 0

/-- The number that a lead byte and its followers spell. -/
def assemble (lead : UInt8) (tail : List UInt8) : Nat :=
  let head :=
    match tail.length with
    | 0 => lead.toNat
    | 1 => lead.toNat - 0xC0
    | 2 => lead.toNat - 0xE0
    | _ => lead.toNat - 0xF0
  tail.foldl (fun number byte => number * 64 + (byte.toNat - 0x80)) head

/-- Decodes bytes that start at a position, with fuel for one character a step. -/
def decodeFrom : Nat → Nat → List UInt8 → Except DecodingFault (List Char)
  | 0, _, _ => .ok []
  | _ + 1, _, [] => .ok []
  | fuel + 1, position, lead :: rest =>
    match followers? lead with
    | none => .error ⟨position, 1, lead, .invalidStart⟩
    | some wanted =>
      let good := goodFollowers wanted (secondRange lead) rest
      if good = wanted then do
        let char := Char.ofNat (assemble lead (rest.take wanted))
        let chars ← decodeFrom fuel (position + 1 + wanted) (rest.drop wanted)
        pure (char :: chars)
      else if good = rest.length then
        .error ⟨position, 1 + good, lead, .unexpectedEnd⟩
      else
        .error ⟨position, 1 + good, lead, .invalidContinuation⟩

/-- The characters that bytes encode. -/
def decode (bytes : List UInt8) : Except DecodingFault (List Char) :=
  decodeFrom bytes.length 0 bytes

end Utf8

namespace Text

/-- A text of characters is encodable, and the answer is its characters. -/
theorem encodable?_ofChars (chars : List Char) : encodable? (ofChars chars) = .ok chars := by
  have all : (ofChars chars).takeWhile (!·.isSurrogate) = ofChars chars := by
    induction chars with
    | nil => rfl
    | cons char chars ih =>
      rw [ofChars_cons, List.takeWhile_cons_of_pos (by simp), ih]
  have back : (ofChars chars).filterMap CodePoint.char? = chars := by
    clear all
    induction chars with
    | nil => rfl
    | cons char chars ih => simp [ih]
  have none_left : (ofChars chars).drop (ofChars chars).length = [] := List.drop_length
  simp only [encodable?, all, none_left, back]

/-- An encodable text is made of its characters. -/
theorem ofChars_of_encodable? {text : Text} {chars : List Char}
    (encodable : encodable? text = .ok chars) :
    ofChars chars = text := by
  have made : ∀ head : Text, (∀ point ∈ head, point.isSurrogate = false) →
      ofChars (head.filterMap CodePoint.char?) = head := by
    intro head plain
    induction head with
    | nil => rfl
    | cons point rest ih =>
      have others := ih fun other member => plain other (List.mem_cons_of_mem _ member)
      cases point with
      | scalar char =>
        rw [List.filterMap_cons_some (CodePoint.char?_scalar char), ofChars_cons, others]
      | surrogate index => cases plain _ List.mem_cons_self
  simp only [encodable?] at encodable
  split at encodable
  · next nothing =>
    cases encodable
    have start : text.takeWhile (!·.isSurrogate) =
        text.take (text.takeWhile (!·.isSurrogate)).length :=
      List.prefix_iff_eq_take.mp (List.takeWhile_prefix _)
    have plain : ∀ point ∈ text.takeWhile (!·.isSurrogate), point.isSurrogate = false :=
      fun point member => by
      simpa using List.all_eq_true.mp List.all_takeWhile point member
    calc ofChars ((text.takeWhile (!·.isSurrogate)).filterMap CodePoint.char?)
        = text.takeWhile (!·.isSurrogate) := made _ plain
      _ = text.take (text.takeWhile (!·.isSurrogate)).length ++
        text.drop (text.takeWhile (!·.isSurrogate)).length := by
        rw [nothing, List.append_nil, ← start]
      _ = text := List.take_append_drop _ _
  · cases encodable

end Text

end TestOutline
