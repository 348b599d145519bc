/-
**From bytes to characters and to lines.**

A source keeps, for each byte of its encoding, the number of the character that the byte belongs to;
where every character is one byte, it keeps nothing and takes bytes for characters.

* `getD_byteOwnersFrom`, `count_take_encodeChars`: what is kept, by recursion over the characters.
* `Source.charOffset_eq`: with or without the table, a byte is given the character that the table
  has for it.
* `Source.Exact`: offsets in bytes and in characters translate into each other, and both give the
  same lines.
* `Source.offsets_exact`: they do so in every text that has an encoding.
-/

import Mathlib.Data.List.GetD
import TestOutline.Proofs.Source.Lines
import TestOutline.Syntax.Tree

namespace TestOutline

/-! ### The bytes of characters -/

@[simp] theorem encodeChars_nil : encodeChars [] = [] := rfl

theorem encodeChars_cons (char : Char) (rest : List Char) :
    encodeChars (char :: rest) = String.utf8EncodeChar char ++ encodeChars rest := List.flatMap_cons

theorem encodeChars_append (left right : List Char) :
    encodeChars (left ++ right) = encodeChars left ++ encodeChars right := List.flatMap_append

theorem length_encodeChars_cons (char : Char) (rest : List Char) :
    (encodeChars (char :: rest)).length = char.utf8Size + (encodeChars rest).length := by
  rw [encodeChars_cons, List.length_append, String.length_utf8EncodeChar]

/-- No byte of a character of several bytes is that of a line feed. -/
theorem lineFeed_not_mem_of_wide {char : Char} (wide : char.utf8Size ≠ 1) :
    (0x0A : UInt8) ∉ String.utf8EncodeChar char := by
  -- Lead bytes and the bytes after them have the upper bit set.
  have upper : ∀ number, 128 ≤ number → number < 256 → (0x0A : UInt8) ≠ UInt8.ofNat number := by
    intro number high low same
    have values := congrArg UInt8.toNat same
    rw [UInt8.toNat_ofNat', Nat.mod_eq_of_lt low] at values
    have : (0x0A : UInt8).toNat = 10 := rfl
    omega
  fun_cases String.utf8EncodeChar char with
  | case1 number narrow =>
    exact absurd (Char.utf8Size_eq_one_iff.mpr (UInt32.le_iff_toNat_le.mpr narrow)) wide
  | case2 number =>
    simp only [List.mem_cons, List.not_mem_nil, or_false, not_or]
    exact ⟨upper _ (by omega) (by omega), upper _ (by omega) (by omega)⟩
  | case3 number =>
    simp only [List.mem_cons, List.not_mem_nil, or_false, not_or]
    exact ⟨upper _ (by omega) (by omega), upper _ (by omega) (by omega),
      upper _ (by omega) (by omega)⟩
  | case4 number =>
    simp only [List.mem_cons, List.not_mem_nil, or_false, not_or]
    exact ⟨upper _ (by omega) (by omega), upper _ (by omega) (by omega),
      upper _ (by omega) (by omega), upper _ (by omega) (by omega)⟩

/-- The byte of a line feed comes in a line feed alone. -/
theorem count_lineFeed_utf8EncodeChar (char : Char) :
    (String.utf8EncodeChar char).count 0x0A = if char = '\n' then 1 else 0 := by
  by_cases narrow : char.utf8Size = 1
  · have small : char.val.toNat ≤ 127 := by
      simpa [UInt32.le_iff_toNat_le] using Char.utf8Size_eq_one_iff.mp narrow
    rw [String.utf8EncodeChar_eq_singleton narrow, List.count_singleton]
    congr 1
    rw [beq_iff_eq, eq_iff_iff]
    constructor
    · intro same
      have values := congrArg UInt8.toNat same
      rw [UInt32.toNat_toUInt8, Nat.mod_eq_of_lt (by omega)] at values
      exact Char.ext (UInt32.toNat_inj.mp values)
    · rintro rfl
      rfl
  · rw [List.count_eq_zero.mpr (lineFeed_not_mem_of_wide narrow), if_neg]
    rintro rfl
    exact narrow rfl

/-! ### The character of a byte -/

theorem length_byteOwnersFrom (index : Nat) (chars : List Char) :
    (byteOwnersFrom index chars).length = (encodeChars chars).length + 1 := by
  induction chars generalizing index with
  | nil => rfl
  | cons char rest ih =>
    rw [byteOwnersFrom, List.length_append, List.length_replicate, ih, length_encodeChars_cons,
      Nat.add_assoc]

/-- The bytes of the first character belong to it, and those behind it to the others. -/
theorem getD_byteOwnersFrom_cons (index byte : Nat) (char : Char) (rest : List Char) :
    (byteOwnersFrom index (char :: rest)).getD byte 0 =
      if byte < char.utf8Size then index
      else (byteOwnersFrom (index + 1) rest).getD (byte - char.utf8Size) 0 := by
  rw [byteOwnersFrom, List.getD_eq_getElem?_getD, List.getD_eq_getElem?_getD, List.getElem?_append,
    List.length_replicate]
  split
  · next within => rw [List.getElem?_replicate_of_lt within, Option.getD_some]
  · rfl

/-- What belongs to characters belongs to none before the first of them. -/
theorem le_of_mem_byteOwnersFrom {index owner : Nat} {chars : List Char}
    (member : owner ∈ byteOwnersFrom index chars) : index ≤ owner := by
  induction chars generalizing index with
  | nil => exact Nat.le_of_eq (List.mem_singleton.mp member).symm
  | cons char rest ih =>
    rcases List.mem_append.mp member with here | later
    · exact Nat.le_of_eq (List.eq_of_mem_replicate here).symm
    · have := ih later
      omega

theorem pairwise_byteOwnersFrom (index : Nat) (chars : List Char) :
    (byteOwnersFrom index chars).Pairwise (· ≤ ·) := by
  induction chars generalizing index with
  | nil => exact List.pairwise_singleton _ _
  | cons char rest ih =>
    refine List.pairwise_append.mpr ⟨List.pairwise_replicate.mpr (.inr (Nat.le_refl _)), ih _, ?_⟩
    intro left here right later
    have := le_of_mem_byteOwnersFrom later
    have := List.eq_of_mem_replicate here
    omega

/-- **The bytes of a character belong to it.** -/
theorem getD_byteOwnersFrom {index byte place : Nat} {chars : List Char}
    (inside : place < chars.length) (starts : (encodeChars (chars.take place)).length ≤ byte)
    (stops : byte < (encodeChars (chars.take (place + 1))).length) :
    (byteOwnersFrom index chars).getD byte 0 = index + place := by
  induction chars generalizing index byte place with
  | nil => cases inside
  | cons char rest ih =>
    rw [List.take_succ_cons, length_encodeChars_cons] at stops
    rw [getD_byteOwnersFrom_cons]
    cases place with
    | zero =>
      rw [List.take_zero, encodeChars_nil, List.length_nil] at stops
      rw [if_pos (by omega), Nat.add_zero]
    | succ place =>
      rw [List.take_succ_cons, length_encodeChars_cons] at starts
      rw [if_neg (by omega), ih (by simpa using inside) (by omega) (by omega)]
      omega

/-- Behind all bytes stands the number of characters. -/
theorem getD_byteOwnersFrom_length (index : Nat) (chars : List Char) :
    (byteOwnersFrom index chars).getD (encodeChars chars).length 0 = index + chars.length := by
  induction chars generalizing index with
  | nil => rfl
  | cons char rest ih =>
    rw [length_encodeChars_cons, getD_byteOwnersFrom_cons, if_neg (by omega),
      Nat.add_sub_cancel_left, ih, List.length_cons]
    omega

/-- Where every character is one byte, bytes are characters. -/
theorem byteOwnersFrom_of_narrow (index : Nat) {chars : List Char}
    (narrow : ∀ char ∈ chars, char.utf8Size = 1) :
    byteOwnersFrom index chars = List.range' index (chars.length + 1) := by
  induction chars generalizing index with
  | nil => rfl
  | cons char rest ih =>
    rw [byteOwnersFrom, narrow char List.mem_cons_self, ih _ fun other member =>
      narrow other (List.mem_cons_of_mem _ member)]
    rfl

theorem length_le_length_encodeChars (chars : List Char) :
    chars.length ≤ (encodeChars chars).length := by
  induction chars with
  | nil => exact Nat.le_refl _
  | cons char rest ih =>
    have := char.utf8Size_pos
    rw [length_encodeChars_cons, List.length_cons]
    omega

/-- There are as many bytes as characters where every character is one byte, and only there. -/
theorem length_encodeChars_eq_iff (chars : List Char) :
    (encodeChars chars).length = chars.length ↔ ∀ char ∈ chars, char.utf8Size = 1 := by
  induction chars with
  | nil => simp
  | cons char rest ih =>
    have one := char.utf8Size_pos
    have others := length_le_length_encodeChars rest
    rw [length_encodeChars_cons, List.length_cons, List.forall_mem_cons, ← ih]
    omega

/-- **The line feeds before the character of a byte are those before the byte.** -/
theorem count_take_encodeChars {index byte : Nat} {chars : List Char}
    (within : byte ≤ (encodeChars chars).length) :
    (chars.take ((byteOwnersFrom index chars).getD byte 0 - index)).count '\n' =
      ((encodeChars chars).take byte).count 0x0A := by
  induction chars generalizing index byte with
  | nil => simp
  | cons char rest ih =>
    rw [length_encodeChars_cons] at within
    rw [getD_byteOwnersFrom_cons, encodeChars_cons]
    by_cases inside : byte < char.utf8Size
    · -- Before the last byte of a character stand bytes of it at most, and none of them is a line
      -- feed.
      rw [if_pos inside, Nat.sub_self, List.take_zero, List.count_nil,
        List.take_append_of_le_length (by simp; omega)]
      refine (List.count_eq_zero.mpr fun member => ?_).symm
      by_cases narrow : char.utf8Size = 1
      · rw [show byte = 0 by omega] at member
        cases member
      · exact lineFeed_not_mem_of_wide narrow (List.mem_of_mem_take member)
    · have step : byte = char.utf8Size + (byte - char.utf8Size) := by omega
      have behind : (byteOwnersFrom (index + 1) rest).getD (byte - char.utf8Size) 0 ∈
          byteOwnersFrom (index + 1) rest := by
        have bound : byte - char.utf8Size < (byteOwnersFrom (index + 1) rest).length := by
          rw [length_byteOwnersFrom]
          omega
        rw [List.getD_eq_getElem _ _ bound]
        exact List.getElem_mem bound
      have later := le_of_mem_byteOwnersFrom behind
      have rest_eq := @ih (index + 1) (byte - char.utf8Size) (by omega)
      rw [if_neg inside]
      generalize (byteOwnersFrom (index + 1) rest).getD (byte - char.utf8Size) 0 =
        owner at later rest_eq
      rw [show owner - index = (owner - (index + 1)) + 1 by omega, List.take_succ_cons,
        List.count_cons, rest_eq, step, ← String.length_utf8EncodeChar, List.take_length_add_append,
        List.count_append, count_lineFeed_utf8EncodeChar, Nat.add_comm]
      simp

/-! ### Sources -/

/-- The bytes of a text in UTF-8, unless it has none. -/
def Text.bytes? (text : Text) : Except EncodingFault (List UInt8) := text.encodable?.map encodeChars

namespace Source

variable (source : Source)

/-- The byte at which a character starts; for the number of all characters, the number of all
bytes. -/
def byteOffset (index : Nat) : Nat := (encodeChars (source.chars.take index)).length

theorem byteOffset_length : source.byteOffset source.length = source.bytes.length := by
  rw [byteOffset, length, List.take_length, bytes]

/-- Bytes are taken for characters where there are as many of both. -/
theorem byteOwners_eq_none_iff :
    source.byteOwners = none ↔ source.bytes.length = source.length := by
  rw [bytes, length, length_encodeChars_eq_iff, source.byteOwners_eq]
  simp

theorem charOffset_of_plain (plain : source.byteOwners = none) (byte : Nat) :
    source.charOffset byte = byte := by
  rw [charOffset, plain]

/-- The table gives what lies beyond the last byte the number of all characters. -/
theorem charOffset_of_table (table : source.byteOwners ≠ none) (byte : Nat) :
    source.charOffset byte =
      (byteOwnersFrom 0 source.chars).getD (min byte source.bytes.length) 0 := by
  obtain ⟨owners, found⟩ := Option.ne_none_iff_exists'.mp table
  have given := source.byteOwners_eq
  rw [found] at given
  split at given
  · cases given
  · obtain rfl := Option.some.inj given
    have size : (byteOwnersFrom 0 source.chars).toArray.size - 1 = source.bytes.length := by
      rw [List.size_toArray, length_byteOwnersFrom, Nat.add_sub_cancel, bytes]
    rw [charOffset, found]
    simp only [size, Array.getD_eq_getD_getElem?, List.getElem?_toArray, List.getD_eq_getElem?_getD]

/-- **A byte is given the character that the table has for it**, also where there is no table. -/
theorem charOffset_eq {byte : Nat} (within : byte ≤ source.bytes.length) :
    source.charOffset byte = (byteOwnersFrom 0 source.chars).getD byte 0 := by
  by_cases plain : source.byteOwners = none
  · have same := source.byteOwners_eq_none_iff.mp plain
    have narrow := (length_encodeChars_eq_iff source.chars).mp same
    rw [same, length] at within
    rw [source.charOffset_of_plain plain, byteOwnersFrom_of_narrow 0 narrow,
      List.getD_eq_getElem _ _ (by simp; omega)]
    simp
  · rw [source.charOffset_of_table plain, Nat.min_eq_left within]

theorem bytes_eq_append (index : Nat) :
    source.bytes = encodeChars (source.chars.take index) ++
      encodeChars (source.chars.drop index) := by
  rw [← encodeChars_append, List.take_append_drop, bytes]

theorem byteOffset_le (index : Nat) : source.byteOffset index ≤ source.bytes.length := by
  rw [bytes_eq_append source index, List.length_append]
  exact Nat.le_add_right _ _

/-- A character has at least one byte. -/
theorem byteOffset_lt {index : Nat} (inside : index < source.length) :
    source.byteOffset index < source.byteOffset (index + 1) := by
  have listed : index < source.chars.length := inside
  have := source.chars[index].utf8Size_pos
  rw [byteOffset, byteOffset, List.take_succ_eq_append_getElem listed, encodeChars_append,
    List.length_append, length_encodeChars_cons]
  omega

/-- **The bytes of a character are given this character.** -/
theorem charOffset_of_inside {byte place : Nat} (inside : place < source.length)
    (starts : source.byteOffset place ≤ byte) (stops : byte < source.byteOffset (place + 1)) :
    source.charOffset byte = place := by
  have within := source.byteOffset_le (place + 1)
  rw [source.charOffset_eq (by omega), getD_byteOwnersFrom inside starts stops, Nat.zero_add]

/-- **A character is given to the byte at which it starts**, and the end to the end. -/
theorem charOffset_byteOffset {index : Nat} (inside : index ≤ source.length) :
    source.charOffset (source.byteOffset index) = index := by
  rcases Nat.lt_or_eq_of_le inside with before | rfl
  · exact source.charOffset_of_inside before (Nat.le_refl _) (source.byteOffset_lt before)
  · rw [byteOffset_length, source.charOffset_eq (Nat.le_refl _), bytes, getD_byteOwnersFrom_length,
      Nat.zero_add, length]

/-- Later bytes belong to later characters or to the same. -/
theorem charOffset_mono {first last : Nat} (ordered : first ≤ last)
    (within : last ≤ source.bytes.length) :
    source.charOffset first ≤ source.charOffset last := by
  have bound : last < (byteOwnersFrom 0 source.chars).length := by
    rw [length_byteOwnersFrom]
    exact Nat.lt_succ_of_le within
  rw [source.charOffset_eq (Nat.le_trans ordered within), source.charOffset_eq within,
    List.getD_eq_getElem _ _ bound, List.getD_eq_getElem _ _ (Nat.lt_of_le_of_lt ordered bound)]
  rcases Nat.lt_or_eq_of_le ordered with before | rfl
  · exact List.pairwise_iff_getElem.mp (pairwise_byteOwnersFrom 0 source.chars) _ _ _ _ before
  · exact Nat.le_refl _

/-- So it is beyond the last byte too. -/
theorem charOffset_le_of_le {first last : Nat} (ordered : first ≤ last) :
    source.charOffset first ≤ source.charOffset last := by
  by_cases plain : source.byteOwners = none
  · rw [source.charOffset_of_plain plain, source.charOffset_of_plain plain]
    exact ordered
  · have kept : ∀ byte, source.charOffset byte = source.charOffset (min byte source.bytes.length) :=
      fun byte => by
      rw [source.charOffset_of_table plain, source.charOffset_eq (Nat.min_le_right _ _)]
    rw [kept first, kept last]
    exact source.charOffset_mono (by omega) (Nat.min_le_right _ _)

/-- A byte beyond the last one is given no character. -/
theorem length_le_charOffset {byte : Nat} (beyond : source.bytes.length ≤ byte) :
    source.length ≤ source.charOffset byte := by
  by_cases plain : source.byteOwners = none
  · rw [source.charOffset_of_plain plain, ← source.byteOwners_eq_none_iff.mp plain]
    exact beyond
  · have last : source.charOffset source.bytes.length = source.length := by
      rw [← byteOffset_length, source.charOffset_byteOffset (Nat.le_refl _)]
    rw [source.charOffset_of_table plain, Nat.min_eq_right beyond,
      ← source.charOffset_eq (Nat.le_refl _)]
    exact Nat.le_of_eq last.symm

/-- **Bytes between two characters encode the text between them.** -/
theorem bytes?_slice {first last : Nat} (ordered : first ≤ last) :
    (source.slice first last).bytes? =
      .ok ((source.bytes.drop (source.byteOffset first)).take
        (source.byteOffset last - source.byteOffset first)) := by
  obtain ⟨more, rfl⟩ := Nat.exists_eq_add_of_le ordered
  have behind : source.bytes.drop (source.byteOffset first) =
      encodeChars (source.chars.drop first) := by
    rw [bytes_eq_append source first, byteOffset, List.drop_left]
  have count : source.byteOffset (first + more) - source.byteOffset first =
      (encodeChars ((source.chars.drop first).take more)).length := by
    rw [byteOffset, byteOffset, List.take_add, encodeChars_append, List.length_append,
      Nat.add_sub_cancel_left]
  have parts : encodeChars (source.chars.drop first) =
      encodeChars ((source.chars.drop first).take more) ++
        encodeChars ((source.chars.drop first).drop more) := by
    rw [← encodeChars_append, List.take_append_drop]
  rw [slice, Text.bytes?, Text.encodable?_ofChars, behind, count, parts, List.take_left,
    Nat.add_sub_cancel_left]
  rfl

/-- **The line of a byte's character is one more than the line feeds among the bytes before it.** -/
theorem lineNumber_charOffset (byte : Nat) :
    source.lineNumber (source.charOffset byte) = 1 + (source.bytes.take byte).count 0x0A := by
  rw [lineNumber_eq]
  congr 1
  rcases Nat.le_total byte source.bytes.length with within | beyond
  · rw [source.charOffset_eq within]
    exact @count_take_encodeChars 0 byte source.chars within
  · have all := @count_take_encodeChars 0 _ source.chars (Nat.le_refl _)
    rw [getD_byteOwnersFrom_length, Nat.add_sub_cancel_left, List.take_length,
      List.take_length] at all
    rw [List.take_of_length_le (source.length_le_charOffset beyond), List.take_of_length_le beyond,
      all, bytes]

/-! ### Offsets that fit together -/

/-- A byte at which a character starts or the text ends. -/
def IsBoundary (byte : Nat) : Prop := ∃ index ≤ source.length, source.byteOffset index = byte

/-- **Offsets in bytes and in characters translate into each other.** -/
structure Exact : Prop where
  /-- The first byte of a character is given this character, and the end of the bytes the end of the
  text. -/
  boundary : ∀ index ≤ source.length,
    source.charOffset (encodeChars (source.chars.take index)).length = index
  /-- The other bytes of a character are given this character too. -/
  inside : ∀ index < source.length, ∀ byte, source.byteOffset index < byte →
    byte < source.byteOffset (index + 1) →
    source.charOffset byte = index
  monotone : ∀ first last, first ≤ last → last ≤ source.bytes.length →
    source.charOffset first ≤ source.charOffset last
  /-- There is no table where there are as many bytes as characters; then a byte is given what the
  table would have for it. -/
  plain : (source.byteOwners = none ↔ source.bytes.length = source.length) ∧
    ∀ byte ≤ source.bytes.length,
    source.byteOwners = none → source.charOffset byte = (byteOwnersFrom 0 source.chars).getD byte 0
  /-- The text between two boundaries is encoded by the bytes between them. -/
  slice : ∀ first last, source.IsBoundary first → source.IsBoundary last → first ≤ last →
    (source.slice (source.charOffset first) (source.charOffset last)).bytes? =
      .ok ((source.bytes.drop first).take (last - first))
  /-- The line of a byte, by the line feeds before it. -/
  line : ∀ byte, source.lineNumber (source.charOffset byte) =
    1 + (source.bytes.take byte).count 0x0A

/-- **In every text that has an encoding, bytes and characters translate into each other**, and a
node of a tree is on the same line by its bytes and by its characters. -/
theorem offsets_exact {text : Text} {source : Source} (encoded : ofText? text = .ok source) :
    source.text = text ∧ source.Exact ∧
      ∀ (tree : SyntaxTree) (node : Node), tree.source = source →
        tree.lineNumber node = source.lineNumber (tree.start node) := by
  refine ⟨?_, ⟨fun index => source.charOffset_byteOffset, fun index within byte starts stops => ?_,
    fun first last => source.charOffset_mono,
    ⟨source.byteOwners_eq_none_iff, fun byte within _ => ?_⟩, ?_, source.lineNumber_charOffset⟩, ?_⟩
  · exact text_of_ofText? encoded
  · exact source.charOffset_of_inside within (Nat.le_of_lt starts) stops
  · exact source.charOffset_eq within
  · rintro first last ⟨left, leftInside, rfl⟩ ⟨right, rightInside, rfl⟩ ordered
    have places := source.charOffset_mono ordered (source.byteOffset_le right)
    rw [source.charOffset_byteOffset leftInside, source.charOffset_byteOffset rightInside]
      at places ⊢
    exact source.bytes?_slice places
  · rintro tree node rfl
    exact (tree.source.lineNumber_charOffset node.start).symm

/-- Characters of one to four bytes around a line end. -/
def mixedChars : List Char := ['x', 'é', '\n', '€', '😀']

/-- The byte after the line end of a mixed text is on its second line, where the fourth character
is. -/
theorem offsets_exact_mixed : ofText? (Text.ofChars mixedChars) = .ok (ofChars mixedChars) ∧
    (ofChars mixedChars).Exact ∧ (ofChars mixedChars).charOffset 4 = 3 ∧
      (ofChars mixedChars).lineNumber ((ofChars mixedChars).charOffset 4) = 2 :=
  have encoded := ofText?_ofChars mixedChars
  have fits := (offsets_exact encoded).2.1
  ⟨encoded, fits, fits.boundary 3 (by decide), by rw [fits.line]; decide⟩

end Source

end TestOutline
