/-
**Metadata in a text that is continued.**

A text that ends with a closing marker may be continued by any other text: what is found in the
first part stays as it is, and what is found in the second is moved by the length and the lines of
the first.

* `pairsFrom_append`: the pairs of the whole are those of the parts. The first part has to end where
  a pair ends.
* `Moved`: the same finding so many code points and lines later.
* `scan_append`: what is found in the whole.
-/

import TestOutline.Proofs.Metadata.Finding
import TestOutline.Proofs.Metadata.Places

namespace TestOutline

/-- What stands in a text stays there when the text goes on. -/
theorem Text.slice_append_left {left right : Text} {start stop : Nat}
    (inside : stop ≤ left.length) :
    (left ++ right).slice start stop = left.slice start stop := by
  rcases Nat.le_total start stop with ordered | turned
  · rw [slice, slice, List.drop_append_of_le_length (Nat.le_trans ordered inside),
      List.take_append_of_le_length (by rw [List.length_drop]; omega)]
  · rw [slice, slice, Nat.sub_eq_zero_of_le turned, List.take_zero, List.take_zero]

/-- Texts that have an encoding have one together. -/
theorem Source.ofText?_append {before after : Text} {front back : Source}
    (readFront : ofText? before = .ok front) (readBack : ofText? after = .ok back) :
    ofText? (before ++ after) = .ok (ofChars (front.chars ++ back.chars)) := by
  rw [← text_of_ofText? readFront, ← text_of_ofText? readBack, text, text, ← Text.ofChars_append,
    ofText?_ofChars]

namespace Marker

variable {scope : Scope} {back : Text}

/-- **A text ends where its last pair ends.** -/
def EndsWithPair (scope : Scope) (offset : Nat) (text : Text) : Prop :=
  ∃ pair, (pairsFrom scope offset text).getLast? = some pair ∧
    pair.closingStop = offset + text.length

theorem EndsWithPair.exists_firstPair {offset : Nat} {text : Text}
    (ends : EndsWithPair scope offset text) :
    ∃ pair, firstPair? scope text = some pair := by
  obtain ⟨last, isLast, _⟩ := ends
  cases found : firstPair? scope text with
  | none =>
    rw [pairsFrom_of_none offset found] at isLast
    cases isLast
  | some pair => exact ⟨pair, rfl⟩

/-- Behind the first pair of such a text there is nothing, or a text of this kind. -/
theorem EndsWithPair.drop {offset : Nat} {pair : Pair} {text : Text}
    (ends : EndsWithPair scope offset text) (found : firstPair? scope text = some pair) :
    text.drop pair.closingStop = [] ∨
      EndsWithPair scope (offset + pair.closingStop) (text.drop pair.closingStop) := by
  obtain ⟨last, isLast, stop⟩ := ends
  rw [pairsFrom_of_some offset found, List.getLast?_cons] at isLast
  cases others : pairsFrom scope (offset + pair.closingStop) (text.drop pair.closingStop) with
  | nil =>
    rw [others] at isLast
    obtain rfl := Option.some.inj isLast
    exact .inl (List.drop_eq_nil_iff.mpr (Nat.le_of_add_le_add_left (Nat.le_of_eq stop.symm)))
  | cons second rest =>
    have inside := (closingStop_mem found).2
    refine .inr ⟨last, ?_, ?_⟩
    · rw [← isLast, others]
      simp [List.getLast?_cons]
    · rw [stop, List.length_drop]
      omega

/-- **The pairs of a text that is continued** are its own, and those of what comes behind it. -/
theorem pairsFrom_append {offset : Nat} {front : Text} (ends : EndsWithPair scope offset front) :
    pairsFrom scope offset (front ++ back) =
      pairsFrom scope offset front ++ pairsFrom scope (offset + front.length) back := by
  obtain ⟨pair, found⟩ := ends.exists_firstPair
  have inside := closingStop_mem found
  have still : firstPair? scope (front ++ back) = some pair := by
    rw [← List.append_nil front] at found
    exact firstPair?_of_append found inside.2
  rw [pairsFrom_of_some offset found, pairsFrom_of_some offset still,
    List.drop_append_of_le_length inside.2, List.cons_append]
  congr 1
  rcases ends.drop found with nothing | further
  · have whole : front.length = pair.closingStop :=
      Nat.le_antisymm (List.drop_eq_nil_iff.mp nothing) inside.2
    rw [nothing, whole, pairsFrom, List.nil_append, List.nil_append]
  · rw [pairsFrom_append further, List.length_drop, Nat.add_assoc, Nat.add_sub_cancel' inside.2]
termination_by front.length
decreasing_by
  rw [List.length_drop]
  omega

end Marker

namespace Metadata

/-- **The same finding so many code points and lines later.** What a pair holds is the same, and so
are the reason of a report and an identifier of its own; the lines that reports and other
identifiers name are later ones. -/
def Moved (scope : Scope) (points lines : Nat) (one other : Except Text MetadataBlock) : Prop :=
  ∃ held startLine endLine start stop, one = finding scope startLine endLine start stop held ∧
    other =
      finding scope (startLine + lines) (endLine + lines) (start + points) (stop + points) held

variable {options : Options} {scope : Scope} {front back whole : Source}

theorem lineAt_append_left {left right : Text} {offset : Nat} (inside : offset ≤ left.length) :
    lineAt (left ++ right) offset = lineAt left offset := by
  rw [lineAt, lineAt, List.take_append_of_le_length inside]

theorem lineAt_append_right (left right : Text) (offset : Nat) :
    lineAt (left ++ right) (left.length + offset) =
      lineAt right offset + left.count Text.lineFeed := by
  rw [lineAt, lineAt, List.take_length_add_append, List.count_append]
  omega

/-- A pair holds the same when the text goes on behind it. -/
theorem ofPair_continued {pair : Marker.Pair} (parts : whole.text = front.text ++ back.text)
    (ordered : pair.openingStart ≤ pair.closingStart)
    (inside : pair.closingStart ≤ front.text.length) :
    ofPair options whole scope pair = ofPair options front scope pair := by
  rw [ofPair_eq, ofPair_eq, parts, Text.slice_append_left inside,
    lineAt_append_left (Nat.le_trans ordered inside), lineAt_append_left inside]

/-- A pair holds the same when text comes before it, and is found as much later. -/
theorem ofPair_shift {pair : Marker.Pair} {one : Except Text MetadataBlock}
    (parts : whole.text = front.text ++ back.text)
    (found : ofPair options back scope pair = .ok one) :
    ∃ other, ofPair options whole scope (pair.shift front.text.length) = .ok other ∧
      Moved scope front.text.length (front.text.count Text.lineFeed) one other := by
  have held : whole.text.slice (front.text.length + pair.openingStop)
      (front.text.length + pair.closingStart) =
      back.text.slice pair.openingStop pair.closingStart := by
    rw [parts, Text.slice, Text.slice, List.drop_length_add_append, Nat.add_sub_add_left]
  rw [ofPair_eq] at found
  rw [ofPair_eq]
  simp only [Marker.Pair.shift]
  rw [held, parts, lineAt_append_right, lineAt_append_right]
  cases read :
    payloadOf options (Text.strip (back.text.slice pair.openingStop pair.closingStart)) with
  | error digits =>
    rw [read] at found
    cases found
  | ok held =>
    rw [read] at found
    cases found
    refine ⟨_, rfl, held, _, _, _, _, rfl, ?_⟩
    rw [Nat.add_comm pair.openingStart, Nat.add_comm pair.closingStop]

/-- **What is found behind a text is found as much later.** -/
theorem ofPairs_shift {pairs : List Marker.Pair} {found : List (Except Text MetadataBlock)}
    (parts : whole.text = front.text ++ back.text)
    (held : ofPairs options back scope pairs = .ok found) :
    ∃ moved, ofPairs options whole scope (pairs.map (Marker.Pair.shift front.text.length)) =
      .ok moved ∧
      List.Forall₂ (Moved scope front.text.length (front.text.count Text.lineFeed)) found
        moved := by
  have each := ofPairs_eq_ok_iff.mp held
  simp only [ofPairs_eq_ok_iff, List.forall₂_map_left_iff]
  clear held
  induction each with
  | nil => exact ⟨[], .nil, .nil⟩
  | cons here _ ih =>
    obtain ⟨other, foundOther, moved⟩ := ofPair_shift parts here
    obtain ⟨others, foundOthers, movedOthers⟩ := ih
    exact ⟨other :: others, .cons foundOther foundOthers, .cons moved movedOthers⟩

/-- **What is found in a text that is continued** is what is found in it, unchanged, and then what
is found in what comes behind it, as many code points and lines later as the text has. The text has
to end with a closing marker. -/
theorem scan_append (options : Options) (scope : Scope) {before after : Text} {front back : Source}
    (readFront : Source.ofText? before = .ok front) (readBack : Source.ofText? after = .ok back)
    (ends : ∃ pair, (Marker.pairs scope before).getLast? = some pair ∧
      pair.closingStop = before.length)
    {found others : List (Except Text MetadataBlock)}
    (scannedFront : scanScope options front scope = .ok found)
    (scannedBack : scanScope options back scope = .ok others) :
    ∃ whole moved, Source.ofText? (before ++ after) = .ok whole ∧
      scanScope options whole scope = .ok (found ++ moved) ∧
      List.Forall₂ (Moved scope before.length (before.count Text.lineFeed)) others moved ∧
      blocksOf (found ++ moved) = blocksOf found ++ blocksOf moved ∧
      reportsOf (found ++ moved) = reportsOf found ++ reportsOf moved := by
  obtain rfl := Source.text_of_ofText? readFront
  obtain rfl := Source.text_of_ofText? readBack
  let whole := Source.ofChars (front.chars ++ back.chars)
  have parts : whole.text = front.text ++ back.text := Text.ofChars_append _ _
  have pairs : Marker.pairs scope (front.text ++ back.text) =
      Marker.pairs scope front.text ++
        (Marker.pairs scope back.text).map (Marker.Pair.shift front.text.length) := by
    obtain ⟨pair, last, stop⟩ := ends
    have closed : Marker.EndsWithPair scope 0 front.text := ⟨pair, last, by rw [stop, Nat.zero_add]⟩
    rw [Marker.pairs, Marker.pairsFrom_append closed, Nat.zero_add,
      ← Nat.add_zero front.text.length, Marker.pairsFrom_add]
    rfl
  have kept : ofPairs options whole scope (Marker.pairs scope front.text) = .ok found := by
    rw [← scannedFront, scanScope]
    refine ofPairs_congr fun pair member => ?_
    have inside := Marker.inside_of_mem_pairsFrom member
    exact ofPair_continued parts (by omega) (by omega)
  obtain ⟨moved, foundBehind, later⟩ := ofPairs_shift parts scannedBack
  refine ⟨whole, moved, Source.ofText?_append readFront readBack, ?_, later, List.filterMap_append,
    List.filterMap_append⟩
  rw [scanScope, parts, pairs, ofPairs_eq_ok_iff]
  exact List.rel_append (ofPairs_eq_ok_iff.mp kept) (ofPairs_eq_ok_iff.mp foundBehind)

/-- Metadata that is no JSON. -/
def brokenComment : List Char :=
  "\n/* @apicize-file-metadata [ @apicize-file-metadata-end */".toList

/-- The rest of a comment that would open metadata if a slash stood before it, and then metadata. -/
def seamComment : List Char :=
  "* @apicize-file-metadata\n/* @apicize-file-metadata [] @apicize-file-metadata-end */".toList

/-- Behind metadata that is no JSON, the slash at its end opens nothing, and what opens later is
found. -/
theorem scan_append_seam : ∃ found others whole moved,
    scanScope .usual (.ofChars brokenComment) .file = .ok found ∧
      reportsOf found =
        ["Invalid JSON in file metadata at line 2: Expecting value: line 1 column 2 (char 1)"] ∧
      scanScope .usual (.ofChars seamComment) .file = .ok others ∧
      (blocksOf others).map (·.id) = ["file-2"] ∧
      Source.ofText? (Text.ofChars brokenComment ++ Text.ofChars seamComment) = .ok whole ∧
      scanScope .usual whole .file = .ok (found ++ moved) ∧
      List.Forall₂ (Moved .file 58 1) others moved := by
  have pairsFront : Marker.pairs .file (Text.ofChars brokenComment) = [⟨1, 26, 29, 58⟩] := by
    decide +kernel
  have pairsBack : Marker.pairs .file (Text.ofChars seamComment) = [⟨25, 50, 54, 83⟩] := by
    decide +kernel
  have scannedFront : scanScope .usual (.ofChars brokenComment) .file =
      .ok [finding .file 2 2 1 58
        (.error (.malformed "Expecting value: line 1 column 2 (char 1)"))] := by
    rw [scanScope, Source.text, Source.ofChars_chars, pairsFront, ofPairs, ofPair_eq]
    rfl
  have scannedBack : scanScope .usual (.ofChars seamComment) .file =
      .ok [finding .file 2 2 25 83 (.ok (.array []))] := by
    rw [scanScope, Source.text, Source.ofChars_chars, pairsBack, ofPairs, ofPair_eq]
    rfl
  obtain ⟨whole, moved, read, scanned, later, _⟩ := scan_append .usual .file
    (Source.ofText?_ofChars brokenComment)
    (Source.ofText?_ofChars seamComment) ⟨⟨1, 26, 29, 58⟩, by rw [pairsFront]; rfl, rfl⟩
      scannedFront scannedBack
  exact ⟨_, _, whole, moved, scannedFront, rfl, scannedBack, rfl, read, scanned, later⟩

end Metadata

end TestOutline
