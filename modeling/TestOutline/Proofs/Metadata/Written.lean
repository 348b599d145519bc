/-
**Metadata as a generator writes it.**

A generator writes items of metadata one after the other, each between the markers of its scope,
with other text before, between and behind them. All may stand in that text and in what the items
hold but what every name of metadata starts with. Such a text gives all items back.

* `written`: the text.
* `places`: where the items stand in it.
* `pairsFrom_written`: the pairs of markers of a scope are those of its items, whatever stands next
  to them.
* `scan_written`: the items are found in their order, nothing is reported, and each stands where its
  block says.
-/

import TestOutline.Proofs.Messages
import TestOutline.Proofs.Metadata.Finding
import TestOutline.Proofs.Metadata.Plain

namespace TestOutline

namespace Text

theorem stripEnd_append_blank (text : Text) {point : CodePoint} (blank : point.isBlank = true) :
    stripEnd (text ++ [point]) = stripEnd text := by
  induction text with
  | nil => simp [stripEnd, blank]
  | cons first rest ih => rw [List.cons_append, stripEnd, stripEnd, ih]

/-- **Blanks next to a text are stripped with its own.** -/
theorem strip_between_blanks (text : Text) {first last : CodePoint}
    (blankFirst : first.isBlank = true) (blankLast : last.isBlank = true) :
    strip (first :: (text ++ [last])) = strip text := by
  rw [strip, strip, stripStart, stripStart, List.dropWhile_cons_of_pos blankFirst,
    List.dropWhile_append]
  split
  · next nothing =>
    rw [List.isEmpty_iff.mp nothing, List.dropWhile_cons_of_pos blankLast]
    rfl
  · exact stripEnd_append_blank _ blankLast

/-- What stands between two texts is the slice between their ends. -/
theorem slice_middle (front middle back : Text) :
    (front ++ (middle ++ back)).slice front.length (front.length + middle.length) = middle := by
  rw [slice, List.drop_left, Nat.add_sub_cancel_left, List.take_left]

/-- Numbers are told apart by their digits. -/
theorem ofNat_injective : Function.Injective ofNat := by
  intro left right same
  have digits : Nat.toDigits 10 left = Nat.toDigits 10 right :=
    List.map_injective_iff.mpr (fun _ _ => CodePoint.scalar.inj) same
  calc
    left = Nat.ofDigitChars 10 (Nat.toDigits 10 left) 0 := Nat.ofDigitChars_ten_toDigits.symm
    _ = Nat.ofDigitChars 10 (Nat.toDigits 10 right) 0 := by rw [digits]
    _ = right := Nat.ofDigitChars_ten_toDigits

end Text

namespace Metadata

/-! ### The text of a generator -/

/-- Text between items: no name of metadata comes up in it. -/
structure Filler where
  text : Text
  plain : text.contains Marker.anchor = false

/-- An item of metadata. What it holds is JSON, an object or an array, and no name of metadata comes
up in it. -/
structure Item where
  scope : Scope
  body : Text
  payload : Json
  plain : body.contains Marker.anchor = false
  parsed : Json.parse (Text.strip body) = .ok payload
  container : payload.isContainer = true

/-- What stands between the markers of an item. -/
def Item.inside (item : Item) : Text := Text.lineFeed :: (item.body ++ [Text.lineFeed])

def Item.rendered (item : Item) : Text :=
  Marker.opening item.scope ++ (item.inside ++ Marker.closing item.scope)

/-- The text of items, each with the filler before it, and of the last filler. -/
def written (last : Filler) : List (Filler × Item) → Text
  | [] => last.text
  | (filler, item) :: rest => filler.text ++ (item.rendered ++ written last rest)

/-- An item in a text, with the text before it. -/
structure Place where
  before : Text
  item : Item

/-- The places of items in the text that follows on another one. -/
def places (before : Text) : List (Filler × Item) → List Place
  | [] => []
  | (filler, item) :: rest =>
    ⟨before ++ filler.text, item⟩ :: places (before ++ (filler.text ++ item.rendered)) rest

namespace Place

variable (place : Place)

/-- The text up to the closing marker. -/
def opened : Text := place.before ++ (Marker.opening place.item.scope ++ place.item.inside)

def pair : Marker.Pair where
  openingStart := place.before.length
  openingStop := place.before.length + (Marker.opening place.item.scope).length
  closingStart := place.opened.length
  closingStop := place.before.length + place.item.rendered.length

/-- **The block of an item**: its lines are one more than the line feeds before the two markers. -/
def block : MetadataBlock where
  scope := place.item.scope
  id := identifier place.item.payload place.item.scope (1 + place.before.count Text.lineFeed)
  payload := place.item.payload
  startLine := (1 + place.before.count Text.lineFeed : Nat)
  endLine := (1 + place.opened.count Text.lineFeed : Nat)
  startOffset := place.before.length
  endOffset := (place.before.length + place.item.rendered.length : Nat)
  testCode := none

end Place

/-- The places of the items of a scope. -/
def placesOf (scope : Scope) (entries : List (Filler × Item)) : List Place :=
  (places [] entries).filter (·.item.scope = scope)

/-- The blocks of the items of a scope, in their order. -/
def blocksIn (scope : Scope) (entries : List (Filler × Item)) : List MetadataBlock :=
  (placesOf scope entries).map Place.block

/-! ### The places of items -/

variable {before : Text} {entries : List (Filler × Item)} {last : Filler} {place : Place}

/-- **Each item stands at its place.** -/
theorem exists_behind_of_mem_places (last : Filler) (member : place ∈ places before entries) :
    ∃ behind, before ++ written last entries = place.before ++ (place.item.rendered ++ behind) := by
  induction entries generalizing before with
  | nil => cases member
  | cons entry rest ih =>
    obtain ⟨filler, item⟩ := entry
    rcases List.mem_cons.mp member with rfl | later
    · exact ⟨written last rest, by simp only [written, List.append_assoc]⟩
    · obtain ⟨behind, parts⟩ := ih later
      exact ⟨behind, by rw [← parts]; simp only [written, List.append_assoc]⟩

/-- The items at all places are the items. -/
theorem map_item_places (before : Text) (entries : List (Filler × Item)) :
    (places before entries).map (·.item) = entries.map (·.2) := by
  induction entries generalizing before with
  | nil => rfl
  | cons entry rest ih => rw [places, List.map_cons, List.map_cons, ih]

theorem Item.lineFeed_mem_rendered (item : Item) : Text.lineFeed ∈ item.rendered :=
  List.mem_append_right _ (List.mem_append_left _ List.mem_cons_self)

/-- An item comes no earlier than the text that it follows on. -/
theorem count_le_of_mem_places (member : place ∈ places before entries) :
    before.count Text.lineFeed ≤ place.before.count Text.lineFeed := by
  induction entries generalizing before with
  | nil => cases member
  | cons entry rest ih =>
    obtain ⟨filler, item⟩ := entry
    rcases List.mem_cons.mp member with rfl | later
    · rw [List.count_append]
      omega
    · have := ih later
      rw [List.count_append] at this
      omega

/-- **Items start on different lines**, since each has a line end in it. -/
theorem pairwise_places (before : Text) (entries : List (Filler × Item)) :
    (places before entries).Pairwise fun one other =>
      one.before.count Text.lineFeed < other.before.count Text.lineFeed := by
  induction entries generalizing before with
  | nil => exact List.Pairwise.nil
  | cons entry rest ih =>
    obtain ⟨filler, item⟩ := entry
    refine List.pairwise_cons.mpr ⟨fun other later => ?_, ih _⟩
    have behind := count_le_of_mem_places later
    have ends : 0 < item.rendered.count Text.lineFeed :=
      List.count_pos_iff.mpr item.lineFeed_mem_rendered
    simp only [List.count_append] at behind ⊢
    omega

/-! ### The pairs of markers -/

theorem Filler.not_infix (filler : Filler) : ¬ Marker.anchor <:+: filler.text := by
  rw [← Text.contains_iff_infix, filler.plain]
  exact Bool.false_ne_true

theorem Item.not_infix_inside (item : Item) : ¬ Marker.anchor <:+: item.inside := by
  have noFeed : Text.lineFeed ∉ Marker.anchor := by decide
  have plain : ¬ Marker.anchor <:+: item.body := by
    rw [← Text.contains_iff_infix, item.plain]
    exact Bool.false_ne_true
  exact Marker.plain_cons noFeed (Marker.plain_concat noFeed plain)

variable {scope : Scope} {back : Text}

/-- The text of items starts with a filler; that is all, or a marker comes behind it. -/
theorem written_eq (last : Filler) (entries : List (Filler × Item)) :
    ∃ (filler : Filler) (back : Text),
      written last entries = filler.text ++ back ∧ ∀ point, back.head? = some point →
        point = .scalar '/' := by
  cases entries with
  | nil => exact ⟨last, [], (List.append_nil _).symm, fun point head => by cases head⟩
  | cons entry rest =>
    obtain ⟨filler, item⟩ := entry
    exact ⟨filler, _, rfl, fun point head => (Option.some.inj head).symm⟩

/-- **The slash at the end of an item opens nothing**, whatever the filler behind it starts with. -/
theorem openingLength?_slash_written (scope : Scope) (last : Filler)
    (entries : List (Filler × Item)) :
    Marker.openingLength? scope (.scalar '/' :: written last entries) = none := by
  have noSlash : .scalar '/' ∉ Marker.anchor := by decide
  obtain ⟨filler, back, parts, ends⟩ := written_eq last entries
  rw [parts]
  exact (Marker.misses_opening_of_slash (Marker.plain_cons noSlash filler.not_infix) ends).1

/-- **An item of another scope is left out.** -/
theorem misses_rendered {item : Item} (different : scope ≠ item.scope)
    (slash : Marker.openingLength? scope (.scalar '/' :: back) = none) :
    Marker.Misses (Marker.openingLength? scope) back item.rendered := by
  have noMark : .scalar '@' ∉ Marker.anchor.tail := by decide
  have insideMisses : Marker.Misses (Marker.openingLength? scope)
      (Marker.closing item.scope ++ back) item.inside := by
    refine Marker.misses_opening item.not_infix_inside (fun point head => ?_)
      fun skipped rest unmarked _ same => ?_
    · rw [Marker.closing, List.append_assoc, List.head?_append, Marker.head_label] at head
      exact Option.some.inj head ▸ noMark
    · rw [Marker.closing, List.append_assoc,
        ← List.nil_append (Marker.label item.scope ++ _)] at same
      exact different (Marker.scope_eq_of_first_label unmarked List.not_mem_nil same.symm)
  have closingMisses : Marker.Misses (Marker.openingLength? scope) back
      (Marker.closing item.scope) := by
    obtain ⟨rest, parts, noSlash⟩ := (Marker.isClosing_closing item.scope).exists_eq_append
    rw [parts]
    exact Marker.misses_append_iff.mpr ⟨Marker.misses_opening_of_no_slash noSlash, slash, trivial⟩
  refine Marker.misses_append_iff.mpr ⟨Marker.misses_opening_opening different, ?_⟩
  exact Marker.misses_append_iff.mpr ⟨insideMisses, closingMisses⟩

/-- **The first pair of a text with an item of the scope behind a filler** is that of the item. -/
theorem firstPair?_rendered (filler : Filler) (item : Item) (back : Text) :
    Marker.firstPair? item.scope (filler.text ++ (item.rendered ++ back)) =
      some (Place.pair ⟨filler.text, item⟩) := by
  have noMark : .scalar '@' ∉ Marker.anchor.tail := by decide
  have feedEnds : Marker.continuesLabel Text.lineFeed = false := by decide +kernel
  have opens : Marker.openingLength? item.scope
      (Marker.opening item.scope ++ (item.inside ++ (Marker.closing item.scope ++ back))) =
        some (Marker.opening item.scope).length :=
    Marker.openingLength?_eq_some_iff.mpr ⟨_, _, Marker.isOpening_opening _, rfl, feedEnds, rfl⟩
  have closes : Marker.closingLength? item.scope (Marker.closing item.scope ++ back) =
      some (Marker.closing item.scope).length :=
    Marker.closingLength?_eq_some_iff.mpr ⟨_, _, Marker.isClosing_closing _, rfl, rfl⟩
  have before : Marker.Misses (Marker.openingLength? item.scope)
      (Marker.opening item.scope ++ (item.inside ++ (Marker.closing item.scope ++ back)))
        filler.text :=
    Marker.misses_opening_of_slash filler.not_infix fun point head => (Option.some.inj head).symm
  have between : Marker.Misses (Marker.closingLength? item.scope)
      (Marker.closing item.scope ++ back) item.inside := by
    refine Marker.misses_closing item.not_infix_inside fun point head => ?_
    rw [Marker.closing, List.append_assoc, List.head?_append, Marker.head_label] at head
    exact Option.some.inj head ▸ noMark
  have closing_ne : Marker.closing item.scope ≠ [] := by
    intro nothing
    have head := congrArg List.head? nothing
    rw [Marker.closing, List.head?_append, Marker.head_label] at head
    cases head
  rw [Item.rendered, List.append_assoc, List.append_assoc,
    Marker.firstPair?_of_misses opens closes before between (List.cons_ne_nil _ _) closing_ne,
    Place.pair, Place.opened, Item.rendered]
  simp only [List.length_append, Nat.add_assoc]

/-- **The pairs of markers of a scope are those of its items.** -/
theorem pairsFrom_written (scope : Scope) (last : Filler) (before : Text)
    (entries : List (Filler × Item)) :
    Marker.pairsFrom scope before.length (written last entries) =
      ((places before entries).filter (·.item.scope = scope)).map Place.pair := by
  induction entries generalizing before with
  | nil =>
    have misses : Marker.Misses (Marker.openingLength? scope) [] last.text :=
      Marker.misses_opening_of_slash last.not_infix fun point head => by cases head
    have nothing := Marker.pairsFrom_of_misses before.length misses
    rw [List.append_nil, Marker.pairsFrom] at nothing
    exact nothing
  | cons entry rest ih =>
    obtain ⟨filler, item⟩ := entry
    have later := ih (before ++ (filler.text ++ item.rendered))
    rw [written, places]
    by_cases same : item.scope = scope
    · subst same
      rw [Marker.pairsFrom_of_some _ (firstPair?_rendered filler item _),
        List.filter_cons_of_pos (by simp), List.map_cons, ← later]
      congr 1
      · simp only [Marker.Pair.shift, Place.pair, Place.opened, List.length_append, Nat.add_assoc]
      · simp only [Place.pair, ← List.append_assoc, ← List.length_append, List.drop_left]
    · have misses : Marker.Misses (Marker.openingLength? scope) (written last rest)
          (filler.text ++ item.rendered) := by
        refine Marker.misses_append_iff.mpr
          ⟨?_, misses_rendered (Ne.symm same) (openingLength?_slash_written _ _ _)⟩
        exact Marker.misses_opening_of_slash filler.not_infix fun point head =>
          (Option.some.inj head).symm
      rw [← List.append_assoc, Marker.pairsFrom_of_misses _ misses,
        List.filter_cons_of_neg (by simpa using same), ← List.length_append, ← later]

/-! ### What the pairs hold -/

variable {options : Options} {source : Source}

/-- **The pair of an item holds its block.** -/
theorem ofPair_place {behind : Text}
    (parts : source.text = place.before ++ (place.item.rendered ++ behind)) :
    ofPair options source place.item.scope place.pair = .ok (.ok place.block) := by
  have opened : source.text = place.opened ++ (Marker.closing place.item.scope ++ behind) := by
    rw [parts, Place.opened, Item.rendered]
    simp only [List.append_assoc]
  have held : source.text.slice place.pair.openingStop place.pair.closingStart =
      place.item.inside := by
    have middle := Text.slice_middle (place.before ++ Marker.opening place.item.scope)
      place.item.inside
      (Marker.closing place.item.scope ++ behind)
    rw [parts, Item.rendered, Place.pair, Place.opened]
    simpa only [List.append_assoc, List.length_append, Nat.add_assoc] using middle
  have stripped : Text.strip place.item.inside = Text.strip place.item.body :=
    Text.strip_between_blanks _ (by decide) (by decide)
  have payload : payloadOf options (Text.strip place.item.inside) =
      .ok (.ok place.item.payload) := by
    rw [stripped, payloadOf, place.item.parsed]
    simp [place.item.container]
  have startLine : lineAt source.text place.pair.openingStart =
      1 + place.before.count Text.lineFeed := by
    rw [lineAt, parts, Place.pair, List.take_left]
  have endLine : lineAt source.text place.pair.closingStart =
      1 + place.opened.count Text.lineFeed := by
    rw [lineAt, opened, Place.pair, List.take_left]
  rw [ofPair_eq, held, payload, startLine, endLine]
  rfl

/-- **What is found in the text of a generator**: in each scope the blocks of its items. -/
theorem scanScope_written (options : Options) (parts : source.text = written last entries)
    (scope : Scope) :
    scanScope options source scope = .ok ((blocksIn scope entries).map .ok) := by
  rw [scanScope, ofPairs_eq_ok_iff, parts, Marker.pairs, ← List.length_nil, pairsFrom_written,
    blocksIn, List.map_map, List.forall₂_map_left_iff, List.forall₂_map_right_iff, ← placesOf,
    List.forall₂_same]
  intro place member
  obtain ⟨listed, sameScope⟩ := List.mem_filter.mp member
  obtain ⟨behind, whole⟩ := exists_behind_of_mem_places last listed
  rw [← of_decide_eq_true sameScope]
  exact ofPair_place (parts.trans whole)

theorem blocksOf_map_ok (blocks : List MetadataBlock) : blocksOf (blocks.map .ok) = blocks := by
  rw [blocksOf, List.filterMap_map]
  exact List.filterMap_some

theorem reportsOf_map_ok (blocks : List MetadataBlock) : reportsOf (blocks.map .ok) = [] := by
  rw [reportsOf, List.filterMap_map]
  exact List.filterMap_none _

/-! ### Warnings -/

/-- Items that start on different lines give different warnings. -/
theorem surplusWarning_ne {one other : Place}
    (earlier : one.before.count Text.lineFeed < other.before.count Text.lineFeed) :
    surplusWarning one.block ≠ surplusWarning other.block := by
  intro same
  have lines := Text.ofNat_injective (List.append_cancel_left same)
  omega

theorem nodup_surplusWarnings (scope : Scope) (entries : List (Filler × Item)) :
    (((blocksIn scope entries).drop 1).map surplusWarning).Nodup := by
  have ordered : (placesOf scope entries).Pairwise fun one other =>
      one.before.count Text.lineFeed < other.before.count Text.lineFeed :=
        (pairwise_places [] entries).filter _
  have different : (blocksIn scope entries).Pairwise fun one other =>
      surplusWarning one ≠ surplusWarning other :=
    List.pairwise_map.mpr (ordered.imp surplusWarning_ne)
  exact List.pairwise_map.mpr (different.sublist (List.drop_sublist 1 _))

/-- **All warnings are kept**, since no two of them are the same. -/
theorem foldl_addMessage_warnings (scope : Scope) (entries : List (Filler × Item))
    (blocks : List MetadataBlock) :
    (((blocksIn scope entries).drop 1).map surplusWarning ++ duplicateWarnings blocks).foldl
      addMessage [] =
      ((blocksIn scope entries).drop 1).map surplusWarning ++ duplicateWarnings blocks := by
  have nodup : (((blocksIn scope entries).drop 1).map surplusWarning ++
      duplicateWarnings blocks).Nodup := by
    refine List.nodup_append.mpr ⟨nodup_surplusWarnings scope entries, ?_, ?_⟩
    · unfold duplicateWarnings
      split <;> simp
    · intro warning surplus other duplicate same
      obtain ⟨block, _, rfl⟩ := List.mem_map.mp surplus
      unfold duplicateWarnings at duplicate
      split at duplicate
      · cases duplicate
      · have surplusHead : (surplusWarning block).head? = some (.scalar 'M') := rfl
        have differs : CodePoint.scalar 'M' ≠ .scalar 'D' := by decide
        rw [← same, List.mem_singleton] at duplicate
        rw [duplicate] at surplusHead
        exact differs (Option.some.inj surplusHead).symm
  exact foldl_addMessage [] nodup

/-! ### All scopes -/

/-- **The text of a generator gives all items back.** Nothing in it is reported as a fault, the
blocks of requests and of groups are those of their items, and of the blocks about the file all
beyond the first are warned about. The blocks are those of the places of the items, and what stands
at a block is its item. -/
theorem scan_written (options : Options) (entries : List (Filler × Item)) (last : Filler)
    {source : Source} (encoded : Source.ofText? (written last entries) = .ok source) :
    ∃ found, scan options source = .ok found ∧ found.errors = [] ∧
      found.fileMetadata = (blocksIn .file entries).head? ∧
      found.requestMetadata = blocksIn .request entries ∧
      found.groupMetadata = blocksIn .group entries ∧
      found.warnings = ((blocksIn .file entries).drop 1).map surplusWarning ++
        duplicateWarnings (blocksIn .request entries ++ blocksIn .group entries) ∧
      ∀ scope, (placesOf scope entries).map (·.item) =
        (entries.map (·.2)).filter (·.scope = scope) ∧
        ∀ place ∈ placesOf scope entries,
          (∃ behind, written last entries = place.before ++ (place.item.rendered ++ behind)) ∧
            source.slice place.block.startOffset.toNat place.block.endOffset.toNat =
              place.item.rendered := by
  have parts := Source.text_of_ofText? encoded
  have each := scanScope_written options parts
  refine ⟨_, by rw [scan, each, each, each]; rfl, ?_, ?_, ?_, ?_, ?_,
    fun scope => ⟨?_, fun place member => ?_⟩⟩
  · simp only [reportsOf_map_ok, List.append_nil]
  · simp only [blocksOf_map_ok]
  · simp only [blocksOf_map_ok]
  · simp only [blocksOf_map_ok]
  · simp only [blocksOf_map_ok, foldl_addMessage_warnings]
  · rw [← map_item_places [] entries, placesOf, List.filter_map]
    rfl
  · obtain ⟨behind, whole⟩ := exists_behind_of_mem_places last (List.mem_filter.mp member).1
    rw [List.nil_append] at whole
    refine ⟨⟨behind, whole⟩, ?_⟩
    rw [Source.slice_eq, parts, whole]
    exact Text.slice_middle place.before place.item.rendered behind

/-- Two items about a file and one about a request. A filler continues the comment mark that an item
ends with, and an item has the end of a comment in it. -/
def sampleEntries : List (Filler × Item) := [
  (⟨"// /*\n", by decide⟩, ⟨.file, "\x7b\x7d", .object [], by decide, rfl, rfl⟩),
  (⟨"* ", by decide⟩, ⟨.file, "[]", .array [], by decide, rfl, rfl⟩),
  (⟨"*", by decide⟩, ⟨.request, "[\"*/\"]", .array [.string "*/"], by decide, rfl, rfl⟩)]

def sampleText : List Char :=
  ("// /*\n/* @apicize-file-metadata\n\x7b\x7d\n@apicize-file-metadata-end */" ++
    "* /* @apicize-file-metadata\n[]\n@apicize-file-metadata-end */" ++
    "*/* @apicize-request-metadata\n[\"*/\"]\n@apicize-request-metadata-end *//").toList

/-- Both items about the file are found, and so is the one about the request. -/
theorem scan_written_sample :
    ∃ source found, Source.ofText? (written ⟨"/", by decide⟩ sampleEntries) = .ok source ∧
      scan .usual source = .ok found ∧ found.errors = [] ∧
      found.fileMetadata.map (·.startLine) = some 2 ∧
      found.requestMetadata.map (·.id) = ["request-6"] ∧ found.groupMetadata = [] ∧
      found.warnings = ["Multiple file metadata blocks found; ignoring the block at line 4"] := by
  have text : written ⟨"/", by decide⟩ sampleEntries = Text.ofChars sampleText := by decide +kernel
  have encoded : Source.ofText? (written ⟨"/", by decide⟩ sampleEntries) =
      .ok (.ofChars sampleText) := by
    rw [text, Source.ofText?_ofChars]
  obtain ⟨found, scanned, errors, file, requests, groups, warnings, _⟩ :=
    scan_written .usual _ _ encoded
  refine ⟨_, found, encoded, scanned, errors, ?_, ?_, groups, ?_⟩
  · rw [file]
    rfl
  · rw [requests]
    rfl
  · rw [warnings]
    rfl

end Metadata

end TestOutline
