/-
**What is found at pairs of markers.**

* `finding`: what a pair comes to, given what it holds and where it stands. Lines come into
  identifiers and reports.
* `ofPair_eq`: a pair of a source comes to a finding unless an integer in it is too long.
* `ofPairs_eq_ok_iff`: several pairs come to what each of them comes to;
  `exists_pair_of_mem_blocksOf`: each block comes from one of them.
* `scan_congr`: of the options only one matters.
-/

import Mathlib.Data.List.Forall2
import TestOutline.Metadata.Scan
import TestOutline.Proofs.Source.Lines

namespace TestOutline

/-- What is in a list is related to something in the other one. -/
theorem exists_mem_of_forall₂ {α β : Type} {alike : α → β → Prop} {left : List α} {right : List β}
    {one : α} (pairs : List.Forall₂ alike left right) (member : one ∈ left) :
    ∃ other ∈ right, alike one other := by
  rw [← List.map_fst_zip (Nat.le_of_eq pairs.length_eq)] at member
  obtain ⟨⟨_, other⟩, paired, rfl⟩ := List.mem_map.mp member
  exact ⟨other, (List.of_mem_zip paired).2, List.forall₂_zip pairs paired⟩

namespace Metadata

variable {options : Options} {source : Source} {scope : Scope} {pair : Marker.Pair}

/-- **What a pair comes to**, given what it holds and where it stands: a block, or the report of a
fault. -/
def finding (scope : Scope) (startLine endLine start stop : Nat) :
    Except Fault Json → Except Text MetadataBlock
  | .error fault => .error (fault.message scope startLine)
  | .ok payload => .ok {
      scope := scope
      id := identifier payload scope startLine
      payload := payload
      startLine := startLine
      endLine := endLine
      startOffset := start
      endOffset := stop
      testCode := none }

/-- The line of an offset in a text. -/
def lineAt (text : Text) (offset : Nat) : Nat := 1 + (text.take offset).count Text.lineFeed

/-- **A pair of a source comes to a finding**, unless an integer in it is too long. -/
theorem ofPair_eq (options : Options) (source : Source) (scope : Scope) (pair : Marker.Pair) :
    ofPair options source scope pair =
      (payloadOf options (Text.strip (source.text.slice pair.openingStop pair.closingStart))).map
        (finding scope (lineAt source.text pair.openingStart)
          (lineAt source.text pair.closingStart) pair.openingStart pair.closingStop) := by
  unfold ofPair
  rw [Source.slice_eq, Source.lineNumber_eq_count, Source.lineNumber_eq_count]
  cases payloadOf options (Text.strip (source.text.slice pair.openingStop pair.closingStart)) with
  | error digits => rfl
  | ok held => cases held <;> rfl

/-- A block at a pair is what the pair comes to with what it holds. -/
theorem block_of_ofPair {block : MetadataBlock}
    (come : ofPair options source scope pair = .ok (.ok block)) :
    ∃ payload, finding scope (lineAt source.text pair.openingStart)
      (lineAt source.text pair.closingStart)
      pair.openingStart pair.closingStop (.ok payload) = .ok block := by
  rw [ofPair_eq] at come
  cases held :
    payloadOf options (Text.strip (source.text.slice pair.openingStop pair.closingStart)) with
  | error digits =>
    rw [held] at come
    cases come
  | ok outcome =>
    rw [held] at come
    cases outcome with
    | error fault => cases come
    | ok payload => exact ⟨payload, Except.ok.inj come⟩

/-- **Pairs come to what each of them comes to.** -/
theorem ofPairs_eq_ok_iff {pairs : List Marker.Pair} {found : List (Except Text MetadataBlock)} :
    ofPairs options source scope pairs = .ok found ↔
      List.Forall₂ (fun pair one => ofPair options source scope pair = .ok one) pairs found := by
  induction pairs generalizing found with
  | nil => simp [ofPairs, eq_comm]
  | cons pair rest ih =>
    rw [ofPairs, List.forall₂_cons_left_iff]
    cases here : ofPair options source scope pair with
    | error digits => simp [bind, Except.bind]
    | ok one =>
      cases others : ofPairs options source scope rest with
      | error digits =>
        rw [others] at ih
        simp [bind, Except.bind, ← ih]
      | ok behind =>
        rw [others] at ih
        constructor
        · rintro ⟨⟩
          exact ⟨one, behind, rfl, ih.mp rfl, rfl⟩
        · rintro ⟨_, _, same, later, rfl⟩
          cases same
          cases ih.mpr later
          rfl

/-- **A block that is found comes from a pair.** -/
theorem exists_pair_of_mem_blocksOf {pairs : List Marker.Pair}
    {found : List (Except Text MetadataBlock)}
    {block : MetadataBlock} (scanned : ofPairs options source scope pairs = .ok found)
    (member : block ∈ blocksOf found) : ∃ pair ∈ pairs, ofPair options source scope pair =
      .ok (.ok block) := by
  obtain ⟨one, listed, same⟩ := List.mem_filterMap.mp member
  obtain rfl : one = .ok block := by
    cases one with
    | error report => cases same
    | ok other => rw [Option.some.inj same]
  exact exists_mem_of_forall₂ (ofPairs_eq_ok_iff.mp scanned).flip listed

/-- **A scan puts together what is found in each scope.** -/
theorem scopes_of_scan {found : MetadataOutline} (scanned : scan options source = .ok found) :
    ∃ file requests groups, scanScope options source .file = .ok file ∧
      scanScope options source .request = .ok requests ∧
      scanScope options source .group = .ok groups ∧
      found = {
        fileMetadata := (blocksOf file).head?
        requestMetadata := blocksOf requests
        groupMetadata := blocksOf groups
        errors := reportsOf file ++ reportsOf requests ++ reportsOf groups
        warnings := (((blocksOf file).drop 1).map surplusWarning ++
          duplicateWarnings (blocksOf requests ++ blocksOf groups)).foldl addMessage [] } := by
  unfold scan at scanned
  cases file : scanScope options source .file with
  | error digits =>
    rw [file] at scanned
    cases scanned
  | ok ofFile =>
    cases request : scanScope options source .request with
    | error digits =>
      rw [file, request] at scanned
      cases scanned
    | ok ofRequest =>
      cases group : scanScope options source .group with
      | error digits =>
        rw [file, request, group] at scanned
        cases scanned
      | ok ofGroup =>
        rw [file, request, group] at scanned
        exact ⟨ofFile, ofRequest, ofGroup, rfl, rfl, rfl, (Except.ok.inj scanned).symm⟩

/-- The requests of a scan are the blocks that the scan of their scope finds. -/
theorem requests_of_scan {found : MetadataOutline} (scanned : scan options source = .ok found) :
    ∃ listed, scanScope options source .request = .ok listed ∧
      found.requestMetadata = blocksOf listed := by
  obtain ⟨_, requests, _, _, listed, _, rfl⟩ := scopes_of_scan scanned
  exact ⟨requests, listed, rfl⟩

/-- Sources and options under which the pairs come to the same. -/
theorem ofPairs_congr {more : Options} {other : Source} {pairs : List Marker.Pair}
    (same : ∀ pair ∈ pairs, ofPair options source scope pair = ofPair more other scope pair) :
    ofPairs options source scope pairs = ofPairs more other scope pairs := by
  induction pairs with
  | nil => rfl
  | cons pair rest ih =>
    have others := ih fun later member => same later (List.mem_cons_of_mem _ member)
    rw [ofPairs, ofPairs, same pair List.mem_cons_self, others]

/-- **Only one of the options matters to a scan**: whether metadata has to be an object or an
array. -/
theorem scan_congr {more : Options} (same : options.validateJson = more.validateJson)
    (source : Source) :
    scan options source = scan more source := by
  have payloads : ∀ content, payloadOf options content = payloadOf more content := by
    intro content
    unfold payloadOf
    rw [same]
  have scopes : ∀ scope, scanScope options source scope = scanScope more source scope :=
    fun scope =>
    ofPairs_congr fun pair _ => by rw [ofPair_eq, ofPair_eq, payloads]
  rw [scan, scan, scopes, scopes, scopes]

end Metadata

end TestOutline
