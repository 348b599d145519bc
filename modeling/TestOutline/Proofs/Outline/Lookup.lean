/-
**Metadata by its identifier.**

A block of metadata is looked up by its identifier among requests, groups and the block about the
file, in this order. It is hidden by a block before it with the same identifier. Identifiers that
hide a block are those that are reported as duplicates.

* `Scanned`: what is known of the blocks of a text and of the warnings, whatever else is extracted.
  No block comes twice (`Scanned.nodup`), since those of one scope start at different places.
* `scanned_of_scan`, `Scanned.attached`, `Scanned.warned`: a scan gives such blocks; tests that are
  attached to requests and other warnings change nothing.
* `Extracted`: what is found in a text, with its code or without it.
* `LooksUp`: what is found by an identifier, and what is reported of identifiers.
* `duplicates_and_lookup`: so it is for each text, and duplicates are reported in the order of their
  second coming.
-/

import TestOutline.Proofs.Messages
import TestOutline.Proofs.Metadata.Pairing
import TestOutline.Proofs.Metadata.Repeated
import TestOutline.Proofs.Outline.OptionsApart

namespace TestOutline

/-- In a list without repetitions, an element is the first one with a property if none before it has
the property. -/
theorem find?_eq_some_iff_of_nodup {α : Type} {test : α → Bool} {whole before behind : List α}
    {one : α} (nodup : whole.Nodup) (parts : whole = before ++ one :: behind)
    (passes : test one = true) :
    whole.find? test = some one ↔ ∀ earlier ∈ before, ¬ test earlier = true := by
  rw [parts] at nodup ⊢
  rw [List.find?_append]
  cases found : before.find? test with
  | none =>
    rw [Option.none_or, List.find?_cons_of_pos passes]
    exact iff_of_true rfl (List.find?_eq_none.mp found)
  | some earlier =>
    have member := List.mem_of_find?_eq_some found
    rw [Option.some_or, Option.some.injEq]
    refine iff_of_false ?_ fun none => none earlier member (List.find?_some found)
    rintro rfl
    exact (List.nodup_append.mp nodup).2.2 earlier member earlier List.mem_cons_self rfl

/-- A relation holds between all pairs of a list if it holds between each element and those before
it. -/
theorem pairwise_iff_forall_before {α : Type} {related : α → α → Prop} {whole : List α} :
    whole.Pairwise related ↔ ∀ before one behind, whole = before ++ one :: behind →
      ∀ earlier ∈ before, related earlier one := by
  constructor
  · rintro pairwise before one behind rfl earlier member
    exact (List.pairwise_append.mp pairwise).2.2 earlier member one List.mem_cons_self
  · intro all
    induction whole with
    | nil => exact List.Pairwise.nil
    | cons top rest ih =>
      refine List.pairwise_cons.mpr
        ⟨fun other member => ?_, ih fun before one behind parts earlier inside => ?_⟩
      · obtain ⟨before, behind, rfl⟩ := List.append_of_mem member
        exact all (top :: before) other behind rfl top List.mem_cons_self
      · exact all (top :: before) one behind (by rw [parts, List.cons_append]) earlier
          (List.mem_cons_of_mem _ inside)

namespace Metadata

/-! ### The blocks of a scan -/

variable {options : Options} {source : Source} {scope : Scope}
  {requests groups : List MetadataBlock}
  {file : Option MetadataBlock} {warnings : List Text}

/-- What a report of shared identifiers starts with. -/
def sharedHead : Text := "Duplicate metadata IDs found: "

/-- **Blocks of metadata and warnings as a scan gives them.** The blocks are of their scopes, and
those of one scope stand in the order of the source. Of the warnings those about shared identifiers
are what is said about the blocks. -/
structure Scanned (requests groups : List MetadataBlock) (file : Option MetadataBlock)
    (warnings : List Text) :
    Prop where
  requestScope : ∀ block ∈ requests, block.scope = .request
  groupScope : ∀ block ∈ groups, block.scope = .group
  fileScope : ∀ block ∈ file, block.scope = .file
  requestsInOrder : requests.Pairwise fun left right => left.startOffset < right.startOffset
  groupsInOrder : groups.Pairwise fun left right => left.startOffset < right.startOffset
  reported : ∀ warning, sharedHead <+: warning →
    (warning ∈ warnings ↔ warning ∈ duplicateWarnings (requests ++ groups))

theorem mem_duplicateWarnings_iff {blocks : List MetadataBlock} {warning : Text} :
    warning ∈ duplicateWarnings blocks ↔
      duplicateIds blocks ≠ [] ∧ warning = sharedHead ++ Text.join ", " (duplicateIds blocks) := by
  unfold duplicateWarnings
  split
  · next none => simp [none]
  · next some =>
    rw [List.mem_singleton]
    exact ⟨fun same => ⟨some, same⟩, And.right⟩

theorem head?_of_sharedHead {warning : Text} (shared : sharedHead <+: warning) :
    warning.head? = some (.scalar 'D') := by
  obtain ⟨rest, rfl⟩ := shared
  rfl

/-- A warning that starts with another letter is not about shared identifiers. -/
theorem not_sharedHead {warning : Text} {letter : Char}
    (head : warning.head? = some (.scalar letter)) (other : letter ≠ 'D') :
    ¬ sharedHead <+: warning := by
  intro shared
  rw [head?_of_sharedHead shared] at head
  cases head
  exact other rfl

/-- No block comes twice: blocks of one scope start at different places. -/
theorem Scanned.nodup (scanned : Scanned requests groups file warnings) :
    (requests ++ groups ++ file.toList).Nodup := by
  have ofOrder : ∀ {blocks : List MetadataBlock},
      blocks.Pairwise (fun left right => left.startOffset < right.startOffset) → blocks.Nodup := by
    intro blocks inOrder
    refine List.Pairwise.imp ?_ inOrder
    rintro left right before rfl
    exact Int.lt_irrefl _ before
  have apart : ∀ {left right : MetadataBlock} {one other : Scope}, left.scope = one →
      right.scope = other →
      one ≠ other → left ≠ right := by
    rintro left right one other rfl rfl different rfl
    exact different rfl
  refine List.nodup_append.mpr
    ⟨List.nodup_append.mpr ⟨ofOrder scanned.requestsInOrder, ofOrder scanned.groupsInOrder,
      fun left request right group => ?_⟩, ?_, fun left listed right ofFile => ?_⟩
  · exact apart (scanned.requestScope left request) (scanned.groupScope right group) (by decide)
  · cases file <;> simp
  · have rightScope := scanned.fileScope right (Option.mem_toList.mp ofFile)
    rcases List.mem_append.mp listed with request | group
    · exact apart (scanned.requestScope left request) rightScope (by decide)
    · exact apart (scanned.groupScope left group) rightScope (by decide)

/-- The blocks at some pairs start where some of the pairs do, in their order. -/
theorem startOffsets_sublist {pairs : List Marker.Pair} {found : List (Except Text MetadataBlock)}
    (gathered : List.Forall₂ (fun pair one => ofPair options source scope pair = .ok one) pairs
      found) :
    ((blocksOf found).map (·.startOffset)).Sublist
      (pairs.map fun pair => (pair.openingStart : Int)) := by
  induction gathered with
  | nil => exact List.Sublist.refl _
  | @cons pair one pairs found here _ ih =>
    cases one with
    | error report => exact ih.cons _
    | ok block =>
      obtain ⟨_, _, starts, _⟩ := (comesTo_of_ofPair here).block block rfl
      rw [List.map_cons, ← starts]
      exact ih.cons_cons _

/-- **What a scan of a scope finds** are blocks of this scope, in the order of the source. -/
theorem blocksOf_scanScope {found : List (Except Text MetadataBlock)}
    (scanned : scanScope options source scope = .ok found) :
    (∀ block ∈ blocksOf found, block.scope = scope) ∧
      (blocksOf found).Pairwise fun left right => left.startOffset < right.startOffset := by
  refine ⟨fun block member => ?_, ?_⟩
  · obtain ⟨pair, _, come⟩ := exists_pair_of_mem_blocksOf scanned member
    exact ((comesTo_of_ofPair come).block block rfl).1
  · have pairing : Marker.Pairing scope source.text 0 (Marker.pairs scope source.text) :=
      Marker.pairing_iff.mpr rfl
    have increasing : (Marker.pairs scope source.text).Pairwise fun left right =>
        (left.openingStart : Int) < right.openingStart := by
      refine pairing.apart.imp_of_mem fun {left right} member _ before => ?_
      have nonempty := (pairing.isPair left member).start_lt_stop
      omega
    have sorted := (List.pairwise_map.mpr increasing).sublist
      (startOffsets_sublist (ofPairs_eq_ok_iff.mp scanned))
    exact List.pairwise_map.mp sorted

/-- **A scan gives such blocks and warnings.** -/
theorem scanned_of_scan {found : MetadataOutline} (scanned : scan options source = .ok found) :
    Scanned found.requestMetadata found.groupMetadata found.fileMetadata found.warnings := by
  obtain ⟨ofFile, ofRequest, ofGroup, file, request, group, rfl⟩ := scopes_of_scan scanned
  obtain ⟨requestScope, requestsInOrder⟩ := blocksOf_scanScope request
  obtain ⟨groupScope, groupsInOrder⟩ := blocksOf_scanScope group
  refine ⟨requestScope, groupScope, fun block first => ?_, requestsInOrder, groupsInOrder,
    fun warning shared => ?_⟩
  · exact (blocksOf_scanScope file).1 block (List.mem_of_mem_head? first)
  · rw [mem_foldl_addMessage, List.mem_append]
    refine ⟨fun listed => (listed.resolve_left (by simp)).resolve_left fun surplus => ?_,
      fun said => .inr (.inr said)⟩
    obtain ⟨block, _, rfl⟩ := List.mem_map.mp surplus
    have head : (surplusWarning block).head? = some (.scalar 'M') := rfl
    exact not_sharedHead head (by decide) shared

/-- Without blocks and warnings there is nothing to be found. -/
theorem scanned_nil : Scanned [] [] none [] :=
  ⟨by simp, by simp, by simp, List.Pairwise.nil, List.Pairwise.nil, fun _ _ => Iff.rfl⟩

/-- Tests that are attached to requests change nothing. -/
theorem Scanned.attached (scanned : Scanned requests groups file warnings)
    {change : MetadataBlock → MetadataBlock} (ids : ∀ block, (change block).id = block.id)
    (scopes : ∀ block, (change block).scope = block.scope)
    (starts : ∀ block, (change block).startOffset = block.startOffset) :
    Scanned (requests.map change) groups file warnings := by
  refine { scanned with requestScope := ?_, requestsInOrder := ?_, reported := ?_ }
  · rw [List.forall_mem_map]
    exact fun block member => (scopes block).trans (scanned.requestScope block member)
  · rw [List.pairwise_map]
    refine scanned.requestsInOrder.imp fun before => ?_
    rw [starts, starts]
    exact before
  · have same : duplicateIds (requests.map change ++ groups) =
        duplicateIds (requests ++ groups) := by
      rw [duplicateIds, duplicateIds, List.map_append, List.map_append, List.map_map]
      simp only [Function.comp_def, ids]
    intro warning shared
    rw [scanned.reported warning shared, mem_duplicateWarnings_iff, mem_duplicateWarnings_iff, same]

/-- Warnings about other things change nothing. -/
theorem Scanned.warned (scanned : Scanned requests groups file warnings) {others : List Text}
    (same : ∀ warning, sharedHead <+: warning → (warning ∈ others ↔ warning ∈ warnings)) :
    Scanned requests groups file others :=
  { scanned with reported := fun warning shared =>
    (same warning shared).trans (scanned.reported warning shared) }

/-! ### Looking up -/

/-- **What is found by an identifier.** No block comes twice. A request or a group is found by its
identifier if no block before it has the same one, and so all of them are found if no identifiers
are shared; a warning tells of those that are. The block about the file is found if no other block
has its identifier, and nothing if none has it. -/
structure LooksUp (requests groups : List MetadataBlock) (file : Option MetadataBlock)
    (warnings : List Text) :
    Prop where
  distinct : (requests ++ groups ++ file.toList).Nodup
  first : ∀ before block behind, requests ++ groups = before ++ block :: behind →
    (find? requests groups file block.id = some block ↔ ∀ earlier ∈ before, earlier.id ≠ block.id)
  reachable : (∀ block ∈ requests ++ groups, find? requests groups file block.id = some block) ↔
    duplicateIds (requests ++ groups) = []
  reported : ∀ warning, (warning ∈ warnings ∧ sharedHead <+: warning) ↔
    (duplicateIds (requests ++ groups) ≠ [] ∧
      warning = sharedHead ++ Text.join ", " (duplicateIds (requests ++ groups)))
  ofFile : ∀ block, file = some block →
    (find? requests groups file block.id = some block ↔
      ∀ other ∈ requests ++ groups, other.id ≠ block.id)
  missing : ∀ id, find? requests groups file id = none ↔
    ∀ block ∈ requests ++ groups ++ file.toList, block.id ≠ id

/-- **Blocks of a scan are found by their identifiers.** -/
theorem Scanned.looksUp (scanned : Scanned requests groups file warnings) :
    LooksUp requests groups file warnings := by
  have found : ∀ before block behind, requests ++ groups ++ file.toList =
      before ++ block :: behind →
      (find? requests groups file block.id = some block ↔
        ∀ earlier ∈ before, earlier.id ≠ block.id) := by
    intro before block behind parts
    rw [find?, find?_eq_some_iff_of_nodup scanned.nodup parts (by rw [beq_iff_eq])]
    simp only [beq_iff_eq, ne_eq]
  have first : ∀ before block behind, requests ++ groups = before ++ block :: behind →
      (find? requests groups file block.id = some block ↔
        ∀ earlier ∈ before, earlier.id ≠ block.id) := by
    intro before block behind parts
    exact found before block (behind ++ file.toList)
      (by rw [parts, List.append_assoc, List.cons_append])
  refine ⟨scanned.nodup, first, ?_, fun warning => ?_, ?_, fun id => ?_⟩
  · rw [duplicateIds_eq_nil_iff, List.Nodup, List.pairwise_map, pairwise_iff_forall_before]
    constructor
    · intro all before block behind parts
      exact (first before block behind parts).mp (all block (by rw [parts]; simp))
    · intro apart block member
      obtain ⟨before, behind, parts⟩ := List.append_of_mem member
      exact (first before block behind parts).mpr (apart before block behind parts)
  · rw [← mem_duplicateWarnings_iff]
    constructor
    · rintro ⟨member, shared⟩
      exact (scanned.reported warning shared).mp member
    · intro said
      have shared : sharedHead <+: warning := by
        rw [(mem_duplicateWarnings_iff.mp said).2]
        exact List.prefix_append _ _
      exact ⟨(scanned.reported warning shared).mpr said, shared⟩
  · rintro block rfl
    exact found _ block [] rfl
  · rw [find?, List.find?_eq_none]
    simp only [beq_iff_eq, ne_eq]

end Metadata

/-! ### Outlines -/

namespace Outline

variable {options : Options} {found : MetadataOutline}

theorem not_sharedHead_of_mem_deepWarnings {forest : Forest} {warning : Text}
    (member : warning ∈ deepWarnings options forest) : ¬ Metadata.sharedHead <+: warning := by
  unfold deepWarnings at member
  split at member
  · cases member
  · next limit _ =>
    obtain ⟨place, _, rfl⟩ := List.mem_map.mp member
    have head : (Forest.depthWarning limit (forest.candidate place)).head? = some (.scalar 'B') :=
      rfl
    exact Metadata.not_sharedHead head (by decide)

theorem not_sharedHead_of_mem_strictReports {imports : List Import} {blocks : List Block}
    {warning : Text} (member : warning ∈ (strictReports options imports blocks found).2) :
    ¬ Metadata.sharedHead <+: warning := by
  unfold strictReports at member
  split at member
  · rcases List.mem_append.mp member with noFramework | hollow
    · split at noFramework
      · cases noFramework
      · obtain rfl := List.mem_singleton.mp noFramework
        decide
    · obtain ⟨block, _, rfl⟩ := List.mem_map.mp hollow
      have head : (hollowWarning block).head? = some (.scalar 'R') := rfl
      exact Metadata.not_sharedHead head (by decide)
  · cases member

/-- **The metadata of an outline is that of a scan.** -/
theorem scanned_of_returned {reader : TreeReader} {text : Text} {outline : Outline}
    (returned : ofTextBy reader options text = .ok outline) :
    Metadata.Scanned outline.requestMetadata outline.groupMetadata outline.fileMetadata
      outline.warnings := by
  rcases exists_tree returned with ⟨error, rfl⟩ | ⟨tree, warnings, broken, returned⟩
  · exact Metadata.scanned_nil
  · obtain ⟨imports, candidates, found, scanned, rfl⟩ := exists_assembled returned
    refine ((Metadata.scanned_of_scan scanned).attached (attachTest_keeps (fun _ _ => rfl) _ _ _)
      (attachTest_keeps (fun _ _ => rfl) _ _ _) (attachTest_keeps (fun _ _ => rfl) _ _ _)).warned
      fun warning shared => ?_
    show warning ∈ List.foldl addMessage [] _ ↔ _
    rw [mem_foldl_addMessage, List.mem_append, List.mem_append, List.mem_append]
    constructor
    · rintro (none | ((given | deep) | said) | strict)
      · cases none
      · obtain ⟨line, rfl⟩ := broken warning given
        have head : (brokenWarning line).head? = some (.scalar 'S') := rfl
        exact absurd shared (Metadata.not_sharedHead head (by decide))
      · exact absurd shared (not_sharedHead_of_mem_deepWarnings deep)
      · exact said
      · exact absurd shared (not_sharedHead_of_mem_strictReports strict)
    · exact fun said => .inr (.inl (.inr said))

end Outline

/-- **So is the metadata of a text** whose code is not read. -/
theorem MetadataOutline.scanned_of_returned {options : Options} {text : Text}
    {outline : MetadataOutline} (returned : MetadataOutline.ofText options text = .ok outline) :
    Metadata.Scanned outline.requestMetadata outline.groupMetadata outline.fileMetadata
      outline.warnings := by
  unfold MetadataOutline.ofText at returned
  split at returned
  · cases returned
    exact Metadata.scanned_nil
  · next source _ =>
    unfold Metadata.outlineOf at returned
    cases scanned : Metadata.scan options source with
    | error digits =>
      rw [scanned] at returned
      cases returned
    | ok found =>
      rw [scanned] at returned
      cases returned
      exact (Metadata.scanned_of_scan scanned).attached (fun _ => rfl) (fun _ => rfl) (fun _ => rfl)

namespace Metadata

/-- **What is found in a text**, with its code or without it: requests, groups, the block about the
file, and warnings. -/
inductive Extracted (reader : TreeReader) (options : Options) (text : Text) :
    List MetadataBlock → List MetadataBlock → Option MetadataBlock → List Text → Prop
  | withCode {outline : Outline} : Outline.ofTextBy reader options text = .ok outline →
      Extracted reader options text outline.requestMetadata outline.groupMetadata
        outline.fileMetadata
        outline.warnings
  | alone {outline : MetadataOutline} : MetadataOutline.ofText options text = .ok outline →
      Extracted reader options text outline.requestMetadata outline.groupMetadata
        outline.fileMetadata
        outline.warnings

/-- **Lookup and the report of duplicates fit together.** Of whatever blocks, the identifiers that
several of them carry are listed, each of them once and in the order of their second coming. Of the
blocks of a text, a request or a group is found by its identifier exactly if no block before it has
the same one, so that all are found exactly if no duplicates are reported; the block about the file
comes last. -/
theorem duplicates_and_lookup :
    (∀ blocks : List MetadataBlock, ListsRepeated (blocks.map (·.id)) (duplicateIds blocks)) ∧
    ∀ (reader : TreeReader) (options : Options) (text : Text) (requests groups : List MetadataBlock)
      (file : Option MetadataBlock) (warnings : List Text),
      Extracted reader options text requests groups file warnings →
        LooksUp requests groups file warnings := by
  refine ⟨listsRepeated_duplicateIds,
    fun reader options text requests groups file warnings extracted => ?_⟩
  cases extracted with
  | withCode returned => exact (Outline.scanned_of_returned returned).looksUp
  | alone returned => exact (MetadataOutline.scanned_of_returned returned).looksUp

/-- Two requests of one identifier, once as a number and once as a text. -/
def sharedText : String :=
  "/* @apicize-request-metadata \x7b\"id\":7\x7d @apicize-request-metadata-end */\n" ++
  "/* @apicize-request-metadata \x7b\"id\":\"7\"\x7d @apicize-request-metadata-end */"

/-- Of two requests that share their identifier the first one is found, and the identifier is
reported. -/
theorem duplicates_and_lookup_shared : ∃ outline first second,
    MetadataOutline.ofText .usual (Text.ofString sharedText) = .ok outline ∧
      outline.requestMetadata = [first, second] ∧ first.id = second.id ∧
      find? outline.requestMetadata outline.groupMetadata outline.fileMetadata first.id =
        some first ∧
      find? outline.requestMetadata outline.groupMetadata outline.fileMetadata second.id ≠
        some second ∧
      ∃ warning ∈ outline.warnings, sharedHead <+: warning := by
  have ids : (MetadataOutline.ofText .usual (Text.ofString sharedText)).map (fun outline =>
      (outline.requestMetadata.map (·.id), outline.groupMetadata.map (·.id))) = .ok (["7", "7"],
        []) := by
    decide +kernel
  cases returned : MetadataOutline.ofText .usual (Text.ofString sharedText) with
  | error fault =>
    rw [returned] at ids
    cases ids
  | ok outline =>
    rw [returned, Except.map] at ids
    obtain ⟨requests, groups⟩ := Prod.mk.inj (Except.ok.inj ids)
    obtain ⟨first, rest, listed, firstId, others⟩ := List.map_eq_cons_iff.mp requests
    obtain ⟨second, rfl, secondId⟩ := List.map_eq_singleton_iff.mp others
    have noGroups : outline.groupMetadata = [] := List.map_eq_nil_iff.mp groups
    have looksUp := duplicates_and_lookup.2 SyntaxTree.reader _ _ _ _ _ _ (.alone returned)
    have parts : outline.requestMetadata ++ outline.groupMetadata = [first, second] := by
      rw [listed, noGroups, List.append_nil]
    refine ⟨outline, first, second, rfl, listed, firstId.trans secondId.symm, ?_, ?_, ?_⟩
    · exact (looksUp.first [] first [second] parts).mpr (by simp)
    · rw [Ne, looksUp.first [first] second [] parts]
      simp [firstId, secondId]
    · have shared : duplicateIds (outline.requestMetadata ++ outline.groupMetadata) = ["7"] := by
        rw [parts, duplicateIds, List.map_cons, List.map_cons, List.map_nil, firstId, secondId]
        rfl
      have said := (looksUp.reported _).mpr ⟨by rw [shared]; simp, rfl⟩
      exact ⟨_, said⟩

end Metadata

end TestOutline
