/-
**Identifiers that come more than once.**

Identifiers are read one after the other. The scan knows which ones have come and lists one when it
comes for the second time. What it has listed after some of them can be told from these alone.

* `SecondAt`: an identifier comes for the second time at a place.
* `ListsRepeated`: a list has the identifiers that come more than once, each of them once, in the
  order in which they come for the second time.
* `ListsRepeated.second`, `ListsRepeated.other`: what one more identifier does to the list.
* `listsRepeated_duplicateIds`: the report on blocks is such a list; `duplicateIds_eq_nil_iff`: it
  is empty if all identifiers differ.
-/

import Mathlib.Data.List.Nodup
import TestOutline.Proofs.Metadata.Finding

namespace TestOutline.Metadata

variable {ids found : List Text} {id : Text} {place : Nat}

/-! ### Second comings -/

/-- **An identifier comes for the second time** at a place. -/
def SecondAt (ids : List Text) (id : Text) (place : Nat) : Prop :=
  ids[place]? = some id ∧ (ids.take place).count id = 1

theorem SecondAt.lt_length (second : SecondAt ids id place) : place < ids.length :=
  (List.getElem?_eq_some_iff.mp second.1).1

/-- What comes behind does not change where an identifier comes for the second time. -/
theorem SecondAt.append (second : SecondAt ids id place) (more : List Text) :
    SecondAt (ids ++ more) id place := by
  have inside := second.lt_length
  refine ⟨?_, ?_⟩
  · rw [List.getElem?_append_left inside]
    exact second.1
  · rw [List.take_append_of_le_length (Nat.le_of_lt inside)]
    exact second.2

/-- What came once before comes for the second time. -/
theorem secondAt_concat (came : ids.count id = 1) : SecondAt (ids ++ [id]) id ids.length :=
  ⟨by rw [List.getElem?_concat_length], by rw [List.take_left, came]⟩

/-! ### The list -/

/-- **A list has what comes more than once** among some identifiers: each of these once, in the
order of the places at which they come for the second time. -/
structure ListsRepeated (ids found : List Text) : Prop where
  nodup : found.Nodup
  mem_iff : ∀ id, id ∈ found ↔ 2 ≤ ids.count id
  inOrder : ∃ places : List Nat, places.Pairwise (· < ·) ∧ List.Forall₂ (SecondAt ids) found places

theorem listsRepeated_nil : ListsRepeated [] [] :=
  ⟨List.nodup_nil, by simp, [], List.Pairwise.nil, List.Forall₂.nil⟩

theorem count_concat (ids : List Text) (id other : Text) :
    (ids ++ [id]).count other = ids.count other + if id = other then 1 else 0 := by
  rw [List.count_append, List.count_singleton]
  simp only [beq_iff_eq]

namespace ListsRepeated

variable (lists : ListsRepeated ids found)

include lists

/-- **An identifier that comes for the second time** is listed behind the others. -/
theorem second (came : ids.count id = 1) : ListsRepeated (ids ++ [id]) (found ++ [id]) := by
  have fresh : id ∉ found := by
    rw [lists.mem_iff, came]
    omega
  obtain ⟨places, increasing, seconds⟩ := lists.inOrder
  refine ⟨?_, fun other => ?_, places ++ [ids.length], ?_, ?_⟩
  · exact List.nodup_append.mpr ⟨lists.nodup, List.nodup_singleton id, fun first member last same =>
      List.mem_singleton.mp same ▸ fun same => fresh (same ▸ member)⟩
  · rw [List.mem_append, List.mem_singleton, lists.mem_iff, count_concat]
    split
    · next same =>
      rw [← same]
      exact iff_of_true (.inr rfl) (by omega)
    · next different => simp [Ne.symm different]
  · refine List.pairwise_append.mpr
      ⟨increasing, List.pairwise_singleton _ _, fun place member last same => ?_⟩
    obtain ⟨_, _, second⟩ := exists_mem_of_forall₂ seconds.flip member
    rw [List.mem_singleton.mp same]
    exact SecondAt.lt_length second
  · exact List.rel_append (seconds.imp fun _ _ second => second.append _)
      (List.Forall₂.cons (secondAt_concat came) List.Forall₂.nil)

/-- **An identifier that comes for the first time**, or once more after it was listed, is passed
over. -/
theorem other (came : ids.count id ≠ 1) : ListsRepeated (ids ++ [id]) found := by
  obtain ⟨places, increasing, seconds⟩ := lists.inOrder
  refine ⟨lists.nodup, fun other => ?_, places, increasing,
    seconds.imp fun _ _ second => second.append _⟩
  rw [lists.mem_iff, count_concat]
  split
  · next same =>
    rw [← same]
    omega
  · rw [Nat.add_zero]

end ListsRepeated

/-- **What is listed after more identifiers**, if those before and what they lead to are known. -/
theorem listsRepeated_repeated {before seen : List Text} (known : ∀ id, id ∈ seen ↔ id ∈ before)
    (lists : ListsRepeated before found) (rest : List Text) :
    ListsRepeated (before ++ rest) (repeated seen found rest) := by
  induction rest generalizing before seen found with
  | nil =>
    rw [List.append_nil, repeated]
    exact lists
  | cons id rest ih =>
    have second : (seen.contains id = true ∧ (!found.contains id) = true) ↔
        before.count id = 1 := by
      rw [Bool.not_eq_true', ← Bool.not_eq_true, List.contains_iff_mem, List.contains_iff_mem,
        known, lists.mem_iff, ← List.one_le_count_iff]
      omega
    rw [repeated, List.append_cons]
    refine ih (fun other =>
      by rw [List.mem_cons, known, List.mem_append, List.mem_singleton, or_comm]) ?_
    by_cases came : before.count id = 1
    · rw [if_pos (second.mpr came)]
      exact lists.second came
    · rw [if_neg (mt second.mp came)]
      exact lists.other came

/-- **The report on blocks** has the identifiers that several of them carry. -/
theorem listsRepeated_duplicateIds (blocks : List MetadataBlock) :
    ListsRepeated (blocks.map (·.id)) (duplicateIds blocks) :=
  listsRepeated_repeated (fun _ => Iff.rfl) listsRepeated_nil _

theorem duplicateIds_eq_nil_iff {blocks : List MetadataBlock} :
    duplicateIds blocks = [] ↔ (blocks.map (·.id)).Nodup := by
  rw [List.eq_nil_iff_forall_not_mem, List.nodup_iff_count_le_one]
  refine forall_congr' fun id => ?_
  rw [(listsRepeated_duplicateIds blocks).mem_iff]
  omega

end TestOutline.Metadata
