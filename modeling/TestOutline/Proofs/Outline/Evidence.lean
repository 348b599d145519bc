/-
**The rules that show a request.**

A block exercises a request if its name says so, if request metadata ends shortly before it, or if
its body mentions a request. Each rule is told here by what there has to be, not by how it is looked
for, and the first that holds is the evidence.

* `NamePattern.Fits`: a pattern is for blocks of a kind, and matches somewhere in a name.
* `followsMetadata_ofOptions_iff`: one end, found by bisection, tells whether any of the ends lies
  in the window before an offset, in whatever order they are given and however often.
* `Mentions`: what a body says that shows a request.
* `Exercises`: the first rule that holds; `evidence?_eq_iff`: that is the evidence that is found,
  and no other.
-/

import Mathlib.Data.List.Sort
import TestOutline.Outline.Classifier
import TestOutline.Proofs.Metadata.Plain
import TestOutline.Proofs.Pattern.Matching

namespace TestOutline

/-! ### Names -/

/-- **A pattern fits the name of a block** if it is for all blocks or for those of its kind, and
matches somewhere in the name. -/
structure NamePattern.Fits (pattern : NamePattern) (kind : BlockKind) (name : Text) : Prop where
  forKind : pattern.kind = none ∨ pattern.kind = some kind
  found : ∃ before ahead next, name = before ++ ahead ∧
    pattern.pattern.regex.Matches ⟨before.reverse, ahead⟩ next

theorem NamePattern.holds_eq_true_iff {pattern : NamePattern} {kind : BlockKind} {name : Text} :
    pattern.holds kind name = true ↔ pattern.Fits kind name := by
  rw [holds, Bool.and_eq_true, Bool.or_eq_true, Option.isNone_iff_eq_none, beq_iff_eq,
    Pattern.occursIn, Regex.occursIn_eq_true_iff]
  exact ⟨fun ⟨forKind, found⟩ => ⟨forKind, found⟩, fun fits => ⟨fits.forKind, fits.found⟩⟩

namespace Classifier

variable {options : Options} {kind : BlockKind} {name rawBody : Text} {start : Int}

theorem matchesName_ofOptions_iff (ends : List Int) :
    (ofOptions options ends).matchesName kind name = true ↔
      ∃ pattern ∈ options.patterns, pattern.Fits kind name := by
  simp only [matchesName, ofOptions, List.any_eq_true, NamePattern.holds_eq_true_iff]

/-! ### Metadata -/

theorem followsMetadata_eq_true_iff {classifier : Classifier}
    (sorted : classifier.metadataEnds.toList.Pairwise (· ≤ ·)) (start : Int) :
    classifier.followsMetadata start = true ↔
      ∃ stop ∈ classifier.metadataEnds.toList, start - classifier.lookbackChars ≤ stop ∧
        stop ≤ start := by
  rw [Bisect.exists_mem_window_iff sorted, followsMetadata]
  cases classifier.metadataEnds[Bisect.lowerBound classifier.metadataEnds
    (start - classifier.lookbackChars)]? with
  | none => simp
  | some stop => simp

/-- **One end tells whether any of the ends** lies in the window before an offset. -/
theorem followsMetadata_ofOptions_iff (options : Options) (ends : List Int) (start : Int) :
    (ofOptions options ends).followsMetadata start = true ↔
      ∃ stop ∈ ends, start - options.lookbackChars ≤ stop ∧ stop ≤ start := by
  have sorted : (ofOptions options ends).metadataEnds.toList.Pairwise (· ≤ ·) :=
    List.pairwise_mergeSort' (· ≤ ·) ends
  rw [followsMetadata_eq_true_iff sorted]
  have same : ∀ stop, stop ∈ (ofOptions options ends).metadataEnds.toList ↔ stop ∈ ends :=
    fun stop => List.mem_mergeSort
  simp only [same]
  rfl

/-! ### Bodies -/

/-- **A body mentions a request**: one of the words that show it being used, or the call of a method
that makes one, with blanks before its parenthesis or not. -/
inductive Mentions (body : Text) : Prop
  | word (word : Text) : word ∈ indicators → word <:+: body → Mentions body
  | call (method blanks : Text) : method ∈ requestMethods → blanks.isBlank = true →
      method ++ blanks ++ [.scalar '('] <:+: body → Mentions body

theorem startsCall_eq_true_iff {method text : Text} : startsCall method text = true ↔
    ∃ blanks : Text, blanks.isBlank = true ∧ method ++ blanks ++ [.scalar '('] <+: text := by
  rw [startsCall, Bool.and_eq_true, List.isPrefixOf_iff_prefix, beq_iff_eq]
  constructor
  · rintro ⟨⟨rest, rfl⟩, opens⟩
    rw [List.drop_left] at opens
    obtain ⟨behind, same⟩ := List.head?_eq_some_iff.mp opens
    obtain ⟨blanks, blank, rfl⟩ := (Text.stripStart_eq_cons_iff (by decide)).mp same
    exact ⟨blanks, blank, behind, by simp⟩
  · rintro ⟨blanks, blank, behind, rfl⟩
    have opens : Text.stripStart (blanks ++ .scalar '(' :: behind) = .scalar '(' :: behind :=
      (Text.stripStart_eq_cons_iff (by decide)).mpr ⟨blanks, blank, rfl⟩
    simp only [List.append_assoc, List.drop_left, List.cons_append, List.nil_append, opens,
      List.head?_cons, and_true]
    exact List.prefix_append _ _

theorem callsRequestMethod_eq_true_iff {body : Text} : callsRequestMethod body = true ↔
    ∃ method ∈ requestMethods, ∃ blanks : Text, blanks.isBlank = true ∧
      method ++ blanks ++ [.scalar '('] <:+: body := by
  induction body with
  | nil => simp [callsRequestMethod]
  | cons point rest ih =>
    rw [callsRequestMethod, Bool.or_eq_true, List.any_eq_true, ih]
    simp only [startsCall_eq_true_iff, List.infix_cons_iff, and_or_left, exists_or]

theorem mentionsRequest_eq_true_iff {body : Text} :
    mentionsRequest body = true ↔ Mentions body := by
  rw [mentionsRequest, Bool.or_eq_true, List.any_eq_true, callsRequestMethod_eq_true_iff]
  simp only [Text.contains_iff_infix]
  constructor
  · rintro (⟨word, member, inside⟩ | ⟨method, member, blanks, blank, inside⟩)
    · exact .word word member inside
    · exact .call method blanks member blank inside
  · rintro (⟨word, member, inside⟩ | ⟨method, blanks, member, blank, inside⟩)
    · exact .inl ⟨word, member, inside⟩
    · exact .inr ⟨method, member, blanks, blank, inside⟩

/-- What a part of a body mentions, the body mentions. -/
theorem Mentions.mono {part body : Text} (within : part <:+: body) (mentions : Mentions part) :
    Mentions body := by
  cases mentions with
  | word word member inside => exact .word word member (inside.trans within)
  | call method blanks member blank inside =>
    exact .call method blanks member blank (inside.trans within)

/-! ### The first rule that holds -/

/-- A name says that a block exercises a request. -/
def NamesRequest (options : Options) (kind : BlockKind) (name : Text) : Prop :=
  ∃ pattern ∈ options.patterns, pattern.Fits kind name

/-- Some request metadata ends in the window before an offset. -/
def FollowsRequest (options : Options) (requests : List MetadataBlock) (start : Int) : Prop :=
  ∃ request ∈ requests, start - options.lookbackChars ≤ request.endOffset ∧
    request.endOffset ≤ start

/-- **The first rule that holds of a block**, if one does, for the request metadata of its
source. -/
inductive Exercises (options : Options) (requests : List MetadataBlock) (kind : BlockKind)
    (name rawBody : Text) (start : Int) : Option Evidence → Prop
  | name : NamesRequest options kind name →
      Exercises options requests kind name rawBody start (some .name)
  | metadata : ¬ NamesRequest options kind name → FollowsRequest options requests start →
      Exercises options requests kind name rawBody start (some .metadata)
  | content : ¬ NamesRequest options kind name → ¬ FollowsRequest options requests start →
      Mentions rawBody →
      Exercises options requests kind name rawBody start (some .content)
  | none : ¬ NamesRequest options kind name → ¬ FollowsRequest options requests start →
      ¬ Mentions rawBody →
      Exercises options requests kind name rawBody start none

/-- **The evidence is the first rule that holds**, and no other. -/
theorem evidence?_eq_iff {requests : List MetadataBlock} {evidence : Option Evidence} :
    (ofOptions options (requests.map (·.endOffset))).evidence? kind name rawBody start = evidence ↔
      Exercises options requests kind name rawBody start evidence := by
  have named : (ofOptions options (requests.map (·.endOffset))).matchesName kind name = true ↔
      NamesRequest options kind name := matchesName_ofOptions_iff _
  have follows : (ofOptions options (requests.map (·.endOffset))).followsMetadata start = true ↔
      FollowsRequest options requests start := by
    rw [followsMetadata_ofOptions_iff]
    simp only [List.mem_map, exists_exists_and_eq_and]
    rfl
  have mentions : mentionsRequest rawBody = true ↔ Mentions rawBody := mentionsRequest_eq_true_iff
  rw [evidence?]
  constructor
  · rintro rfl
    split
    · next holds => exact .name (named.mp holds)
    · next unnamed =>
      rw [named] at unnamed
      split
      · next holds => exact .metadata unnamed (follows.mp holds)
      · next apart =>
        rw [follows] at apart
        split
        · next holds => exact .content unnamed apart (mentions.mp holds)
        · next silent => exact .none unnamed apart (mt mentions.mpr silent)
  · rintro (holds | ⟨unnamed, holds⟩ | ⟨unnamed, apart, holds⟩ | ⟨unnamed, apart, silent⟩)
    · rw [if_pos (named.mpr holds)]
    · rw [if_neg (mt named.mp unnamed), if_pos (follows.mpr holds)]
    · rw [if_neg (mt named.mp unnamed), if_neg (mt follows.mp apart), if_pos (mentions.mpr holds)]
    · rw [if_neg (mt named.mp unnamed), if_neg (mt follows.mp apart),
        if_neg (mt mentions.mp silent)]

end Classifier

end TestOutline
