/-
**What holds of options that are read.**

Each field of options is read by itself, from the member of its name. No accepted bound is negative,
and the limit of depths is what its member denotes; so it is negative where a text or a number
without a fraction denotes that, while a negative integer is refused. Integers are read from texts
by any reader of which enough is known.

* `Options.ReadFrom`, `Options.ofMembers_eq_ok_iff`: options are read field by field.
* `Options.Bounded`: no bound among the options is negative.
* `Options.bounded_characterised`: options are bounded where their member for depths denotes no
  negative integer.
-/

import TestOutline.Proofs.Record.Denotes

namespace TestOutline

/-! ### Readings of several parts -/

namespace Reading

variable {α β : Type}

theorem map_eq_ok_iff {change : α → β} {reading : Reading α} {value : β} :
    change <$> reading = .ok value ↔ ∃ part, reading = .ok part ∧ change part = value := by
  constructor
  · intro read
    cases reading with
    | ok part => exact ⟨part, rfl, Reading.ok.inj read⟩
    | refused problems => cases read
  · rintro ⟨part, rfl, rfl⟩
    rfl

theorem seq_eq_ok_iff {change : Reading (α → β)} {reading : Reading α} {value : β} :
    change <*> reading = .ok value ↔
      ∃ function part, change = .ok function ∧ reading = .ok part ∧ function part = value := by
  constructor
  · intro read
    cases change with
    | ok function =>
      cases reading with
      | ok part => exact ⟨function, part, rfl, rfl, Reading.ok.inj read⟩
      | refused problems => cases read
    | refused problems => cases reading <;> cases read
  · rintro ⟨function, part, rfl, rfl, rfl⟩
    rfl

/-- What keeps a value from being read, which is nothing where it is read. -/
def problems : Reading α → List Problem
  | .ok _ => []
  | .refused problems => problems

theorem problems_map (change : α → β) (reading : Reading α) :
    (change <$> reading).problems = reading.problems := by
  cases reading <;> rfl

theorem problems_seq (change : Reading (α → β)) (reading : Reading α) :
    (change <*> reading).problems = change.problems ++ reading.problems := by
  cases change with
  | ok change => cases reading <;> rfl
  | refused problems =>
    cases reading with
    | ok value => exact (List.append_nil problems).symm
    | refused others => rfl

end Reading

namespace Options

/-- **Options that are read from members**, with the items that stand for patterns. -/
structure ReadFrom (ofText : Text → Reading Int) (members : List (Text × Json))
    (items : Option (List Json)) (options : Options) : Prop where
  preserveFormatting : flag members "preserve_formatting" true = .ok options.preserveFormatting
  includeComments : flag members "include_comments" true = .ok options.includeComments
  extractHelpers : flag members "extract_helpers" true = .ok options.extractHelpers
  extractTypes : flag members "extract_types" false = .ok options.extractTypes
  namePatterns : Reading.namePatterns items = .ok options.namePatterns
  maxNestingDepth :
    Reading.withDefault members "max_nesting_depth" none (Reading.depthLimitBy ofText) =
    .ok options.maxNestingDepth
  strictMode : flag members "strict_mode" false = .ok options.strictMode
  validateSyntax : flag members "validate_syntax" false = .ok options.validateSyntax
  validateJson : flag members "validate_json" true = .ok options.validateJson
  languageName :
    Reading.withDefault members "language" none (fun json => (Reading.text json).map some) =
    .ok options.languageName
  lookbackChars : Reading.withDefault members "metadata_lookback_chars" usual.lookbackChars
    (Reading.naturalBy ofText) = .ok options.lookbackChars
  lookaheadLines : Reading.withDefault members "test_code_lookahead_lines" usual.lookaheadLines
    (Reading.naturalBy ofText) = .ok options.lookaheadLines

variable {ofText : Text → Reading Int} {members : List (Text × Json)} {items : Option (List Json)}
  {options : Options}

theorem ofMembersBy_eq_ok_iff :
    ofMembersBy ofText members items = .ok options ↔ ReadFrom ofText members items options := by
  constructor
  · intro read
    simp only [ofMembersBy, Reading.seq_eq_ok_iff, Reading.map_eq_ok_iff] at read
    -- The fields are peeled off from the last one on.
    obtain ⟨_, _, read, lookaheadLines, rfl⟩ := read
    obtain ⟨_, _, read, lookbackChars, rfl⟩ := read
    obtain ⟨_, _, read, languageName, rfl⟩ := read
    obtain ⟨_, _, read, validateJson, rfl⟩ := read
    obtain ⟨_, _, read, validateSyntax, rfl⟩ := read
    obtain ⟨_, _, read, strictMode, rfl⟩ := read
    obtain ⟨_, _, read, maxNestingDepth, rfl⟩ := read
    obtain ⟨_, _, read, namePatterns, rfl⟩ := read
    obtain ⟨_, _, read, extractTypes, rfl⟩ := read
    obtain ⟨_, _, read, extractHelpers, rfl⟩ := read
    obtain ⟨_, _, read, includeComments, rfl⟩ := read
    obtain ⟨_, preserveFormatting, rfl⟩ := read
    exact {
      preserveFormatting, includeComments, extractHelpers, extractTypes, namePatterns,
      maxNestingDepth, strictMode, validateSyntax, validateJson, languageName, lookbackChars,
      lookaheadLines }
  · intro fields
    unfold ofMembersBy
    rw [fields.preserveFormatting, fields.includeComments, fields.extractHelpers,
      fields.extractTypes, fields.namePatterns, fields.maxNestingDepth, fields.strictMode,
      fields.validateSyntax, fields.validateJson, fields.languageName, fields.lookbackChars,
      fields.lookaheadLines]
    rfl

/-- The problems with the limit of depths are among those with the options. -/
theorem mem_problems_ofMembersBy {problem : Problem}
    (listed : problem ∈
      (Reading.withDefault members "max_nesting_depth" none
        (Reading.depthLimitBy ofText)).problems) :
    problem ∈ (ofMembersBy ofText members items).problems := by
  simp only [ofMembersBy, Reading.problems_seq, Reading.problems_map, List.mem_append]
  tauto

end Options

/-! ### Members -/

theorem Text.ofString_injective : Function.Injective Text.ofString := by
  intro first second same
  exact String.toList_inj.mp (List.map_injective_iff.mpr (fun _ _ => CodePoint.scalar.inj) same)

/-- A value without its members of a key. -/
def Json.without (key : String) : Json → Json
  | .object members => .object (members.filter fun member => member.1 != Text.ofString key)
  | json => json

namespace Reading

variable {α : Type} {members : List (Text × Json)} {name : String}

theorem withDefault_eq_ok_iff {default value : α} {read : Json → Reading α} :
    withDefault members name default read = .ok value ↔
      (member? members name = none ∧ default = value) ∨
        ∃ json, member? members name = some json ∧ read json = .ok value := by
  unfold withDefault
  cases member? members name with
  | none => simp
  | some json => simp [under_eq_ok_iff]

/-- The other members are found as before. -/
theorem member?_without {key : String} (other : name ≠ key) :
    member? (members.filter fun member => member.1 != Text.ofString key) name =
      member? members name := by
  have otherText : Text.ofString name ≠ Text.ofString key :=
    fun same => other (Text.ofString_injective same)
  unfold member?
  rw [List.find?_filter]
  congr 2
  funext member
  by_cases isName : member.1 = Text.ofString name
  · simp [isName, otherText]
  · simp [isName]

theorem member?_without_self (key : String) :
    member? (members.filter fun member => member.1 != Text.ofString key) key = none := by
  rw [member?, Option.map_eq_none_iff, List.find?_eq_none]
  intro member kept
  exact bne_iff_ne.mp (List.mem_filter.mp kept).2 ∘ beq_iff_eq.mp

end Reading

/-- **The limit of depths that a value asks for**: its member for depths denotes it, and is no
switch. -/
def Json.AsksDepth (json : Json) (limit : Int) : Prop :=
  ∃ depth, json.get? "max_nesting_depth" = some depth ∧ ¬depth.IsSwitch ∧ depth.Denotes limit

namespace Options

/-- **No bound among the options is negative.** -/
structure Bounded (options : Options) : Prop where
  depth : ∀ limit, options.maxNestingDepth = some limit → 0 ≤ limit
  lookback : 0 ≤ options.lookbackChars
  lookahead : 0 ≤ options.lookaheadLines

section Reader

variable {ofText : Text → Reading Int} {members : List (Text × Json)} {items : Option (List Json)}
  {options : Options}

theorem naturalBy_nonneg {name : String} {default number : Int} (positive : 0 ≤ default)
    (read : Reading.withDefault members name default (Reading.naturalBy ofText) = .ok number) :
    0 ≤ number := by
  obtain ⟨-, rfl⟩ | ⟨json, -, read⟩ := Reading.withDefault_eq_ok_iff.mp read
  · exact positive
  · exact (Reading.naturalBy_eq_ok_iff.mp read).2

namespace ReadFrom

/-- Another limit of depths leaves the other fields as they are. -/
theorem withDepth {others : List (Text × Json)} (fields : ReadFrom ofText others items options)
    {limit : Option Int}
    (same : ∀ name ≠ "max_nesting_depth", Reading.member? members name =
      Reading.member? others name)
    (depth : Reading.withDefault members "max_nesting_depth" none (Reading.depthLimitBy ofText) =
      .ok limit) :
    ReadFrom ofText members items { options with maxNestingDepth := limit } := by
  have keep : ∀ {α : Type} {name : String} {default : α} {read : Json → Reading α},
      name ≠ "max_nesting_depth" →
      Reading.withDefault members name default read =
        Reading.withDefault others name default read := by
    intro α name default read other
    rw [Reading.withDefault, same name other, Reading.withDefault]
  exact {
    preserveFormatting := (keep (by decide)).trans fields.preserveFormatting
    includeComments := (keep (by decide)).trans fields.includeComments
    extractHelpers := (keep (by decide)).trans fields.extractHelpers
    extractTypes := (keep (by decide)).trans fields.extractTypes
    namePatterns := fields.namePatterns
    maxNestingDepth := depth
    strictMode := (keep (by decide)).trans fields.strictMode
    validateSyntax := (keep (by decide)).trans fields.validateSyntax
    validateJson := (keep (by decide)).trans fields.validateJson
    languageName := (keep (by decide)).trans fields.languageName
    lookbackChars := (keep (by decide)).trans fields.lookbackChars
    lookaheadLines := (keep (by decide)).trans fields.lookaheadLines }

variable (lax : Reading.ReadsIntegers ofText)

include lax

/-- The limit of depths that is read is the one that the members ask for. -/
theorem maxNestingDepth_eq_some_iff (fields : ReadFrom ofText members items options) {limit : Int} :
    options.maxNestingDepth = some limit ↔ (Json.object members).AsksDepth limit := by
  obtain ⟨absent, same⟩ | ⟨depth, found, read⟩ :=
    Reading.withDefault_eq_ok_iff.mp fields.maxNestingDepth
  · rw [← same]
    refine iff_of_false (fun some => nomatch some) ?_
    rintro ⟨depth, found, -⟩
    cases absent.symm.trans found
  · constructor
    · intro isLimit
      rw [isLimit] at read
      obtain ⟨noSwitch, read, -⟩ := Reading.depthLimitBy_eq_some_iff.mp read
      exact ⟨depth, found, noSwitch, lax.denotes read⟩
    · rintro ⟨other, same, noSwitch, denoted⟩
      cases found.symm.trans same
      cases limited : options.maxNestingDepth with
      | none =>
        rw [limited] at read
        exact absurd (Reading.isSwitch_of_depthLimitBy_eq_none read) noSwitch
      | some number =>
        rw [limited] at read
        obtain ⟨-, read, -⟩ := Reading.depthLimitBy_eq_some_iff.mp read
        rw [(lax.denotes read).unique denoted]

theorem bounded_iff (fields : ReadFrom ofText members items options) :
    options.Bounded ↔ ∀ limit, (Json.object members).AsksDepth limit → 0 ≤ limit := by
  constructor
  · intro bounded limit asked
    exact bounded.depth limit ((fields.maxNestingDepth_eq_some_iff lax).mpr asked)
  · intro positive
    exact {
      depth limit limited := positive limit ((fields.maxNestingDepth_eq_some_iff lax).mp limited)
      lookback := naturalBy_nonneg (by decide) fields.lookbackChars
      lookahead := naturalBy_nonneg (by decide) fields.lookaheadLines }

end ReadFrom

theorem readBy_object_eq_ok_iff {reading : Reading Options} :
    readBy ofText (.object members) = .ok reading ↔
      ∃ items, patternItems members = .ok items ∧ ofMembersBy ofText members items = reading := by
  show (patternItems members >>= fun items => pure (ofMembersBy ofText members items)) =
      .ok reading ↔ _
  cases patternItems members with
  | ok items =>
    exact ⟨fun same => ⟨items, rfl, Except.ok.inj same⟩,
      fun ⟨_, same, read⟩ => by cases same; exact congrArg _ read⟩
  | error fault => exact iff_of_false (fun same => nomatch same) (fun ⟨_, same, _⟩ => nomatch same)

/-- Options are read from the members of an object. -/
theorem exists_readFrom {json : Json} (accepted : readBy ofText json = .ok (.ok options)) :
    ∃ members items, json = .object members ∧ patternItems members = .ok items ∧
      ReadFrom ofText members items options := by
  cases json with
  | object members =>
    obtain ⟨items, found, read⟩ := readBy_object_eq_ok_iff.mp accepted
    exact ⟨members, items, rfl, found, ofMembersBy_eq_ok_iff.mp read⟩
  | _ => cases accepted

/-- **A negative integer is refused as a limit of depths**, whatever the other members are. -/
theorem refused_of_negative {json : Json} {number : Int}
    (given : json.get? "max_nesting_depth" = some (.int number)) (negative : number < 0)
    {reading : Reading Options} (gone : readBy ofText json = .ok reading) :
    ∃ problems, reading = .refused problems ∧
      ⟨[.field "max_nesting_depth"], .negativeDepth⟩ ∈ problems := by
  cases json with
  | object members =>
    obtain ⟨items, -, rfl⟩ := readBy_object_eq_ok_iff.mp gone
    have found : Reading.member? members "max_nesting_depth" = some (.int number) := given
    have refused : (⟨[.field "max_nesting_depth"], .negativeDepth⟩ : Problem) ∈
        (ofMembersBy ofText members items).problems := by
      refine mem_problems_ofMembersBy ?_
      rw [Reading.withDefault, found]
      show _ ∈ (Reading.under _ (if number < 0 then _ else _)).problems
      rw [if_pos negative]
      exact List.mem_singleton_self _
    cases read : ofMembersBy ofText members items with
    | ok options =>
      rw [read] at refused
      cases refused
    | refused problems =>
      rw [read] at refused
      exact ⟨problems, rfl, refused⟩
  | _ => cases given

theorem readBy_without_eq_ok_iff :
    readBy ofText ((Json.object members).without "max_nesting_depth") = .ok (.ok options) ↔
      ∃ items, patternItems members = .ok items ∧
        ofMembersBy ofText
          (members.filter fun member => member.1 != Text.ofString "max_nesting_depth") items =
          .ok options := by
  refine readBy_object_eq_ok_iff.trans ?_
  rw [patternItems, Reading.member?_without (by decide), ← patternItems]

/-- **A limit of depths is taken as its member is read**, where the other members are accepted; it
must not be negative only where it is an integer itself. -/
theorem accepted_iff {json depth : Json} {limit : Int}
    (given : json.get? "max_nesting_depth" = some depth) (noSwitch : ¬depth.IsSwitch)
    (noInt : depth = .int limit → 0 ≤ limit) :
    readBy ofText json = .ok (.ok options) ∧ options.maxNestingDepth = some limit ↔
      Reading.integerBy ofText depth = .ok limit ∧ options.maxNestingDepth = some limit ∧
        readBy ofText (json.without "max_nesting_depth") =
          .ok (.ok { options with maxNestingDepth := none }) := by
  cases json with
  | object members =>
    rw [readBy_object_eq_ok_iff, readBy_without_eq_ok_iff]
    constructor
    · rintro ⟨⟨items, found, fields⟩, limited⟩
      replace fields := ofMembersBy_eq_ok_iff.mp fields
      obtain ⟨absent, -⟩ | ⟨same, again, taken⟩ :=
        Reading.withDefault_eq_ok_iff.mp fields.maxNestingDepth
      · cases absent.symm.trans given
      · cases again.symm.trans given
        rw [limited] at taken
        refine ⟨(Reading.depthLimitBy_eq_some_iff.mp taken).2.1, limited, items, found,
          ofMembersBy_eq_ok_iff.mpr ?_⟩
        refine fields.withDepth (fun name other => Reading.member?_without other) ?_
        exact Reading.withDefault_eq_ok_iff.mpr (.inl ⟨Reading.member?_without_self _, rfl⟩)
    · rintro ⟨read, limited, items, found, fields⟩
      refine ⟨⟨items, found, ofMembersBy_eq_ok_iff.mpr ?_⟩, limited⟩
      have taken : Reading.withDefault members "max_nesting_depth" none
          (Reading.depthLimitBy ofText) =
          .ok (some limit) :=
        Reading.withDefault_eq_ok_iff.mpr (.inr ⟨depth, given,
          Reading.depthLimitBy_eq_some_iff.mpr ⟨noSwitch, read, noInt⟩⟩)
      rw [← limited] at taken
      exact (ofMembersBy_eq_ok_iff.mp fields).withDepth
        (fun name other => (Reading.member?_without other).symm) taken
  | _ => cases given

/-- What denotes a negative integer is no switch. -/
theorem not_isSwitch_of_negative {depth : Json} {limit : Int} (denoted : depth.Denotes limit)
    (negative : limit < 0) : ¬depth.IsSwitch := by
  intro switch
  cases denoted with
  | bool value => cases value <;> cases negative
  | float found =>
    have zero : (limit : ℚ) = 0 := Option.some.inj (found.symm.trans switch)
    exact absurd (Int.cast_eq_zero.mp zero) negative.ne
  | _ => exact switch

end Reader

/-- **Options are bounded where they ask for no negative limit of depths**; their other bounds are
never negative. A limit is what its member denotes, unless that is a switch. Of negative ones, an
integer is refused; a text or a number without a fraction that is read as such an integer is taken
for the limit, where the options are accepted without it, and it is read so wherever it denotes the
integer as it is documented. -/
theorem bounded_characterised (ofText : Text → Reading Int) (lax : Reading.ReadsIntegers ofText)
    (json : Json) :
    (∀ options, readBy ofText json = .ok (.ok options) →
      (∀ limit, options.maxNestingDepth = some limit ↔ json.AsksDepth limit) ∧
        (options.Bounded ↔ ∀ limit, json.AsksDepth limit → 0 ≤ limit) ∧
        0 ≤ options.lookbackChars ∧ 0 ≤ options.lookaheadLines) ∧
    ∀ depth limit, json.get? "max_nesting_depth" = some depth → depth.Denotes limit → limit < 0 →
      (depth = .int limit → ∀ reading, readBy ofText json = .ok reading →
        ∃ problems, reading = .refused problems ∧
          ⟨[.field "max_nesting_depth"], .negativeDepth⟩ ∈ problems) ∧
      (depth ≠ .int limit →
        (∀ options, readBy ofText json = .ok (.ok options) ↔
          Reading.integerBy ofText depth = .ok limit ∧ options.maxNestingDepth = some limit ∧
            readBy ofText (json.without "max_nesting_depth") =
              .ok (.ok { options with maxNestingDepth := none })) ∧
          (depth.Spells limit → Reading.integerBy ofText depth = .ok limit)) := by
  constructor
  · intro options accepted
    obtain ⟨members, items, rfl, -, fields⟩ := exists_readFrom accepted
    exact ⟨fun _ => fields.maxNestingDepth_eq_some_iff lax, fields.bounded_iff lax,
      naturalBy_nonneg (by decide) fields.lookbackChars,
      naturalBy_nonneg (by decide) fields.lookaheadLines⟩
  · intro depth limit given denoted negative
    have noSwitch := not_isSwitch_of_negative denoted negative
    refine ⟨?_, fun other => ⟨fun options => ?_, lax.integerBy_eq_ok⟩⟩
    · rintro rfl reading gone
      exact refused_of_negative given negative gone
    · rw [← accepted_iff given noSwitch fun same => absurd same other]
      refine (and_iff_left_of_imp fun accepted => ?_).symm
      obtain ⟨members, items, rfl, -, fields⟩ := exists_readFrom accepted
      exact (fields.maxNestingDepth_eq_some_iff lax).mpr ⟨depth, given, noSwitch, denoted⟩

/-- Options with a limit of depths only. -/
def limited (depth : Json) : Json := .object [("max_nesting_depth", depth)]

theorem bounded_characterised_limited :
    (∃ options, read (limited (.string " 1_0 ")) = .ok (.ok options) ∧ options.Bounded) ∧
      (∃ problems, read (limited (.int (-1))) = .ok (.refused problems) ∧
        ⟨[.field "max_nesting_depth"], .negativeDepth⟩ ∈ problems) ∧
      read (limited (.string "-1")) = .ok (.ok { usual with maxNestingDepth := some (-1) }) := by
  have lax := Reading.readsIntegers_integerOfText
  have ten : read (limited (.string " 1_0 ")) =
      .ok (.ok { usual with maxNestingDepth := some 10 }) := rfl
  have minusOne : Reading.integerBy Reading.integerOfText (.string "-1") = .ok (-1) := rfl
  refine ⟨⟨_, ten, ?_⟩, ?_, ?_⟩
  · obtain ⟨asks, bounded, -⟩ := (bounded_characterised _ lax _).1 _ ten
    refine bounded.mpr fun limit asked => ?_
    cases (asks limit).mpr asked
    decide
  · obtain ⟨problems, refused, listed⟩ :=
      ((bounded_characterised _ lax (limited (.int (-1)))).2 _ _ rfl (.int (-1)) (by decide)).1
        rfl _ rfl
    exact ⟨problems, congrArg Except.ok refused, listed⟩
  · obtain ⟨accepted, -⟩ := ((bounded_characterised _ lax (limited (.string "-1"))).2 _ _ rfl
      (lax.denotes minusOne) (by decide)).2 (fun same => nomatch same)
    exact (accepted _).mpr ⟨minusOne, rfl, rfl⟩

/-- **A negative limit of depths is accepted** where a text or a number without a fraction stands
for it. -/
theorem not_bounded_of_accepted :
    (read (limited (.string "-1")) = .ok (.ok { usual with maxNestingDepth := some (-1) }) ∧
      read (limited (.float (.ofDecimal true 10 (-1)))) =
        .ok (.ok { usual with maxNestingDepth := some (-1) })) ∧
      ¬∀ json options, read json = .ok (.ok options) → options.Bounded := by
  refine ⟨⟨rfl, rfl⟩, fun bounded => ?_⟩
  have depth :=
    (bounded (limited (.string "-1")) { usual with maxNestingDepth := some (-1) } rfl).depth
      (-1) rfl
  exact absurd depth (by decide)

end Options

end TestOutline
