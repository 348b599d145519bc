/-
**What a mask hides of a program.**

The text of a program is told by a grammar: comments, strings and templates, and code between them.
A template holds code in its substitutions, and there comments, strings and templates come again, to
any depth. A mask knows none of this nesting. It takes a quote and what follows up to the next one
that stands behind no backslash, and takes a string to end with its line.

* `Hidden`, `TemplateBody`, `InnerCode`, `Program`: the grammar, with what each code point belongs
  to.
* `IsWhole`: what a mask takes as a whole; `masked_append_of_isWhole`.
* `StopsEarly`: a string or a template that is not taken as a whole; its rest is taken to be code.
* `masked_program`: when the mask of a program tells its parentheses right.
-/

import TestOutline.Proofs.Metadata.Masked

namespace TestOutline.Mask

variable {quote stop point : CodePoint} {text body rest : Text}

/-! ### The grammar of a program -/

abbrev backslash : CodePoint := .scalar '\\'

abbrev backtick : CodePoint := .scalar '\x60'

abbrev carriageReturn : CodePoint := .scalar '\r'

/-- What a code point in a comment, a string or a template belongs to. -/
inductive Inside where
  | comment
  | string
  /-- The text of a template outside its substitutions, with the marks of both. -/
  | template
  /-- Code in a substitution of a template. -/
  | substitution
  deriving DecidableEq, Repr

/-- A text with what its code points belong to. -/
abbrev Marked (Part : Type) := List (CodePoint × Part)

/-- A text that belongs to one part. -/
def mark {Part : Type} (part : Part) (text : Text) : Marked Part := text.map (·, part)

def points {Part : Type} (marked : Marked Part) : Text := marked.map Prod.fst

theorem points_mark {Part : Type} (part : Part) (text : Text) : points (mark part text) = text := by
  simp [points, mark, Function.comp_def]

theorem points_append {Part : Type} (front behind : Marked Part) :
    points (front ++ behind) = points front ++ points behind :=
  List.map_append

/-- Something in a program: all of it is told to be in something. -/
def within (part : Marked Inside) : Marked (Option Inside) := part.map (Prod.map id some)

theorem points_within (part : Marked Inside) : points (within part) = points part := by
  simp [points, within]

/-- **What stands between the quotes of a string**: no line end, unless a backslash stands before
it. -/
inductive StringBody (quote : CodePoint) : Text → Prop
  | nil : StringBody quote []
  | bare {point : CodePoint} {rest : Text} : point ≠ quote → point ≠ backslash →
      point ≠ Text.lineFeed →
      point ≠ carriageReturn → StringBody quote rest → StringBody quote (point :: rest)
  | escaped {point : CodePoint} {rest : Text} : StringBody quote rest →
      StringBody quote (backslash :: point :: rest)
  /-- A line end of two code points behind a backslash. -/
  | continued {rest : Text} : StringBody quote rest →
      StringBody quote (backslash :: carriageReturn :: Text.lineFeed :: rest)

mutual

/-- **A comment, a string or a template.** A line comment is told with its line end. -/
inductive Hidden : Marked Inside → Prop
  | lineComment {body : Text} : Text.lineFeed ∉ body →
      Hidden (mark .comment ("//" ++ (body ++ [Text.lineFeed])))
  | blockComment {body : Text} : ¬ "*/" <:+: body → Hidden (mark .comment ("/*" ++ (body ++ "*/")))
  | string {quote : CodePoint} {body : Text} : quote = .scalar '\'' ∨ quote = .scalar '"' →
      StringBody quote body →
      Hidden (mark .string (quote :: (body ++ [quote])))
  | template {body : Marked Inside} : TemplateBody body →
      Hidden ((backtick, .template) :: (body ++ [(backtick, .template)]))

/-- **What stands between the marks of a template**: text, and substitutions with code in them. -/
inductive TemplateBody : Marked Inside → Prop
  | nil : TemplateBody []
  | bare {point : CodePoint} {rest : Marked Inside} : point ≠ backtick → point ≠ backslash →
      ¬ (point = .scalar '$' ∧ rest.head?.map Prod.fst = some (.scalar '\x7b')) →
      TemplateBody rest →
      TemplateBody ((point, .template) :: rest)
  | escaped {point : CodePoint} {rest : Marked Inside} : TemplateBody rest →
      TemplateBody ((backslash, .template) :: (point, .template) :: rest)
  | substitution {code rest : Marked Inside} : InnerCode code → TemplateBody rest →
      TemplateBody ((.scalar '$', .template) :: (.scalar '\x7b', .template) ::
        (code ++ (.scalar '\x7d', .template) :: rest))

/-- **Code in a substitution.** Its braces belong together. -/
inductive InnerCode : Marked Inside → Prop
  | nil : InnerCode []
  | other {point : CodePoint} {rest : Marked Inside} : isQuote point = false → point ≠ .scalar '/' →
      point ≠ .scalar '\x7b' → point ≠ .scalar '\x7d' → InnerCode rest →
      InnerCode ((point, .substitution) :: rest)
  | braces {inner rest : Marked Inside} : InnerCode inner → InnerCode rest →
      InnerCode ((.scalar '\x7b', .substitution) ::
        (inner ++ (.scalar '\x7d', .substitution) :: rest))
  | hidden {part rest : Marked Inside} : Hidden part → InnerCode rest → InnerCode (part ++ rest)

end

/-- **A program**: code with comments, strings and templates of which something holds. What is in
none of these is told to be in nothing. At the end of a program a line comment has no line end. -/
inductive Program (holds : Text → Prop) : Marked (Option Inside) → Prop
  | nil : Program holds []
  | lastComment {body : Text} : Text.lineFeed ∉ body →
      Program holds (mark (some .comment) ("//" ++ body))
  | other {point : CodePoint} {rest : Marked (Option Inside)} : isQuote point = false →
      point ≠ .scalar '/' → Program holds rest → Program holds ((point, none) :: rest)
  | hidden {part : Marked Inside} {rest : Marked (Option Inside)} : Hidden part →
      holds (points part) →
      Program holds rest → Program holds (within part ++ rest)

theorem Program.weaken {holds : Text → Prop} {program : Marked (Option Inside)}
    (isProgram : Program holds program) :
    Program (fun _ => True) program := by
  induction isProgram with
  | nil => exact .nil
  | lastComment noFeed => exact .lastComment noFeed
  | other noQuote notSlash _ ih => exact .other noQuote notSlash ih
  | hidden hidden _ _ ih => exact .hidden hidden trivial ih

/-- **The parentheses of a program are told right in its mask**: none is shown that is in a comment,
in a string or in the text of a template, and all are that are in none of these. -/
def TellsParentheses (program : Marked (Option Inside)) : Prop :=
  ∀ (offset : Nat) (point : CodePoint) (inside : Option Inside), program[offset]? =
    some (point, inside) →
    point = .scalar '(' ∨ point = .scalar ')' →
    (inside = some .comment ∨ inside = some .string ∨ inside = some .template →
      (Text.masked (points program))[offset]? = some (.scalar ' ')) ∧
    (inside = none → (Text.masked (points program))[offset]? = some point)

/-! ### What a mask takes as a whole -/

/-- **What a mask passes over behind a quote**: neither the quote nor, unless it is a template, a
line end, but for those behind a backslash. -/
inductive QuotedBody (quote : CodePoint) : Text → Prop
  | nil : QuotedBody quote []
  | bare {point : CodePoint} {rest : Text} : point ≠ quote → point ≠ backslash →
      (point = Text.lineFeed → quote = backtick) → QuotedBody quote rest →
      QuotedBody quote (point :: rest)
  | escaped {point : CodePoint} {rest : Text} : QuotedBody quote rest →
      QuotedBody quote (backslash :: point :: rest)

/-- Where a mask takes a string or a template to end. -/
def Stops (quote stop : CodePoint) : Prop :=
  stop = quote ∨ (stop = Text.lineFeed ∧ quote ≠ backtick)

/-- **What a mask takes as a whole**: comments, and strings and templates that do not stop too
early. -/
inductive IsWhole : Text → Prop
  | lineComment {body : Text} : Text.lineFeed ∉ body → IsWhole ("//" ++ (body ++ [Text.lineFeed]))
  | blockComment {body : Text} : ¬ "*/" <:+: body → IsWhole ("/*" ++ (body ++ "*/"))
  | quoted {quote : CodePoint} {body : Text} : isQuote quote = true → QuotedBody quote body →
      IsWhole (quote :: (body ++ [quote]))

/-- The mask of a code point and what is behind it, by the state behind it. -/
theorem masked_cons (point : CodePoint) (rest : Text) : Text.masked (point :: rest) =
    (if afterCode point rest.head? = .code then point else blank point) ::
      blankedFrom (afterCode point rest.head?) rest := by
  simp only [Text.masked, blankedFrom, State.next, true_and]

theorem blankedFrom_of_ne {state : State} (hidden : state ≠ .code) (point : CodePoint)
    (rest : Text) :
    blankedFrom state (point :: rest) =
      blank point :: blankedFrom (state.next point rest.head?) rest := by
  rw [blankedFrom, if_neg fun kept => hidden kept.1]

theorem blankedFrom_lineComment (noFeed : Text.lineFeed ∉ body) (rest : Text) :
    blankedFrom .lineComment (body ++ rest) = body.map blank ++ blankedFrom .lineComment rest := by
  induction body with
  | nil => rfl
  | cons point body ih =>
    rw [List.mem_cons, not_or] at noFeed
    rw [List.cons_append, blankedFrom_of_ne (by decide), State.next, if_neg (Ne.symm noFeed.1),
      ih noFeed.2]
    rfl

theorem blankedFrom_blockComment (open_ : ¬ "*/" <:+: body) (rest : Text) :
    blankedFrom .blockComment (body ++ ("*/" ++ rest)) = (body ++ "*/").map blank ++
      blankedFrom .code rest := by
  induction body with
  | nil => rfl
  | cons point body ih =>
    rw [List.infix_cons_iff, not_or] at open_
    have goesOn : ¬ (point = .scalar '*' ∧
        (body ++ ("*/" ++ rest)).head? = some (.scalar '/')) := by
      rintro ⟨rfl, next⟩
      cases body with
      | nil => cases next
      | cons second body =>
        cases next
        exact open_.1 (List.prefix_append _ body)
    rw [List.cons_append, blankedFrom_of_ne (by decide), State.next, if_neg goesOn, ih open_.2]
    rfl

/-- **Behind a quote** a mask blanks out all up to where it stops. -/
theorem blankedFrom_quoted (isQuote : isQuote quote = true) (passes : QuotedBody quote body)
    (stops : Stops quote stop) (rest : Text) :
    blankedFrom (.quoted quote) (body ++ stop :: rest) =
      body.map blank ++ blank stop :: blankedFrom .code rest := by
  have notBackslash : quote ≠ backslash := by
    rintro rfl
    exact absurd isQuote (by decide)
  induction passes with
  | nil =>
    have ends : afterQuoted quote stop = .code := by
      unfold afterQuoted
      rcases stops with rfl | ⟨rfl, notTemplate⟩
      · rw [if_pos rfl]
      · split
        · rfl
        · rw [if_neg (by decide), if_pos ⟨rfl, notTemplate⟩]
    rw [List.nil_append, blankedFrom_of_ne (by simp), State.next, ends]
    rfl
  | @bare point body notQuote notEscape notFeed _ ih =>
    have goesOn : afterQuoted quote point = .quoted quote := by
      unfold afterQuoted
      rw [if_neg notQuote, if_neg notEscape, if_neg fun feed => feed.2 (notFeed feed.1)]
    rw [List.cons_append, blankedFrom_of_ne (by simp), State.next, goesOn, ih]
    rfl
  | @escaped point body _ ih =>
    have escapes : afterQuoted quote backslash = .escaped quote := by
      unfold afterQuoted
      rw [if_neg (Ne.symm notBackslash), if_pos rfl]
    rw [List.cons_append, blankedFrom_of_ne (by simp), State.next, escapes, List.cons_append,
      blankedFrom_of_ne (by simp), State.next, ih]
    rfl

/-- A quote is blanked out with all up to where it stops, and what is behind that is read as
code. -/
theorem masked_quoted (isQuote : isQuote quote = true) (passes : QuotedBody quote body)
    (stops : Stops quote stop) (rest : Text) : Text.masked (quote :: (body ++ stop :: rest)) =
      (quote :: (body ++ [stop])).map blank ++ rest.masked := by
  have opens : ∀ next, afterCode quote next = .quoted quote := by
    intro next
    have notSlash : quote ≠ .scalar '/' := by
      rintro rfl
      exact absurd isQuote (by decide)
    unfold afterCode
    rw [if_neg fun line => notSlash line.1, if_neg fun block => notSlash block.1, if_pos isQuote]
  rw [masked_cons, opens, if_neg (by simp), blankedFrom_quoted isQuote passes stops]
  simp [Text.masked]

/-- **What is taken as a whole is blanked out**, and what is behind it is read as code. -/
theorem masked_append_of_isWhole (whole : IsWhole text) (rest : Text) :
    Text.masked (text ++ rest) = text.map blank ++ rest.masked := by
  cases whole with
  | @lineComment body noFeed =>
    have opens : Text.masked ("//" ++ (body ++ [Text.lineFeed]) ++ rest) =
        ("//" : Text).map blank ++ blankedFrom .lineComment (body ++ (Text.lineFeed :: rest)) := by
      rw [List.append_assoc, List.append_assoc]
      rfl
    rw [opens, blankedFrom_lineComment noFeed, blankedFrom_of_ne (by decide), State.next,
      if_pos rfl]
    simp [Text.masked]
  | @blockComment body open_ =>
    have opens : Text.masked ("/*" ++ (body ++ "*/") ++ rest) =
        ("/*" : Text).map blank ++ blankedFrom .blockComment (body ++ ("*/" ++ rest)) := by
      rw [List.append_assoc, List.append_assoc]
      rfl
    rw [opens, blankedFrom_blockComment open_]
    simp [Text.masked]
  | @quoted quote body isQuote passes =>
    have parts : quote :: (body ++ [quote]) ++ rest = quote :: (body ++ quote :: rest) := by simp
    rw [parts, masked_quoted isQuote passes (.inl rfl)]

/-! ### Programs -/

/-- What a mask shows of a code point of a program. -/
def shown (entry : CodePoint × Option Inside) : CodePoint :=
  if entry.2 = none then entry.1 else blank entry.1

theorem map_shown_within (part : Marked Inside) :
    (within part).map shown = (points part).map blank := by
  simp [within, points, shown]

/-- A code point that opens nothing is shown. -/
theorem masked_cons_of_other (noQuote : isQuote point = false) (notSlash : point ≠ .scalar '/')
    (rest : Text) :
    Text.masked (point :: rest) = point :: rest.masked := by
  have stays : afterCode point rest.head? = .code :=
    afterCode_eq_code_iff.mpr ⟨noQuote, fun line => notSlash line.1, fun block => notSlash block.1⟩
  rw [masked_cons, stays, if_pos rfl]
  rfl

/-- **The mask of a program** whose strings and templates are taken as a whole shows what is in none
of these. -/
theorem masked_of_program {program : Marked (Option Inside)} (whole : Program IsWhole program) :
    Text.masked (points program) = program.map shown := by
  induction whole with
  | nil => rfl
  | @lastComment body noFeed =>
    have opens : Text.masked ("//" ++ body) = ("//" : Text).map blank ++
        blankedFrom .lineComment body := rfl
    have passes := blankedFrom_lineComment noFeed []
    rw [List.append_nil, blankedFrom, List.append_nil] at passes
    rw [points_mark, opens, passes, ← List.map_append, mark, List.map_map]
    rfl
  | @other point rest noQuote notSlash _ ih =>
    rw [points, List.map_cons, ← points, masked_cons_of_other noQuote notSlash, ih]
    rfl
  | @hidden part rest _ whole _ ih =>
    rw [points_append, points_within, masked_append_of_isWhole whole, ih, List.map_append,
      map_shown_within]

/-- **Where a mask shows a part as it should**, the parentheses of a program are told right if they
are behind it. -/
theorem tellsParentheses_append_iff {front behind : Marked (Option Inside)}
    (masked : Text.masked (points (front ++ behind)) = front.map shown ++
      Text.masked (points behind)) :
    TellsParentheses (front ++ behind) ↔ TellsParentheses behind := by
  constructor
  · intro tells offset point inside here
    have place := tells (front.length + offset) point inside
    rw [masked, List.getElem?_append_right (by simp), List.getElem?_append_right (by simp),
      List.length_map, Nat.add_sub_cancel_left] at place
    exact place here
  · intro tells offset point inside here parenthesis
    rw [masked]
    rcases Nat.lt_or_ge offset front.length with before | after
    · rw [List.getElem?_append_left before] at here
      have space : blank point = .scalar ' ' := by rcases parenthesis with rfl | rfl <;> rfl
      rw [List.getElem?_append_left (by simpa using before), List.getElem?_map, here]
      constructor
      · rintro (rfl | rfl | rfl) <;> exact congrArg some space
      · rintro rfl
        rfl
    · rw [List.getElem?_append_right after] at here
      rw [List.getElem?_append_right (by simpa using after), List.length_map]
      exact tells (offset - front.length) point inside here parenthesis

/-! ### Strings and templates that stop too early -/

theorem QuotedBody.append {front : Text} (passes : QuotedBody quote front)
    (goesOn : QuotedBody quote text) :
    QuotedBody quote (front ++ text) := by
  induction passes with
  | nil => exact goesOn
  | bare notQuote notEscape notFeed _ ih => exact .bare notQuote notEscape notFeed ih
  | escaped _ ih => exact .escaped ih

/-- **A mask passes over a text** up to its end, or to a backslash there, or to where it stops. -/
theorem exists_passed (quote : CodePoint) :
    (text : Text) → ∃ passed behind, text = passed ++ behind ∧
      QuotedBody quote passed ∧
      (behind = [] ∨ behind = [backslash] ∨ ∃ stop unread, behind = stop :: unread ∧
        Stops quote stop)
  | [] => ⟨[], [], rfl, .nil, .inl rfl⟩
  | [point] => by
    by_cases stops : Stops quote point
    · exact ⟨[], [point], rfl, .nil, .inr (.inr ⟨point, [], rfl, stops⟩)⟩
    · by_cases escape : point = backslash
      · exact ⟨[], [point], rfl, .nil, .inr (.inl (by rw [escape]))⟩
      · simp only [Stops, not_or, not_and, ne_eq, Decidable.not_not] at stops
        exact ⟨[point], [], rfl, .bare stops.1 escape stops.2 .nil, .inl rfl⟩
  | point :: second :: rest => by
    by_cases stops : Stops quote point
    · exact ⟨[], _, rfl, .nil, .inr (.inr ⟨point, second :: rest, rfl, stops⟩)⟩
    · by_cases escape : point = backslash
      · obtain ⟨passed, behind, rfl, passes, ends⟩ := exists_passed quote rest
        exact ⟨point :: second :: passed, behind, rfl, escape ▸ .escaped passes, ends⟩
      · obtain ⟨passed, behind, parts, passes, ends⟩ := exists_passed quote (second :: rest)
        simp only [Stops, not_or, not_and, ne_eq, Decidable.not_not] at stops
        exact ⟨point :: passed, behind,
          by rw [parts, List.cons_append], .bare stops.1 escape stops.2 passes, ends⟩

/-- A string is passed over, unless its line ends with two code points behind a backslash. -/
theorem StringBody.exists_passed (body : StringBody quote text) :
    ∃ passed behind, text = passed ++ behind ∧
      QuotedBody quote passed ∧
      (behind = [] ∨ ∃ unread, behind = Text.lineFeed :: unread ∧
        [backslash, carriageReturn] <:+ passed) := by
  induction body with
  | nil => exact ⟨[], [], rfl, .nil, .inl rfl⟩
  | @bare point rest notQuote notEscape notFeed _ _ ih =>
    obtain ⟨passed, behind, rfl, passes, ends⟩ := ih
    refine ⟨point :: passed, behind, rfl, .bare notQuote notEscape (absurd · notFeed) passes,
      ends.imp_right ?_⟩
    exact fun ⟨unread, same, suffix⟩ => ⟨unread, same, suffix.trans (List.suffix_cons _ _)⟩
  | @escaped point rest _ ih =>
    obtain ⟨passed, behind, rfl, passes, ends⟩ := ih
    refine ⟨backslash :: point :: passed, behind, rfl, .escaped passes, ends.imp_right ?_⟩
    exact fun ⟨unread, same, suffix⟩ => ⟨unread, same, suffix.trans (List.suffix_append [_, _] _)⟩
  | @continued rest _ _ =>
    exact ⟨[backslash, carriageReturn], _, rfl, .escaped .nil, .inr ⟨rest, rfl, List.suffix_rfl⟩⟩

/-- **A template is passed over** up to a mark of another one in it that stands behind no
backslash. -/
theorem TemplateBody.exists_passed : {body : Marked Inside} → TemplateBody body →
    ∃ passed behind, points body = passed ++ behind ∧ QuotedBody backtick passed ∧
      (behind = [] ∨ ∃ unread, behind = backtick :: unread)
  | _, .nil => ⟨[], [], rfl, .nil, .inl rfl⟩
  | _, @TemplateBody.bare point _ notMark notEscape _ goesOn => by
    obtain ⟨passed, behind, parts, passes, ends⟩ := goesOn.exists_passed
    exact ⟨point :: passed, behind, congrArg (point :: ·) parts,
      .bare notMark notEscape (fun _ => rfl) passes, ends⟩
  | _, @TemplateBody.escaped point _ goesOn => by
    obtain ⟨passed, behind, parts, passes, ends⟩ := goesOn.exists_passed
    exact ⟨backslash :: point :: passed, behind, congrArg (backslash :: point :: ·) parts,
      .escaped passes, ends⟩
  | _, @TemplateBody.substitution code rest _ goesOn => by
    obtain ⟨passed, behind, parts, passes, ends⟩ := goesOn.exists_passed
    obtain ⟨inner, others, code_eq, innerPasses, innerEnds⟩ :=
      Mask.exists_passed backtick (points code)
    have whole : points ((.scalar '$', .template) :: (.scalar '\x7b', .template) ::
        (code ++ (.scalar '\x7d', .template) :: rest) : Marked Inside) =
        .scalar '$' :: .scalar '\x7b' ::
          (inner ++ (others ++ .scalar '\x7d' :: (passed ++ behind))) := by
      rw [← parts, ← List.append_assoc, ← code_eq]
      simp [points]
    have opens {text : Text} (passes : QuotedBody backtick text) :
        QuotedBody backtick (.scalar '$' :: .scalar '\x7b' :: (inner ++ text)) :=
      .bare (by decide) (by decide) (fun _ => rfl) (.bare (by decide) (by decide) (fun _ => rfl)
        (innerPasses.append passes))
    -- The brace that closes the substitution is passed over, be it behind a backslash that the code
    -- ends with.
    rcases innerEnds with rfl | rfl | ⟨stop, unread, rfl, stops⟩
    · have closes : QuotedBody backtick (.scalar '\x7d' :: passed) :=
        .bare (by decide) (by decide) (fun _ => rfl) passes
      refine ⟨_, behind, ?_, opens closes, ends⟩
      rw [whole]
      simp
    · have closes : QuotedBody backtick (backslash :: .scalar '\x7d' :: passed) := .escaped passes
      refine ⟨_, behind, ?_, opens closes, ends⟩
      rw [whole]
      simp
    · obtain rfl | ⟨_, notTemplate⟩ := stops
      · refine ⟨_, _, ?_, opens .nil, .inr ⟨unread ++ .scalar '\x7d' :: (passed ++ behind), rfl⟩⟩
        rw [whole]
        simp
      · exact absurd rfl notTemplate

/-- **A string or a template is taken to end too early**: at the mark of a template that comes next
and stands behind no backslash, or at a line end of two code points behind a backslash. -/
structure StopsEarly (taken unread : Marked Inside) : Prop where
  hidden : Hidden (taken ++ unread)
  unread_ne : unread ≠ []
  stops : ∃ quote passed stop, points taken = quote :: (passed ++ [stop]) ∧ isQuote quote = true ∧
    QuotedBody quote passed ∧ (quote = backtick ∧ stop = backtick ∨
      quote ≠ backtick ∧ stop = Text.lineFeed ∧ [backslash, carriageReturn] <:+ passed)

/-- What is taken is blanked out, and the rest is read as code. -/
theorem StopsEarly.masked_append {taken unread : Marked Inside} (early : StopsEarly taken unread)
    (rest : Text) :
    Text.masked (points taken ++ rest) = (points taken).map blank ++ rest.masked := by
  obtain ⟨quote, passed, stop, parts, quoted, passes, reason⟩ := early.stops
  have stops : Stops quote stop :=
    reason.imp (fun template => template.2.trans template.1.symm) fun string =>
    ⟨string.2.1, string.1⟩
  have whole : quote :: (passed ++ [stop]) ++ rest = quote :: (passed ++ stop :: rest) := by simp
  rw [parts, whole, masked_quoted quoted passes stops]

/-- A part is cut where its text is. -/
theorem exists_of_points_eq {part : Marked Inside} {front behind : Text}
    (parts : points part = front ++ behind) :
    ∃ taken unread, part = taken ++ unread ∧ points taken = front ∧ points unread = behind := by
  obtain ⟨taken, unread, rfl, same, rest⟩ := List.map_eq_append_iff.mp parts
  exact ⟨taken, unread, rfl, same, rest⟩

/-- **What is not taken as a whole is a string or a template that stops too early.** -/
theorem exists_stopsEarly {part : Marked Inside} (hidden : Hidden part)
    (broken : ¬ IsWhole (points part)) :
    ∃ taken unread, part = taken ++ unread ∧ StopsEarly taken unread := by
  have found : ∃ quote passed stop unread, points part = quote :: (passed ++ [stop]) ++ unread ∧
      unread ≠ [] ∧
      isQuote quote = true ∧ QuotedBody quote passed ∧ (quote = backtick ∧ stop = backtick ∨
        quote ≠ backtick ∧ stop = Text.lineFeed ∧ [backslash, carriageReturn] <:+ passed) := by
    cases hidden with
    | lineComment noFeed =>
      rw [points_mark] at broken
      exact absurd (.lineComment noFeed) broken
    | blockComment open_ =>
      rw [points_mark] at broken
      exact absurd (.blockComment open_) broken
    | @string quote body isString stringBody =>
      rw [points_mark] at broken ⊢
      have quoted : isQuote quote = true := by rcases isString with rfl | rfl <;> decide
      have notTemplate : quote ≠ backtick := by rcases isString with rfl | rfl <;> decide
      obtain ⟨passed, behind, rfl, passes, rfl | ⟨unread, rfl, continued⟩⟩ :=
        stringBody.exists_passed
      · rw [List.append_nil] at broken
        exact absurd (.quoted quoted passes) broken
      · exact ⟨quote, passed, Text.lineFeed, unread ++ [quote], by simp, by simp, quoted, passes,
          .inr ⟨notTemplate, rfl, continued⟩⟩
    | @template body templateBody =>
      have parts : points
          ((backtick, .template) :: (body ++ [(backtick, .template)]) : Marked Inside) =
          backtick :: (points body ++ [backtick]) := by simp [points]
      rw [parts] at broken ⊢
      obtain ⟨passed, behind, same, passes, rfl | ⟨unread, rfl⟩⟩ := templateBody.exists_passed
      · rw [same, List.append_nil] at broken
        exact absurd (.quoted (by decide) passes) broken
      · exact ⟨backtick, passed, backtick, unread ++ [backtick],
          by simp [same], by simp, by decide, passes, .inl ⟨rfl, rfl⟩⟩
  obtain ⟨quote, passed, stop, text, parts, text_ne, quoted, passes, reason⟩ := found
  obtain ⟨taken, unread, rfl, taken_eq, unread_eq⟩ := exists_of_points_eq parts
  refine ⟨taken, unread, rfl, hidden, ?_, quote, passed, stop, taken_eq, quoted, passes, reason⟩
  rintro rfl
  exact text_ne unread_eq.symm

/-! ### The mask of a program -/

/-- **A program is read as it should be** up to the first string or template that is not taken as a
whole. -/
theorem Program.exists_broken {program : Marked (Option Inside)}
    (isProgram : Program (fun _ => True) program) (broken : ¬ Program IsWhole program) :
    ∃ front part behind, program = front ++ (within part ++ behind) ∧
      Program IsWhole front ∧ Hidden part ∧ ¬ IsWhole (points part) ∧
      ∀ rest, Text.masked (points front ++ rest) = front.map shown ++ rest.masked := by
  induction isProgram with
  | nil => exact absurd .nil broken
  | lastComment noFeed => exact absurd (.lastComment noFeed) broken
  | @other point rest noQuote notSlash _ ih =>
    obtain ⟨front, part, behind, rfl, whole, hidden, partBroken, masked⟩ :=
      ih fun whole => broken (.other noQuote notSlash whole)
    refine ⟨(point, none) :: front, part, behind, rfl, .other noQuote notSlash whole, hidden,
      partBroken, fun rest => ?_⟩
    calc Text.masked (points ((point, none) :: front) ++ rest) =
      point :: Text.masked (points front ++ rest) :=
          masked_cons_of_other noQuote notSlash (points front ++ rest)
      _ = ((point, none) :: front).map shown ++ rest.masked := by rw [masked rest]; rfl
  | @hidden part rest hidden _ _ ih =>
    by_cases taken : IsWhole (points part)
    · obtain ⟨front, other, behind, rfl, whole, otherHidden, otherBroken, masked⟩ :=
        ih fun whole => broken (.hidden hidden taken whole)
      refine ⟨within part ++ front, other, behind,
        by simp, .hidden hidden taken whole, otherHidden, otherBroken, fun rest => ?_⟩
      rw [points_append, points_within, List.append_assoc, masked_append_of_isWhole taken,
        masked rest, List.map_append, map_shown_within, List.append_assoc]
    · exact ⟨[], part, rest, rfl, .nil, hidden, taken, fun _ => rfl⟩

/-- **What the mask of a program hides and shows.** Where every string and every template is taken
as a whole, the parentheses are told right: those in comments, in strings and in the text of
templates are hidden, and those in none of these are shown. Else a first string or template stops
too early, with the mark of a template inside it or a line end of two code points behind a
backslash. Up to there the mask is right, and the rest is read as code: the parentheses are told
right if and only if they are in that rest. -/
theorem masked_program {program : Marked (Option Inside)}
    (isProgram : Program (fun _ => True) program) :
    (Program IsWhole program → Text.masked (points program) = program.map shown ∧
      TellsParentheses program) ∧
    (¬ Program IsWhole program → ∃ front taken unread behind,
      program = (front ++ within taken) ++ (within unread ++ behind) ∧ Program IsWhole front ∧
        StopsEarly taken unread ∧
      Text.masked (points program) =
        (front ++ within taken).map shown ++ Text.masked (points (within unread ++ behind)) ∧
      (TellsParentheses program ↔ TellsParentheses (within unread ++ behind))) := by
  constructor
  · intro whole
    have masked := masked_of_program whole
    refine ⟨masked, ?_⟩
    have tells := @tellsParentheses_append_iff program []
    rw [List.append_nil] at tells
    exact (tells (masked.trans (List.append_nil _).symm)).mpr nofun
  · intro broken
    obtain ⟨front, part, behind, rfl, whole, hidden, partBroken, masked⟩ :=
      isProgram.exists_broken broken
    obtain ⟨taken, unread, rfl, early⟩ := exists_stopsEarly hidden partBroken
    have parts : front ++ (within (taken ++ unread) ++ behind) =
        (front ++ within taken) ++ (within unread ++ behind) := by simp [within]
    have masked_eq : Text.masked (points ((front ++ within taken) ++ (within unread ++ behind))) =
        (front ++ within taken).map shown ++ Text.masked (points (within unread ++ behind)) := by
      rw [List.append_assoc, points_append, masked, points_append, points_within,
        early.masked_append, List.map_append, map_shown_within, List.append_assoc]
    rw [parts]
    exact ⟨front, taken, unread, behind, rfl, whole, early, masked_eq,
      tellsParentheses_append_iff masked_eq⟩

/-- What has neither the quote nor a backslash nor a line end in it is passed over. -/
theorem quotedBody_of_forall
    (free : ∀ point ∈ text, point ≠ quote ∧ point ≠ backslash ∧ point ≠ Text.lineFeed) :
    QuotedBody quote text := by
  induction text with
  | nil => exact .nil
  | cons point rest ih =>
    rw [List.forall_mem_cons] at free
    obtain ⟨⟨notQuote, notEscape, notFeed⟩, others⟩ := free
    exact .bare notQuote notEscape (absurd · notFeed) (ih others)

/-- A call with a string and a template between its parentheses, and with parentheses in all of
them. -/
def callProgram : Marked (Option Inside) :=
  mark none "f(" ++
    (mark (some .string) "\')\'" ++ (mark none "," ++ (mark (some .template) "\x60($\x7b" ++
    (mark (some .substitution) "x" ++ (mark (some .template) "\x7d\x60" ++ mark none ")")))))

theorem program_callProgram : Program IsWhole callProgram := by
  have stringBody : StringBody (.scalar '\'') ")" :=
    .bare (by decide) (by decide) (by decide) (by decide) .nil
  have code : InnerCode (mark .substitution "x") :=
    .other (by decide) (by decide) (by decide) (by decide) .nil
  have templateBody : TemplateBody
      (mark .template "($\x7b" ++ (mark .substitution "x" ++ mark .template "\x7d")) :=
    .bare (by decide) (by decide) (by decide) (.substitution code .nil)
  have stringPasses : QuotedBody (.scalar '\'') ")" := quotedBody_of_forall (by decide)
  have templatePasses : QuotedBody backtick "($\x7bx\x7d" := quotedBody_of_forall (by decide)
  have last : Program IsWhole (mark none ")") := .other (by decide) (by decide) .nil
  exact .other (by decide) (by decide) (.other (by decide) (by decide)
    (.hidden (.string (.inl rfl) stringBody) (.quoted (by decide) stringPasses)
      (.other (by decide) (by decide)
        (.hidden (.template templateBody) (.quoted (by decide) templatePasses) last))))

/-- The parentheses of the call are shown, and no other ones. -/
theorem masked_program_call : Program IsWhole callProgram ∧ TellsParentheses callProgram ∧
    Text.masked (points callProgram) = "f(   ,       )" := by
  obtain ⟨masked, tells⟩ := (masked_program program_callProgram.weaken).1 program_callProgram
  refine ⟨program_callProgram, tells, ?_⟩
  rw [masked]
  rfl

/-- A template in the substitution of another one, with a parenthesis in its text. -/
def nestedTemplate : Marked (Option Inside) := mark (some .template) "\x60$\x7b\x60(\x60\x7d\x60"

/-- A string that goes on behind a line end of two code points, with a parenthesis there. -/
def continuedString : Marked (Option Inside) := mark (some .string) "\'\\\r\n(\'"

theorem program_nestedTemplate : Program (fun _ => True) nestedTemplate := by
  have inner : TemplateBody (mark .template "(") := .bare (by decide) (by decide) (by decide) .nil
  have outer : TemplateBody (mark .template "$\x7b\x60(\x60\x7d") :=
    .substitution (.hidden (.template inner) .nil) .nil
  exact .hidden (.template outer) trivial .nil

theorem program_continuedString : Program (fun _ => True) continuedString := by
  have body : StringBody (.scalar '\'') "\\\r\n(" :=
    .continued (.bare (by decide) (by decide) (by decide) (by decide) .nil)
  exact .hidden (.string (.inl rfl) body) trivial .nil

/-- **Parentheses are not told right in every program**: a mask takes a template to end at the mark
of another one in it, and a string at its line end. -/
theorem not_tellsParentheses :
    (Program (fun _ => True) nestedTemplate ∧ ¬ TellsParentheses nestedTemplate) ∧
    (Program (fun _ => True) continuedString ∧ ¬ TellsParentheses continuedString) := by
  refine ⟨⟨program_nestedTemplate, fun tells => ?_⟩, ⟨program_continuedString, fun tells => ?_⟩⟩
  · have blank :=
      (tells 4 (.scalar '(') (some .template) (by decide) (.inl rfl)).1 (.inr (.inr rfl))
    revert blank
    decide
  · have blank := (tells 4 (.scalar '(') (some .string) (by decide) (.inl rfl)).1 (.inr (.inl rfl))
    revert blank
    decide

end TestOutline.Mask
