import RenderTemplate.Proofs.Bracketing

namespace RenderTemplate

namespace TopLevel

namespace Scan

/-- The scan after a text. -/
def run (scan : Scan) (chars : List Char) : Scan :=
  chars.foldl step scan

/-- The scan after one more character, unless it closes a bracket that is not open. -/
def stepAbove (scan : Scan) (c : Char) : Option Scan :=
  if (scan.step c).depth < 0 then none else some (scan.step c)

/-- The scan after a text, unless a bracket is closed that is not open. -/
def runAbove (scan : Scan) (chars : List Char) : Option Scan :=
  chars.foldlM stepAbove scan

/-- The scan inside more brackets. -/
def raise (scan : Scan) (depth : Int) : Scan :=
  { scan with depth := scan.depth + depth }

theorem runAbove_cons (scan : Scan) (c : Char) (rest : List Char) :
    scan.runAbove (c :: rest) = (scan.stepAbove c).bind fun next => next.runAbove rest := rfl

/-- Two texts in a row are scanned one after the other, and neither may close a bracket that is
not open. -/
theorem runAbove_append (scan : Scan) (front rest : List Char) :
    scan.runAbove (front ++ rest) = (scan.runAbove front).bind fun next => next.runAbove rest :=
  List.foldlM_append

theorem stepAbove_eq_some {scan next : Scan} {c : Char} :
    scan.stepAbove c = some next ↔ scan.step c = next ∧ 0 ≤ next.depth := by
  unfold stepAbove
  split
  · next below =>
    constructor
    · intro none
      cases none
    · rintro ⟨rfl, above⟩
      omega
  · next above =>
    rw [Option.some.injEq]
    constructor
    · rintro rfl
      exact ⟨rfl, by omega⟩
    · exact fun same => same.1

theorem run_of_runAbove {scan last : Scan} {chars : List Char}
    (ran : scan.runAbove chars = some last) :
    scan.run chars = last := by
  induction chars generalizing scan with
  | nil => exact Option.some.inj ran
  | cons c rest ih =>
    rw [runAbove_cons] at ran
    obtain ⟨next, taken, ran⟩ := Option.bind_eq_some_iff.mp ran
    obtain ⟨rfl, _⟩ := stepAbove_eq_some.mp taken
    exact ih ran

theorem step_raise (scan : Scan) (depth : Int) (c : Char) :
    (scan.raise depth).step c = (scan.step c).raise depth := by
  obtain ⟨level, quote, escaped⟩ := scan
  unfold step raise
  cases quote with
  | some quote =>
    dsimp only
    split
    · rfl
    · split
      · rfl
      · split
        · rfl
        · rfl
  | none =>
    dsimp only
    split
    · rfl
    · split
      · simp only [Scan.mk.injEq, and_true]
        omega
      · split
        · simp only [Scan.mk.injEq, and_true]
          omega
        · rfl

/-- A text without surplus brackets is scanned alike inside of brackets. -/
theorem runAbove_raise {scan last : Scan} {chars : List Char}
    (ran : scan.runAbove chars = some last) {depth : Int} (inside : 0 ≤ depth) :
    (scan.raise depth).runAbove chars = some (last.raise depth) := by
  induction chars generalizing scan with
  | nil =>
    cases ran
    rfl
  | cons c rest ih =>
    rw [runAbove_cons] at ran ⊢
    obtain ⟨next, taken, ran⟩ := Option.bind_eq_some_iff.mp ran
    obtain ⟨rfl, above⟩ := stepAbove_eq_some.mp taken
    have raised : (scan.raise depth).stepAbove c = some ((scan.step c).raise depth) := by
      rw [stepAbove_eq_some]
      refine ⟨scan.step_raise depth c, ?_⟩
      unfold raise
      dsimp only
      omega
    rw [raised, Option.bind_some]
    exact ih ran

end Scan

/-- How many separators there are at the top level. -/
def separations (separator : Char) (scan : Scan) : List Char → Nat
  | [] => 0
  | c :: rest =>
    (if scan.separates separator c then 1 else 0) + separations separator (scan.step c) rest

variable {separator : Char}

theorem separations_append (scan : Scan) (front rest : List Char) :
    separations separator scan (front ++ rest) =
      separations separator scan front + separations separator (scan.run front) rest := by
  induction front generalizing scan with
  | nil => simp [separations, Scan.run]
  | cons c front ih =>
    rw [List.cons_append, separations, separations, ih, Nat.add_assoc]
    rfl

/-- Inside brackets there are no separators at the top level. -/
theorem separations_raise {scan last : Scan} {chars : List Char}
    (ran : scan.runAbove chars = some last) (above : 0 ≤ scan.depth) {depth : Int}
    (inside : 0 < depth) :
    separations separator (scan.raise depth) chars = 0 := by
  induction chars generalizing scan with
  | nil => rfl
  | cons c rest ih =>
    rw [Scan.runAbove_cons] at ran
    obtain ⟨next, taken, ran⟩ := Option.bind_eq_some_iff.mp ran
    obtain ⟨rfl, aboveNext⟩ := Scan.stepAbove_eq_some.mp taken
    have deep : (scan.depth + depth == 0) = false := by
      rw [beq_eq_false_iff_ne]
      omega
    have apart : (scan.raise depth).separates separator c = false := by
      rw [Scan.separates, Scan.raise, deep, Bool.and_false, Bool.false_and, Bool.false_and]
    rw [separations, apart, Scan.step_raise, ih ran aboveNext]
    rfl

theorem step_eq_of_separates {scan : Scan} {c : Char} (separates : scan.separates separator c) :
    c = separator ∧ scan.step c = scan := by
  simp only [Scan.separates, Bool.and_eq_true, beq_iff_eq] at separates
  exact ⟨separates.1.2, separates.2⟩

theorem length_pieces (scan : Scan) (chars : List Char) :
    (pieces separator scan chars).length = separations separator scan chars + 1 := by
  induction chars generalizing scan with
  | nil => rfl
  | cons c rest ih =>
    unfold pieces separations
    split
    · next separates =>
      rw [List.length_cons, ih, (step_eq_of_separates separates).2]
      omega
    · have length := ih (scan.step c)
      split
      · next piece more same =>
        rw [same, List.length_cons] at length
        rw [List.length_cons]
        omega
      · next none =>
        rw [none, List.length_nil] at length
        omega

theorem exists_pieces_eq_cons (separator : Char) (scan : Scan) (chars : List Char) :
    ∃ piece more, pieces separator scan chars = piece :: more :=
  List.exists_cons_of_length_eq_add_one (length_pieces scan chars)

theorem pieces_eq_singleton {scan : Scan} {chars : List Char}
    (none : separations separator scan chars = 0) :
    pieces separator scan chars = [chars] := by
  induction chars generalizing scan with
  | nil => rfl
  | cons c rest ih =>
    unfold separations at none
    split at none
    · omega
    · next apart =>
      unfold pieces
      rw [if_neg apart, ih (by omega)]

/-- What follows a separator at the top level has pieces of its own. -/
theorem pieces_append {scan : Scan} {front rest : List Char}
    (separates : (scan.run front).separates separator separator) :
    pieces separator scan (front ++ separator :: rest) =
      pieces separator scan front ++ pieces separator (scan.run front) rest := by
  induction front generalizing scan with
  | nil =>
    have here : scan.separates separator separator := separates
    have cut : pieces separator scan (separator :: rest) = [] :: pieces separator scan rest := by
      rw [pieces, if_pos here]
    exact cut
  | cons c front ih =>
    have later := ih separates
    have same : scan.run (c :: front) = (scan.step c).run front := rfl
    rw [List.cons_append, pieces, pieces, same, later]
    split
    · next cut =>
      rw [(step_eq_of_separates cut).2] at later ⊢
      rw [later, List.cons_append]
    · obtain ⟨piece, more, listed⟩ := exists_pieces_eq_cons separator (scan.step c) front
      rw [listed]
      rfl

/-- A character that does not separate belongs to the first piece. -/
theorem pieces_cons {scan : Scan} {c : Char} (apart : ¬scan.separates separator c)
    {rest piece : List Char} {more : List (List Char)}
    (later : pieces separator (scan.step c) rest = piece :: more) :
    pieces separator scan (c :: rest) = (c :: piece) :: more := by
  rw [pieces, if_neg apart, later]

/-- A text without separators at the top level is the front of the first piece, whatever follows. -/
theorem pieces_uncut {scan : Scan} {front : List Char}
    (uncut : separations separator scan front = 0) (rest : List Char) :
    ∃ piece more, pieces separator scan (front ++ rest) = (front ++ piece) :: more := by
  induction front generalizing scan with
  | nil => exact exists_pieces_eq_cons separator scan rest
  | cons c front ih =>
    unfold separations at uncut
    split at uncut
    · omega
    · next apart =>
      have none : separations separator (scan.step c) front = 0 := by omega
      obtain ⟨piece, more, later⟩ := ih none
      exact ⟨piece, more, pieces_cons apart later⟩

/-- A text with a separator at the top level is cut there, whatever follows. -/
theorem pieces_cut {scan : Scan} {front : List Char} (cut : separations separator scan front ≠ 0)
    (rest : List Char) :
    ∃ before after more, front = before ++ separator :: after ∧
      pieces separator scan (front ++ rest) = before :: more := by
  induction front generalizing scan with
  | nil => exact absurd rfl cut
  | cons c front ih =>
    by_cases here : scan.separates separator c
    · have same : c = separator := (step_eq_of_separates here).1
      refine ⟨[], front, pieces separator scan (front ++ rest), by rw [same, List.nil_append], ?_⟩
      rw [List.cons_append, pieces, if_pos here]
    · have later : separations separator (scan.step c) front ≠ 0 := by
        rw [separations, if_neg here, Nat.zero_add] at cut
        exact cut
      obtain ⟨before, after, more, split, first⟩ := ih later
      exact ⟨c :: before, after, more, by rw [split, List.cons_append], pieces_cons here first⟩

namespace Scan

/-- What opens a string literal and closes it. -/
def quoteMarks : List Char := ['"', '\'', '`']

/-- Whether a string literal that is open was opened by a quote. -/
def IsProper (scan : Scan) : Prop :=
  ∀ quote ∈ scan.quote, quote ∈ quoteMarks

theorem IsProper.step {scan : Scan} (proper : scan.IsProper) (c : Char) :
    (scan.step c).IsProper := by
  obtain ⟨depth, quote, escaped⟩ := scan
  unfold Scan.step
  cases quote with
  | some quote =>
    dsimp only
    split
    · exact proper
    · split
      · exact proper
      · split
        · intro open' none
          cases none
        · exact proper
  | none =>
    dsimp only
    split
    · next quotes =>
      intro opened same
      cases same
      simpa [quoteMarks] using quotes
    · split
      · exact proper
      · split
        · exact proper
        · exact proper

theorem IsProper.runAbove {scan last : Scan} (proper : scan.IsProper) {chars : List Char}
    (ran : scan.runAbove chars = some last) : last.IsProper := by
  induction chars generalizing scan with
  | nil =>
    cases ran
    exact proper
  | cons c rest ih =>
    rw [runAbove_cons] at ran
    obtain ⟨next, taken, ran⟩ := Option.bind_eq_some_iff.mp ran
    obtain ⟨rfl, _⟩ := stepAbove_eq_some.mp taken
    exact ih (proper.step c) ran

/-- What opens a bracket and closes it. -/
def bracketMarks : List Char := ['(', '[', '{', ')', ']', '}']

/-- In code, a character that is neither a quote nor a bracket has no effect. -/
theorem step_other {depth : Int} {escaped : Bool} {c : Char}
    (other : c ∉ quoteMarks ++ bracketMarks) :
    step ⟨depth, none, escaped⟩ c = ⟨depth, none, escaped⟩ := by
  simp only [quoteMarks, bracketMarks, List.cons_append, List.nil_append, List.mem_cons,
    List.not_mem_nil, or_false, not_or] at other
  obtain ⟨double, single, back, round, square, curly, roundEnd, squareEnd, curlyEnd⟩ := other
  simp [step, double, single, back, round, roundEnd, square, squareEnd, curly, curlyEnd]

theorem not_mem_marks_of_isPlainChar {c : Char} (plain : isPlainChar c) :
    c ∉ quoteMarks ++ bracketMarks := by
  intro member
  have special : (quoteMarks ++ bracketMarks).all (!isPlainChar ·) := by decide
  have other := List.all_eq_true.mp special c member
  rw [plain] at other
  cases other

/-- In code, a plain character has no effect. -/
theorem step_plain {depth : Int} {escaped : Bool} {c : Char} (plain : isPlainChar c) :
    step ⟨depth, none, escaped⟩ c = ⟨depth, none, escaped⟩ :=
  step_other (not_mem_marks_of_isPlainChar plain)

/-- Whether a scan stands outside of brackets and string literals. -/
def IsTop (scan : Scan) : Prop :=
  scan.depth = 0 ∧ scan.quote = none

/-- A character that is neither a quote nor a bracket separates at the top level, and nowhere
else. -/
theorem separates_iff_isTop (other : separator ∉ quoteMarks ++ bracketMarks) (scan : Scan) :
    scan.separates separator separator ↔ scan.IsTop := by
  obtain ⟨depth, quote, escaped⟩ := scan
  simp only [separates, IsTop, Bool.and_eq_true, Option.isNone_iff_eq_none, beq_iff_eq, and_true]
  constructor
  · rintro ⟨⟨unquoted, level⟩, _⟩
    exact ⟨level, unquoted⟩
  · rintro ⟨level, rfl⟩
    exact ⟨⟨rfl, level⟩, step_other other⟩

theorem runAbove_plain {chars : List Char} (plain : chars.all isPlainChar) :
    runAbove {} chars = some {} := by
  induction chars with
  | nil => rfl
  | cons c rest ih =>
    rw [List.all_cons, Bool.and_eq_true] at plain
    have taken : stepAbove {} c = some {} :=
      stepAbove_eq_some.mpr ⟨step_plain plain.1, Int.le_refl 0⟩
    rw [runAbove_cons, taken, Option.bind_some]
    exact ih plain.2

/-- After a blank, a backslash before it has no effect. Nothing else changes. -/
theorem step_blank {scan : Scan} (proper : scan.IsProper) {c : Char} (blank : Text.isBlankChar c) :
    scan.step c = { scan with escaped := scan.escaped && scan.quote.isNone } := by
  obtain ⟨depth, quote, escaped⟩ := scan
  cases quote with
  | none =>
    rw [step_plain (isPlainChar_of_isBlankChar blank)]
    simp
  | some quote =>
    have apart {special : Char} (solid : Text.isBlankChar special = false) : c ≠ special := by
      rintro rfl
      rw [blank] at solid
      cases solid
    have noBackslash : c ≠ '\\' := apart (by decide)
    have inside : c ≠ quote := by
      have solid : quoteMarks.all (!Text.isBlankChar ·) := by decide
      exact apart (by simpa using List.all_eq_true.mp solid quote (proper quote rfl))
    cases escaped <;> simp [step, noBackslash, inside]

/-- Blanks close nothing. -/
theorem eq_of_run_blanks {scan : Scan} (proper : scan.IsProper) {blanks : List Char}
    (blank : ∀ c ∈ blanks, Text.isBlankChar c) (ran : scan.run blanks = {}) : scan = {} := by
  induction blanks generalizing scan with
  | nil => exact ran
  | cons c rest ih =>
    rw [List.forall_mem_cons] at blank
    have next : scan.step c = {} := ih (proper.step c) blank.2 ran
    rw [step_blank proper blank.1] at next
    obtain ⟨depth, quote, escaped⟩ := scan
    simp only [Scan.mk.injEq] at next
    obtain ⟨rfl, rfl, escaped⟩ := next
    rw [Option.isNone_none, Bool.and_true] at escaped
    rw [escaped]

/-- A blank after an asterisk has no effect. -/
theorem step_star_blank {scan : Scan} (proper : scan.IsProper) :
    (scan.step '*').step ' ' = scan.step '*' := by
  rw [step_blank (proper.step '*') (by decide)]
  obtain ⟨depth, quote, escaped⟩ := scan
  cases quote with
  | none => simp [step]
  | some quote =>
    have inside : '*' ≠ quote := by
      have apart : quoteMarks.all ('*' != ·) := by decide
      simpa using List.all_eq_true.mp apart quote (proper quote rfl)
    cases escaped <;> simp [step, inside]

/-- The scan after one more character with the number of separators, unless the character closes a
bracket that is not open. -/
def stepCounting (separator : Char) (state : Scan × Nat) (c : Char) : Option (Scan × Nat) :=
  (state.1.stepAbove c).map fun next =>
    (next, state.2 + if state.1.separates separator c then 1 else 0)

/-- The scan after a text with the number of separators, unless a bracket is closed that is
not open. -/
def tally (separator : Char) (state : Scan × Nat) (chars : List Char) : Option (Scan × Nat) :=
  chars.foldlM (stepCounting separator) state

theorem tally_cons (state : Scan × Nat) (c : Char) (rest : List Char) :
    tally separator state (c :: rest) = (stepCounting separator state c).bind fun next =>
      tally separator next rest := rfl

theorem tally_append (state : Scan × Nat) (front rest : List Char) :
    tally separator state (front ++ rest) = (tally separator state front).bind fun next =>
      tally separator next rest :=
  List.foldlM_append

theorem tally_eq (scan : Scan) (number : Nat) (chars : List Char) :
    tally separator (scan, number) chars =
      (scan.runAbove chars).map fun last => (last, number + separations separator scan chars) := by
  induction chars generalizing scan number with
  | nil => rfl
  | cons c rest ih =>
    rw [tally_cons, runAbove_cons, stepCounting]
    cases taken : scan.stepAbove c with
    | none => rfl
    | some next =>
      obtain ⟨rfl, _⟩ := stepAbove_eq_some.mp taken
      rw [Option.map_some, Option.bind_some, Option.bind_some, ih, separations, Nat.add_assoc]

theorem stepAbove_of_stepCounting {state next : Scan × Nat} {c : Char}
    (taken : stepCounting separator state c = some next) : state.1.stepAbove c = some next.1 := by
  obtain ⟨scan, above, rfl⟩ := Option.map_eq_some_iff.mp taken
  exact above

/-- A blank behind a star changes neither the scan nor the count. -/
theorem stepCounting_blank (solid : separator ≠ ' ') {state next : Scan × Nat}
    (proper : state.1.IsProper) (taken : stepCounting separator state '*' = some next) :
    stepCounting separator next ' ' = some next := by
  obtain ⟨star, above⟩ := stepAbove_eq_some.mp (stepAbove_of_stepCounting taken)
  have same : next.1.step ' ' = next.1 := by
    rw [← star]
    exact step_star_blank proper
  have kept : next.1.stepAbove ' ' = some next.1 := stepAbove_eq_some.mpr ⟨same, above⟩
  have apart : next.1.separates separator ' ' = false := by
    rw [separates, beq_eq_false_iff_ne.mpr solid.symm, Bool.and_false, Bool.false_and]
  rw [stepCounting, kept, apart]
  rfl

/-- The blanks that break up the ends of comments have no effect, unless they are separators. -/
theorem tally_breakCommentEnds (solid : separator ≠ ' ') {state : Scan × Nat}
    (proper : state.1.IsProper) (chars : List Char) :
    tally separator state (breakCommentEnds chars) = tally separator state chars := by
  have kept {state next : Scan × Nat} {c : Char} (proper : state.1.IsProper)
      (taken : stepCounting separator state c = some next) : next.1.IsProper := by
    obtain ⟨same, _⟩ := stepAbove_eq_some.mp (stepAbove_of_stepCounting taken)
    rw [← same]
    exact proper.step c
  refine breakCommentEnds_induction (motive := fun chars broken =>
    ∀ state : Scan × Nat, state.1.IsProper →
    tally separator state broken = tally separator state chars) ?_ ?_ ?_ chars state proper
  · intro state _
    rfl
  · intro rest ih state proper
    rw [tally_cons, tally_cons]
    cases star : stepCounting separator state '*' with
    | none => rfl
    | some next =>
      rw [Option.bind_some, Option.bind_some, tally_cons, stepCounting_blank solid proper star,
        Option.bind_some, tally_cons, tally_cons]
      cases slash : stepCounting separator next '/' with
      | none => rfl
      | some last => exact ih last (kept (kept proper star) slash)
  · intro c rest _ ih state proper
    rw [tally_cons, tally_cons]
    cases taken : stepCounting separator state c with
    | none => rfl
    | some next => exact ih next (kept proper taken)

theorem isProper_start : IsProper {} := by
  intro quote none
  cases none

theorem run_append (scan : Scan) (front rest : List Char) :
    scan.run (front ++ rest) = (scan.run front).run rest :=
  List.foldl_append

/-- A backslash is kept in mind inside of string literals only. -/
def IsTidy (scan : Scan) : Prop :=
  scan.quote = none → scan.escaped = false

theorem IsTidy.step {scan : Scan} (tidy : scan.IsTidy) (c : Char) : (scan.step c).IsTidy := by
  obtain ⟨depth, quote, escaped⟩ := scan
  unfold Scan.step
  cases quote with
  | some quote =>
    dsimp only
    split
    · intro _
      rfl
    · next calm =>
      split
      · intro none
        cases none
      · split
        · intro _
          exact Bool.eq_false_iff.mpr calm
        · exact tidy
  | none =>
    dsimp only
    split
    · intro none
      cases none
    · split
      · exact tidy
      · split
        · exact tidy
        · exact tidy

theorem IsTidy.run {scan : Scan} (tidy : scan.IsTidy) (chars : List Char) :
    (scan.run chars).IsTidy := by
  induction chars generalizing scan with
  | nil => exact tidy
  | cons c rest ih => exact ih (tidy.step c)

/-- A plain character separates where nothing is open, and nowhere else. -/
theorem IsTidy.separates_iff {scan : Scan} (tidy : scan.IsTidy) (plain : isPlainChar separator) :
    scan.separates separator separator ↔ scan = {} := by
  rw [separates_iff_isTop (not_mem_marks_of_isPlainChar plain)]
  constructor
  · rintro ⟨level, unquoted⟩
    obtain ⟨depth, quote, escaped⟩ := scan
    have calm : escaped = false := tidy unquoted
    dsimp only at level unquoted
    rw [unquoted, level, calm]
  · rintro rfl
    exact ⟨rfl, rfl⟩

theorem isTidy_start : IsTidy {} := fun _ => rfl

end Scan

/-- Code in which a scan closes all that it opens, and nothing else. -/
def IsBalanced (text : String) : Prop :=
  Scan.runAbove {} text.toList = some {}

instance (text : String) : Decidable (IsBalanced text) :=
  inferInstanceAs (Decidable (Scan.runAbove {} text.toList = some {}))

/-- How many separators a text has at the top level. -/
def cuts (separator : Char) (text : String) : Nat :=
  separations separator {} text.toList

theorem split_eq_singleton_iff (text : String) :
    split separator text = [text] ↔ cuts separator text = 0 := by
  constructor
  · intro sole
    have length := congrArg List.length sole
    rw [split, List.length_map, length_pieces, List.length_singleton] at length
    exact Nat.succ.inj length
  · intro none
    rw [split, pieces_eq_singleton none, List.map_singleton, String.ofList_toList]

/-- A tally comes back to the start exactly if the text is balanced, and gives the number of its
cuts. -/
theorem tally_iff {text : String} {number : Nat} :
    Scan.tally separator ({}, 0) text.toList = some ({}, number) ↔
      IsBalanced text ∧ cuts separator text = number := by
  rw [Scan.tally_eq, Option.map_eq_some_iff]
  constructor
  · rintro ⟨last, ran, same⟩
    cases same
    exact ⟨ran, (Nat.zero_add _).symm⟩
  · rintro ⟨ran, rfl⟩
    exact ⟨{}, ran, by rw [Nat.zero_add, cuts]⟩

theorem separations_of_not_mem {chars : List Char} (absent : separator ∉ chars) (scan : Scan) :
    separations separator scan chars = 0 := by
  induction chars generalizing scan with
  | nil => rfl
  | cons c rest ih =>
    rw [List.mem_cons, not_or] at absent
    have apart : scan.separates separator c = false := by
      rw [Scan.separates, beq_eq_false_iff_ne.mpr (Ne.symm absent.1), Bool.and_false,
        Bool.false_and]
    rw [separations, apart, ih absent.2]
    rfl

theorem cuts_of_not_mem {text : String} (absent : separator ∉ text.toList) :
    cuts separator text = 0 :=
  separations_of_not_mem absent {}

theorem cuts_append {first : String} (balanced : IsBalanced first) (second : String) :
    cuts separator (first ++ second) = cuts separator first + cuts separator second := by
  rw [cuts, String.toList_append, separations_append, Scan.run_of_runAbove balanced]
  rfl

namespace IsBalanced

theorem plain {text : String} (plain : isPlain text) : IsBalanced text :=
  Scan.runAbove_plain plain

theorem append {first second : String} (before : IsBalanced first) (after : IsBalanced second) :
    IsBalanced (first ++ second) := by
  rw [IsBalanced, String.toList_append, Scan.runAbove_append, before, Option.bind_some]
  exact after

theorem trimmed {code : String} (balanced : IsBalanced code) : IsBalanced (Text.trim code) := by
  obtain ⟨front, frontBlank, left⟩ := Text.exists_trimLeft code.toList
  obtain ⟨back, backBlank, right⟩ := Text.exists_trimRight (Text.trimLeft code.toList)
  have plain : front.all isPlainChar :=
    List.all_eq_true.mpr fun c member => isPlainChar_of_isBlankChar (frontBlank c member)
  rw [IsBalanced, left, Scan.runAbove_append, Scan.runAbove_plain plain, Option.bind_some, right,
    Scan.runAbove_append] at balanced
  obtain ⟨middle, ran, later⟩ := Option.bind_eq_some_iff.mp balanced
  have proper : middle.IsProper := Scan.isProper_start.runAbove ran
  have settled : middle = {} := Scan.eq_of_run_blanks proper backBlank (Scan.run_of_runAbove later)
  rw [settled] at ran
  rw [IsBalanced, Text.trim, String.toList_ofList]
  exact ran

end IsBalanced

/-- String literals are balanced, and separators in them do not count. -/
theorem tally_quote (separator : Char) (text : String) :
    Scan.tally separator ({}, 0) (quote text).toList = some ({}, 0) := by
  have opened : Scan.stepCounting separator ({}, 0) '"' = some (⟨0, some '"', false⟩, 0) := by
    simp [Scan.stepCounting, Scan.stepAbove, Scan.step, Scan.separates]
  have closed : Scan.stepCounting separator (⟨0, some '"', false⟩, 0) '"' = some ({}, 0) := by
    simp [Scan.stepCounting, Scan.stepAbove, Scan.step, Scan.separates]
  have escaped :
      Scan.tally separator (⟨0, some '"', false⟩, 0) (text.toList.flatMap Quoted.escape) =
      some (⟨0, some '"', false⟩, 0) := by
    refine Quoted.foldlM_escape (s := (⟨0, some '"', true⟩, 0)) ?_ ?_ ?_ text.toList
    · intro c noQuote noBackslash
      simp [Scan.stepCounting, Scan.stepAbove, Scan.step, Scan.separates, noQuote, noBackslash]
    · simp [Scan.stepCounting, Scan.stepAbove, Scan.step, Scan.separates]
    · intro c
      simp [Scan.stepCounting, Scan.stepAbove, Scan.step, Scan.separates]
  rw [quote, String.toList_ofList, Quoted.encode, Scan.tally_cons, opened, Option.bind_some,
    Scan.tally_append, escaped, Option.bind_some, Scan.tally_cons, closed]
  rfl

/-- Brackets keep the separators inside of them from the top level. -/
theorem tally_bracketed {opening closing front inner : String}
    (bracket : (opening, closing) ∈ brackets) (before : IsBalanced front)
    (inside : IsBalanced inner) :
    Scan.tally separator ({}, 0) (front ++ opening ++ inner ++ closing).toList =
      some ({}, cuts separator front) := by
  have turns (number : Nat) :
      Scan.tally separator ({}, number) opening.toList = some (Scan.raise {} 1, number) ∧
        Scan.tally separator (Scan.raise {} 1, number) closing.toList = some ({}, number) := by
    simp only [brackets, List.mem_cons, Prod.mk.injEq, List.not_mem_nil, or_false] at bracket
    rcases bracket with ⟨rfl, rfl⟩ | ⟨rfl, rfl⟩ | ⟨rfl, rfl⟩
    all_goals simp [Scan.tally, Scan.stepCounting, Scan.stepAbove, Scan.step, Scan.separates,
      Scan.raise]
  have counted : Scan.tally separator ({}, 0) front.toList = some ({}, cuts separator front) :=
    tally_iff.mpr ⟨before, rfl⟩
  rw [String.toList_append, String.toList_append, String.toList_append, Scan.tally_append,
    Scan.tally_append, Scan.tally_append, counted, Option.bind_some, (turns _).1, Option.bind_some,
    Scan.tally_eq, Scan.runAbove_raise inside (by decide),
    separations_raise inside (by decide) (by decide), Option.map_some, Option.bind_some]
  exact (turns _).2

/-- Comments are no different from other code here. -/
theorem tally_blockComment (solid : separator ∉ ['/', '*', ' ']) {text : String}
    (balanced : IsBalanced text) :
    Scan.tally separator ({}, 0) (blockComment text).toList = some ({}, cuts separator text) := by
  simp only [List.mem_cons, List.not_mem_nil, or_false, not_or] at solid
  obtain ⟨noSlash, noStar, noBlank⟩ := solid
  have ends (number : Nat) : Scan.tally separator ({}, number) "/*".toList = some ({}, number) ∧
      Scan.tally separator ({}, number) "*/".toList = some ({}, number) := by
    simp [Scan.tally, Scan.stepCounting, Scan.stepAbove, Scan.step, Scan.separates, Ne.symm noSlash,
      Ne.symm noStar]
  have counted : Scan.tally separator ({}, 0) text.toList = some ({}, cuts separator text) :=
    tally_iff.mpr ⟨balanced, rfl⟩
  rw [blockComment, String.toList_append, String.toList_append, Scan.tally_append,
    Scan.tally_append, (ends 0).1, Option.bind_some, String.toList_ofList,
    Scan.tally_breakCommentEnds noBlank Scan.isProper_start, counted, Option.bind_some, (ends _).2]

namespace IsBalanced

theorem quoted (text : String) : IsBalanced (quote text) :=
  (tally_iff.mp (tally_quote ',' text)).1

theorem bracketed {opening closing front inner : String} (bracket : (opening, closing) ∈ brackets)
    (before : IsBalanced front) (inside : IsBalanced inner) :
    IsBalanced (front ++ opening ++ inner ++ closing) := by
  have counted : Scan.tally ',' ({}, 0) (front ++ opening ++ inner ++ closing).toList =
      some ({}, cuts ',' front) :=
    tally_bracketed bracket before inside
  exact (tally_iff.mp counted).1

theorem commented {text : String} (balanced : IsBalanced text) :
    IsBalanced (blockComment text) := by
  have counted : Scan.tally ',' ({}, 0) (blockComment text).toList = some ({}, cuts ',' text) :=
    tally_blockComment (by decide) balanced
  exact (tally_iff.mp counted).1

end IsBalanced

variable {texts : List String}

/-- The pieces of texts with separators between them are the pieces of each of them. -/
theorem split_intercalate (separates : Scan.separates {} separator separator)
    (nonempty : texts ≠ []) (settled : ∀ text ∈ texts, Scan.run {} text.toList = {}) :
    split separator ((String.singleton separator).intercalate texts) =
      texts.flatMap (split separator) := by
  induction texts with
  | nil => contradiction
  | cons first rest ih =>
    rw [List.forall_mem_cons] at settled
    cases rest with
    | nil => rw [String.intercalate_singleton, List.flatMap_cons, List.flatMap_nil, List.append_nil]
    | cons second rest =>
      have later := ih (by simp) settled.2
      have here : (Scan.run {} first.toList).separates separator separator := by rwa [settled.1]
      rw [List.flatMap_cons, ← later, split, split, split, String.intercalate_cons_cons,
        String.toList_append, String.toList_append, String.toList_singleton, List.append_assoc,
        List.singleton_append, pieces_append here, settled.1, List.map_append]

/-- How many separators several texts have at the top level. -/
def totalCuts (separator : Char) : List String → Nat
  | [] => 0
  | first :: rest => cuts separator first + totalCuts separator rest

theorem totalCuts_cons (separator : Char) (first : String) (rest : List String) :
    totalCuts separator (first :: rest) = cuts separator first + totalCuts separator rest := rfl

theorem totalCuts_append (first second : List String) :
    totalCuts separator (first ++ second) =
      totalCuts separator first + totalCuts separator second := by
  induction first with
  | nil => rw [List.nil_append, totalCuts, Nat.zero_add]
  | cons text rest ih => rw [List.cons_append, totalCuts_cons, totalCuts_cons, ih, Nat.add_assoc]

theorem totalCuts_eq_zero_iff :
    totalCuts separator texts = 0 ↔ ∀ text ∈ texts, split separator text = [text] := by
  induction texts with
  | nil => simp [totalCuts]
  | cons first rest ih =>
    rw [totalCuts_cons, Nat.add_eq_zero_iff, List.forall_mem_cons, split_eq_singleton_iff, ih]

theorem length_flatMap_split (separator : Char) (texts : List String) :
    (texts.flatMap (split separator)).length = texts.length + totalCuts separator texts := by
  induction texts with
  | nil => rfl
  | cons first rest ih =>
    rw [List.flatMap_cons, List.length_append, ih, split, List.length_map, length_pieces,
      List.length_cons, totalCuts_cons, cuts]
    omega

/-- Texts can be found again as the pieces between the separators that were put between them if and
only if they have no separators of their own. -/
theorem split_intercalate_eq_iff (separates : Scan.separates {} separator separator)
    (nonempty : texts ≠ []) (settled : ∀ text ∈ texts, Scan.run {} text.toList = {}) :
    split separator ((String.singleton separator).intercalate texts) = texts ↔
      totalCuts separator texts = 0 := by
  rw [split_intercalate separates nonempty settled]
  constructor
  · intro same
    have length := length_flatMap_split separator texts
    rw [same] at length
    omega
  · intro none
    calc
      texts.flatMap (split separator) = texts.flatMap fun text => [text] := by
        rw [List.flatMap_def, List.flatMap_def, List.map_congr_left (totalCuts_eq_zero_iff.mp none)]
      _ = texts := List.flatMap_singleton' texts

/-- Code that a scan goes through to its end with nothing open, although it may close brackets
before it opens them, and in which it meets no separator at the top level. -/
structure IsNeutral (separator : Char) (text : String) : Prop where
  level : (Scan.run {} text.toList).depth = 0
  unquoted : (Scan.run {} text.toList).quote = none
  uncut : cuts separator text = 0

namespace IsNeutral

theorem run_eq {text : String} (neutral : IsNeutral separator text) :
    Scan.run {} text.toList = {} := by
  have tidy := Scan.isTidy_start.run text.toList neutral.unquoted
  obtain ⟨level, unquoted, _⟩ := neutral
  cases last : Scan.run {} text.toList with
  | mk depth quote escaped =>
    rw [last] at level unquoted tidy
    dsimp only at level unquoted tidy
    rw [level, unquoted, tidy]

theorem of_run {text : String} (settled : Scan.run {} text.toList = {})
    (uncut : cuts separator text = 0) :
    IsNeutral separator text where
  level := by rw [settled]
  unquoted := by rw [settled]
  uncut := uncut

theorem plain {text : String} (plain : isPlain text) (absent : separator ∉ text.toList) :
    IsNeutral separator text :=
  of_run (Scan.run_of_runAbove (Scan.runAbove_plain plain)) (cuts_of_not_mem absent)

theorem append {first second : String} (before : IsNeutral separator first)
    (after : IsNeutral separator second) :
    IsNeutral separator (first ++ second) := by
  refine of_run ?_ ?_
  · rw [String.toList_append, Scan.run_append, before.run_eq, after.run_eq]
  · have early := before.uncut
    have late := after.uncut
    unfold cuts at early late ⊢
    rw [String.toList_append, separations_append, before.run_eq, early, late]

end IsNeutral

/-- Neutral texts are found again between the separators that were put between them. -/
theorem split_intercalate_of_neutral (separates : Scan.separates {} separator separator)
    (nonempty : texts ≠ []) (neutral : ∀ text ∈ texts, IsNeutral separator text) :
    split separator ((String.singleton separator).intercalate texts) = texts := by
  refine (split_intercalate_eq_iff separates nonempty fun text member =>
    (neutral text member).run_eq).mpr ?_
  exact totalCuts_eq_zero_iff.mpr fun text member =>
    (split_eq_singleton_iff text).mpr (neutral text member).uncut

end TopLevel

/-- Balance of brackets and string literals, where comments are no different from other code. -/
def Bracketing.topLevel : Bracketing where
  balanced := TopLevel.IsBalanced
  admits := TopLevel.IsBalanced
  encloses _ := True
  helper _ := True
  plain := TopLevel.IsBalanced.plain
  quoted := TopLevel.IsBalanced.quoted
  commented := TopLevel.IsBalanced.commented
  joined separates before after := by
    rw [isSeparator, Bool.and_eq_true, Bool.and_eq_true] at separates
    exact (before.append (.plain separates.1.1)).append after
  bracketed := TopLevel.IsBalanced.bracketed
  trimmed := TopLevel.IsBalanced.trimmed
  enclosed _ := trivial
  enclosedTrimmed _ := trivial
  assigned _ _ := trivial
  declared _ _ _ _ := trivial

end RenderTemplate
