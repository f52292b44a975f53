import RenderTemplate.Proofs.Bracketing

namespace RenderTemplate

/-- What opens a string literal and closes it. -/
inductive QuoteMark where
  | double
  | single
  | back
deriving DecidableEq, Repr

namespace QuoteMark

/-- The character of a quote. -/
def char : QuoteMark → Char
  | double => '"'
  | single => '\''
  | back => '`'

/-- The quote that a character is. -/
def ofChar? (c : Char) : Option QuoteMark :=
  [double, single, back].find? (·.char == c)

end QuoteMark

/-- Where a scan of code stands. -/
inductive CodeMode where
  /-- In code. After a slash, an asterisk starts a comment. -/
  | code (slash : Bool)
  /-- In a string literal. After a backslash, every character stands for itself. -/
  | literal (quote : QuoteMark) (escaped : Bool)
  /-- In a comment. After an asterisk, a slash ends it. -/
  | comment (star : Bool)
deriving DecidableEq, Repr

/-- A scan of code: where it stands, and what has to close the open brackets, the innermost
first. -/
structure CodeScan where
  mode : CodeMode := .code false
  awaited : List Char := []
deriving DecidableEq, Repr

namespace CodeScan

/-- What closes a bracket. -/
def closer? (c : Char) : Option Char :=
  [('(', ')'), ('[', ']'), ('{', '}')].lookup c

/-- The scan after one more character, unless it closes a bracket that is not open. -/
def step (scan : CodeScan) (c : Char) : Option CodeScan :=
  match scan.mode with
  | .literal quote escaped =>
    if !escaped && c == quote.char then some { scan with mode := .code false }
    else some { scan with mode := .literal quote (!escaped && c == '\\') }
  | .comment star =>
    if star && c == '/' then some { scan with mode := .code false }
    else some { scan with mode := .comment (c == '*') }
  | .code slash =>
    if slash && c == '*' then some { scan with mode := .comment false }
    else
      match QuoteMark.ofChar? c, closer? c with
      | some quote, _ => some { scan with mode := .literal quote false }
      | none, some closer => some ⟨.code false, closer :: scan.awaited⟩
      | none, none =>
        if [')', ']', '}'].contains c then
          match scan.awaited with
          | closer :: rest => if c = closer then some ⟨.code false, rest⟩ else none
          | [] => none
        else some { scan with mode := .code (c == '/') }

/-- The scan after a text. -/
def run (scan : CodeScan) (chars : List Char) : Option CodeScan :=
  chars.foldlM step scan

theorem run_cons (scan : CodeScan) (c : Char) (rest : List Char) :
    scan.run (c :: rest) = (scan.step c).bind fun next => next.run rest := rfl

theorem run_append (scan : CodeScan) (front rest : List Char) :
    scan.run (front ++ rest) = (scan.run front).bind fun next => next.run rest :=
  List.foldlM_append

/-- Brackets that were open before do not matter. -/
theorem step_frame {mode : CodeMode} {awaited : List Char} {c : Char} {next : CodeScan}
    (taken : step ⟨mode, awaited⟩ c = some next) (more : List Char) :
    step ⟨mode, awaited ++ more⟩ c = some ⟨next.mode, next.awaited ++ more⟩ := by
  cases mode with
  | literal quote escaped =>
    unfold step at taken ⊢
    dsimp only at taken ⊢
    split at taken
    · next ends => cases taken; rw [if_pos ends]
    · next inside => cases taken; rw [if_neg inside]
  | comment star =>
    unfold step at taken ⊢
    dsimp only at taken ⊢
    split at taken
    · next ends => cases taken; rw [if_pos ends]
    · next inside => cases taken; rw [if_neg inside]
  | code slash =>
    unfold step at taken ⊢
    dsimp only at taken ⊢
    split at taken
    · next starts => cases taken; rw [if_pos starts]
    · next none =>
      rw [if_neg none]
      split at taken
      · cases taken; rfl
      · cases taken; rfl
      · split at taken
        · next closes =>
          rw [if_pos closes]
          cases awaited with
          | nil => cases taken
          | cons closer rest =>
            dsimp only [List.cons_append] at taken ⊢
            split at taken
            · next same => cases taken; rw [if_pos same]
            · cases taken
        · next other => cases taken; rw [if_neg other]

/-- Brackets that are open around a text stay open, and nothing in it depends on them. -/
theorem run_frame {scan last : CodeScan} {chars : List Char} (ran : scan.run chars = some last)
    (more : List Char) :
    run ⟨scan.mode, scan.awaited ++ more⟩ chars = some ⟨last.mode, last.awaited ++ more⟩ := by
  induction chars generalizing scan with
  | nil =>
    cases ran
    rfl
  | cons c rest ih =>
    rw [run_cons] at ran ⊢
    obtain ⟨next, taken, ran⟩ := Option.bind_eq_some_iff.mp ran
    rw [step_frame taken more, Option.bind_some]
    exact ih ran

theorem step_plain {slash : Bool} {awaited : List Char} {c : Char} (plain : isPlainChar c)
    (noStar : slash = false ∨ c ≠ '*') :
    step ⟨.code slash, awaited⟩ c = some ⟨.code false, awaited⟩ := by
  have double : c ≠ '"' := ne_of_isPlainChar plain (by decide)
  have single : c ≠ '\'' := ne_of_isPlainChar plain (by decide)
  have back : c ≠ '`' := ne_of_isPlainChar plain (by decide)
  have round : c ≠ '(' := ne_of_isPlainChar plain (by decide)
  have roundEnd : c ≠ ')' := ne_of_isPlainChar plain (by decide)
  have square : c ≠ '[' := ne_of_isPlainChar plain (by decide)
  have squareEnd : c ≠ ']' := ne_of_isPlainChar plain (by decide)
  have curly : c ≠ '{' := ne_of_isPlainChar plain (by decide)
  have curlyEnd : c ≠ '}' := ne_of_isPlainChar plain (by decide)
  have noSlash : c ≠ '/' := ne_of_isPlainChar plain (by decide)
  have star : (slash && c == '*') = false := by
    rcases noStar with rfl | noStar
    · rfl
    · rw [beq_eq_false_iff_ne.mpr noStar, Bool.and_false]
  have quote : QuoteMark.ofChar? c = none := by
    simp [QuoteMark.ofChar?, QuoteMark.char, double.symm, single.symm, back.symm]
  have opening : closer? c = none := by
    simp only [closer?, List.lookup_cons, List.lookup_nil, beq_eq_false_iff_ne.mpr round,
      beq_eq_false_iff_ne.mpr square, beq_eq_false_iff_ne.mpr curly]
  simp [step, star, quote, opening, roundEnd, squareEnd, curlyEnd, noSlash]

theorem run_plain {awaited chars : List Char} (plain : chars.all isPlainChar) :
    run ⟨.code false, awaited⟩ chars = some ⟨.code false, awaited⟩ := by
  induction chars with
  | nil => rfl
  | cons c rest ih =>
    rw [List.all_cons, Bool.and_eq_true] at plain
    rw [run_cons, step_plain plain.1 (.inl rfl), Option.bind_some]
    exact ih plain.2

/-- A separator leaves the brackets as they are, and a slash in front of it starts no comment. -/
theorem run_separator {separator : String} (separates : isSeparator separator) (slash : Bool)
    (awaited : List Char) :
    run ⟨.code slash, awaited⟩ separator.toList = some ⟨.code false, awaited⟩ := by
  rw [isSeparator, Bool.and_eq_true, Bool.and_eq_true, isPlain] at separates
  obtain ⟨⟨plain, nonempty⟩, noStar⟩ := separates
  cases chars : separator.toList with
  | nil =>
    rw [chars] at nonempty
    cases nonempty
  | cons c rest =>
    rw [chars] at plain noStar
    rw [List.all_cons, Bool.and_eq_true] at plain
    have other : c ≠ '*' := by simpa using noStar
    rw [run_cons, step_plain plain.1 (.inr other), Option.bind_some]
    exact run_plain plain.2

/-- The scan after a blank: what a character before it could have started is over. -/
def settle (scan : CodeScan) : CodeScan :=
  match scan.mode with
  | .code _ => { scan with mode := .code false }
  | .literal quote _ => { scan with mode := .literal quote false }
  | .comment _ => { scan with mode := .comment false }

theorem settle_settle (scan : CodeScan) : scan.settle.settle = scan.settle := by
  obtain ⟨mode, awaited⟩ := scan
  cases mode <;> rfl

theorem eq_of_settle_eq {scan : CodeScan} {slash : Bool} {awaited : List Char}
    (settled : scan.settle = ⟨.code slash, awaited⟩) :
    ∃ before, scan = ⟨.code before, awaited⟩ := by
  obtain ⟨mode, left⟩ := scan
  cases mode with
  | code before =>
    cases settled
    exact ⟨before, rfl⟩
  | literal quote escaped => cases settled
  | comment star => cases settled

theorem step_blank {c : Char} (blank : Text.isBlankChar c) (scan : CodeScan) :
    scan.step c = some scan.settle := by
  have plain := isPlainChar_of_isBlankChar blank
  have other {special : Char} (solid : Text.isBlankChar special = false) : c ≠ special := by
    rintro rfl
    rw [blank] at solid
    cases solid
  have noStar : c ≠ '*' := other (by decide)
  obtain ⟨mode, awaited⟩ := scan
  cases mode with
  | code slash => exact step_plain plain (.inr noStar)
  | literal quote escaped =>
    have inside : c ≠ quote.char := by
      cases quote with
      | double => exact other (by decide)
      | single => exact other (by decide)
      | back => exact other (by decide)
    have noBackslash : c ≠ '\\' := other (by decide)
    simp [step, settle, inside, noBackslash]
  | comment star =>
    have noSlash : c ≠ '/' := other (by decide)
    simp [step, settle, noSlash, noStar]

end CodeScan

/-- Code that a scan goes through, with nothing open at its end. Every bracket, string literal and
comment that is opened is closed again, in the right order. -/
def IsClosed (text : String) : Prop :=
  ∃ slash, CodeScan.run {} text.toList = some ⟨.code slash, []⟩

instance (text : String) : Decidable (IsClosed text) :=
  inferInstanceAs (Decidable (∃ slash, CodeScan.run {} text.toList = some ⟨.code slash, []⟩))

namespace IsClosed

/-- Closed code may stand inside any brackets. -/
theorem run {text : String} (closed : IsClosed text) (awaited : List Char) :
    ∃ slash, CodeScan.run ⟨.code false, awaited⟩ text.toList = some ⟨.code slash, awaited⟩ := by
  obtain ⟨slash, ran⟩ := closed
  exact ⟨slash, CodeScan.run_frame ran awaited⟩

theorem plain {text : String} (plain : isPlain text) : IsClosed text :=
  ⟨false, CodeScan.run_plain plain⟩

theorem joined {separator first second : String} (separates : isSeparator separator)
    (before : IsClosed first) (after : IsClosed second) :
    IsClosed (first ++ separator ++ second) := by
  obtain ⟨slash, ran⟩ := before
  obtain ⟨last, ranAfter⟩ := after
  refine ⟨last, ?_⟩
  rw [String.toList_append, String.toList_append, CodeScan.run_append, CodeScan.run_append, ran,
    Option.bind_some, CodeScan.run_separator separates, Option.bind_some]
  exact ranAfter

/-- Closed code stays closed with closed code in brackets behind it. -/
theorem bracketed {opening closing front inner : String} (bracket : (opening, closing) ∈ brackets)
    (before : IsClosed front) (inside : IsClosed inner) :
    IsClosed (front ++ opening ++ inner ++ closing) := by
  have turns :
      ∃ closer,
      (∀ slash, CodeScan.run ⟨.code slash, []⟩ opening.toList = some ⟨.code false, [closer]⟩) ∧
      ∀ slash, CodeScan.run ⟨.code slash, [closer]⟩ closing.toList = some ⟨.code false, []⟩ := by
    simp only [brackets, List.mem_cons, Prod.mk.injEq, List.not_mem_nil, or_false] at bracket
    rcases bracket with ⟨rfl, rfl⟩ | ⟨rfl, rfl⟩ | ⟨rfl, rfl⟩
    · exact ⟨')', by decide, by decide⟩
    · exact ⟨']', by decide, by decide⟩
    · exact ⟨'}', by decide, by decide⟩
  obtain ⟨closer, opens, closes⟩ := turns
  obtain ⟨slash, ran⟩ := before
  obtain ⟨last, ranInside⟩ := inside.run [closer]
  refine ⟨false, ?_⟩
  rw [String.toList_append, String.toList_append, String.toList_append, CodeScan.run_append,
    CodeScan.run_append, CodeScan.run_append, ran, Option.bind_some, opens, Option.bind_some,
    ranInside, Option.bind_some, closes]

end IsClosed

namespace CodeScan

variable {awaited : List Char}

theorem run_escaped (chars : List Char) :
    run ⟨.literal .double false, awaited⟩ (chars.flatMap Quoted.escape) =
      some ⟨.literal .double false, awaited⟩ := by
  refine Quoted.foldlM_escape ?_ (s := ⟨.literal .double true, awaited⟩) rfl (fun _ => rfl) chars
  intro c noQuote noBackslash
  have inside : c ≠ QuoteMark.double.char := noQuote
  simp [step, inside, noBackslash]

/-- A text whose comment ends are broken up does not end a comment. -/
theorem run_breakCommentEnds (chars : List Char) {star : Bool}
    (apart : star = false ∨ chars.head? ≠ some '/') :
    ∃ last, run ⟨.comment star, awaited⟩ (breakCommentEnds chars) =
      some ⟨.comment last, awaited⟩ := by
  refine breakCommentEnds_induction (motive := fun chars broken =>
    ∀ star, (star = false ∨ chars.head? ≠ some '/') →
    ∃ last, run ⟨.comment star, awaited⟩ broken = some ⟨.comment last, awaited⟩)
      ?_ ?_ ?_ chars star apart
  · intro star _
    exact ⟨star, rfl⟩
  · intro rest ih star _
    obtain ⟨last, ran⟩ := ih false (.inl rfl)
    refine ⟨last, ?_⟩
    cases star <;> exact ran
  · intro c rest other ih star apart
    have inside : (star && c == '/') = false := by
      rcases apart with rfl | noSlash
      · rfl
      · rw [List.head?_cons, ne_eq, Option.some.injEq] at noSlash
        rw [beq_eq_false_iff_ne.mpr noSlash, Bool.and_false]
    have taken : step ⟨.comment star, awaited⟩ c = some ⟨.comment (c == '*'), awaited⟩ := by
      simp [step, inside]
    have later : (c == '*') = false ∨ rest.head? ≠ some '/' := by
      by_cases isStar : c = '*'
      · exact .inr (other isStar)
      · exact .inl (beq_eq_false_iff_ne.mpr isStar)
    rw [run_cons, taken, Option.bind_some]
    exact ih _ later

end CodeScan

namespace IsClosed

theorem quoted (text : String) : IsClosed (quote text) := by
  refine ⟨false, ?_⟩
  have opened : CodeScan.step {} '"' = some ⟨.literal .double false, []⟩ := rfl
  rw [quote, String.toList_ofList, Quoted.encode, CodeScan.run_cons, opened, Option.bind_some,
    CodeScan.run_append, CodeScan.run_escaped, Option.bind_some]
  rfl

theorem commented (text : String) : IsClosed (blockComment text) := by
  obtain ⟨star, ran⟩ : ∃ star, CodeScan.run ⟨.comment false, []⟩ (breakCommentEnds text.toList) =
      some ⟨.comment star, []⟩ := CodeScan.run_breakCommentEnds _ (.inl rfl)
  have opened : CodeScan.run {} "/*".toList = some ⟨.comment false, []⟩ := by decide
  have ended (star : Bool) : CodeScan.run ⟨.comment star, []⟩ "*/".toList =
      some ⟨.code false, []⟩ := by
    revert star
    decide
  refine ⟨false, ?_⟩
  rw [blockComment, String.toList_append, String.toList_append, CodeScan.run_append,
    CodeScan.run_append, opened, Option.bind_some, String.toList_ofList, ran, Option.bind_some,
    ended]

end IsClosed

namespace CodeScan

/-- Blanks in front of closed code change nothing, and blanks after code do not close it. -/
theorem run_blanks {blanks : List Char} (blank : ∀ c ∈ blanks, Text.isBlankChar c)
    (scan : CodeScan) :
    scan.run blanks = some (if blanks.isEmpty then scan else scan.settle) := by
  induction blanks generalizing scan with
  | nil => rfl
  | cons c rest ih =>
    rw [List.forall_mem_cons] at blank
    rw [run_cons, step_blank blank.1, Option.bind_some, ih blank.2, settle_settle, ite_self]
    rfl

theorem exists_of_run_blanks {front blanks : List Char} (blank : ∀ c ∈ blanks, Text.isBlankChar c)
    {scan : CodeScan} {slash : Bool} {awaited : List Char}
    (ran : scan.run (front ++ blanks) = some ⟨.code slash, awaited⟩) :
    ∃ before, scan.run front = some ⟨.code before, awaited⟩ := by
  rw [run_append] at ran
  obtain ⟨middle, first, later⟩ := Option.bind_eq_some_iff.mp ran
  rw [run_blanks blank, Option.some.injEq] at later
  split at later
  · exact ⟨slash, by rw [first, later]⟩
  · obtain ⟨before, same⟩ := eq_of_settle_eq later
    exact ⟨before, by rw [first, same]⟩

end CodeScan

theorem IsClosed.trimmed {code : String} (closed : IsClosed code) : IsClosed (Text.trim code) := by
  obtain ⟨slash, ran⟩ := closed
  obtain ⟨front, frontBlank, left⟩ := Text.exists_trimLeft code.toList
  obtain ⟨back, backBlank, right⟩ := Text.exists_trimRight (Text.trimLeft code.toList)
  rw [left, CodeScan.run_append, CodeScan.run_blanks frontBlank, Option.bind_some] at ran
  have start : (if front.isEmpty then ({} : CodeScan) else CodeScan.settle {}) = {} := by
    split
    · rfl
    · rfl
  rw [start, right] at ran
  obtain ⟨before, ranFront⟩ := CodeScan.exists_of_run_blanks backBlank ran
  refine ⟨before, ?_⟩
  rw [Text.trim, String.toList_ofList]
  exact ranFront

namespace Text

/-- A line moved to the right. -/
def indentLine (level : Nat) (line : String) : String :=
  if line.isEmpty then "" else margin level ++ line

theorem chomp_eq (line : List Char) : chomp line = line ∨ line = chomp line ++ ['\r'] := by
  unfold chomp
  split
  · next front reversed =>
    right
    rw [← List.reverse_reverse line, reversed, List.reverse_cons]
  · exact .inl rfl

end Text

namespace CodeScan

variable {start here : CodeScan}

/-- What moves a line to the right has no effect where a line starts. -/
theorem run_indentLine (settled : start.settle = start) (level : Nat) (line : String) :
    start.run (Text.indentLine level line).toList = start.run line.toList := by
  have margin : start.run (Text.margin level).toList = some start := by
    have blank : ∀ c ∈ List.replicate (4 * level) ' ', Text.isBlankChar c := by
      intro c member
      rw [List.eq_of_mem_replicate member]
      decide
    rw [Text.margin, String.toList_ofList, run_blanks blank, settled, ite_self]
  unfold Text.indentLine
  split
  · next none => rw [String.isEmpty_iff.mp none]
  · rw [String.toList_append, run_append, margin, Option.bind_some]

/-- A carriage return before the end of a line has no effect after it. -/
theorem run_chomp {line : List Char} (ran : start.run line = some here) :
    ∃ before, start.run (Text.chomp line) = some before ∧ before.settle = here.settle := by
  rcases Text.chomp_eq line with same | ended
  · exact ⟨here, by rw [same, ran], rfl⟩
  · rw [ended, run_append] at ran
    obtain ⟨before, ranFront, last⟩ := Option.bind_eq_some_iff.mp ran
    have blank : ∀ c ∈ ['\r'], Text.isBlankChar c := List.forall_mem_singleton.mpr (by decide)
    rw [run_blanks blank, Option.some.injEq] at last
    refine ⟨before, ranFront, ?_⟩
    rw [← last]
    exact before.settle_settle.symm

/-- Lines can be moved to the right in code, in literals and in comments. The induction is on the
text that is left, with the scan at the start of the line in work and the one at the place in it. -/
theorem run_indented (level : Nat) {line chars : List Char} {slash : Bool} {awaited : List Char}
    (settled : start.settle = start) (ran : start.run line.reverse = some here)
    (later : here.run chars = some ⟨.code slash, awaited⟩) :
    ∃ last, start.run ("\n".intercalate ((Text.linesFrom line chars).map fun line =>
      Text.indentLine level (String.ofList line))).toList = some ⟨.code last, awaited⟩ := by
  fun_induction Text.linesFrom line chars generalizing start here with
  | case1 line none =>
    rw [List.isEmpty_iff.mp none] at ran
    cases ran
    exact ⟨slash, later⟩
  | case2 line some =>
    refine ⟨slash, ?_⟩
    rw [List.map_singleton, String.intercalate_singleton, run_indentLine settled,
      String.toList_ofList, ran]
    exact later
  | case3 line rest ih =>
    have newline (scan : CodeScan) : scan.step '\n' = some scan.settle :=
      step_blank (by decide) scan
    rw [run_cons, newline, Option.bind_some] at later
    obtain ⟨last, ranRest⟩ := ih here.settle_settle rfl later
    obtain ⟨before, ranLine, same⟩ := run_chomp ran
    have ranFirst :
        start.run (Text.indentLine level (String.ofList (Text.chomp line.reverse))).toList =
        some before := by
      rw [run_indentLine settled, String.toList_ofList, ranLine]
    rw [List.map_cons]
    cases more : (Text.linesFrom [] rest).map fun line =>
      Text.indentLine level (String.ofList line) with
    | nil =>
      rw [more] at ranRest
      have ended : here.settle = ⟨.code last, awaited⟩ := Option.some.inj ranRest
      obtain ⟨slash, rfl⟩ := eq_of_settle_eq (same.trans ended)
      exact ⟨slash, by rw [String.intercalate_singleton, ranFirst]⟩
    | cons second others =>
      rw [more] at ranRest
      refine ⟨last, ?_⟩
      have separated : before.run "\n".toList = some here.settle := by
        have taken : before.run ['\n'] = some before.settle := by
          rw [run_cons, newline, Option.bind_some]
          rfl
        rw [← same]
        exact taken
      rw [String.intercalate_cons_cons, String.toList_append, String.toList_append, run_append,
        run_append, ranFirst, Option.bind_some, separated, Option.bind_some]
      exact ranRest
  | case4 line c rest other ih =>
    rw [run_cons] at later
    obtain ⟨next, taken, later⟩ := Option.bind_eq_some_iff.mp later
    refine ih settled ?_ later
    rw [List.reverse_cons, run_append, ran, Option.bind_some, run_cons, taken]
    rfl

end CodeScan

theorem IsClosed.indented {code : String} (closed : IsClosed code) (level : Nat) :
    IsClosed (Text.indent code level) := by
  obtain ⟨slash, ran⟩ := closed
  have moved :
      ∃ last, CodeScan.run {} ("\n".intercalate ((Text.linesFrom [] code.toList).map fun line =>
      Text.indentLine level (String.ofList line))).toList = some ⟨.code last, []⟩ :=
    CodeScan.run_indented level rfl rfl ran
  rw [Text.indent, Text.lines, List.map_map]
  exact moved

end RenderTemplate
