import RenderTemplate.ModuleText
import RenderTemplate.Proofs.ClosedCode

namespace RenderTemplate

namespace Text

/-- What becomes of a text inside of a line when all lines are moved to the right: its first line
goes on with the line before it, and only the others get a margin. -/
def hang (level : Nat) (text : String) : String :=
  match lines text with
  | [] => ""
  | first :: rest => "\n".intercalate (first :: rest.map (indentLine level))

theorem linesFrom_newline (line front rest : List Char) :
    linesFrom line (front ++ '\n' :: rest) = linesFrom line (front ++ ['\n']) ++
      linesFrom [] rest := by
  induction front generalizing line with
  | nil => simp [linesFrom]
  | cons c front ih =>
    by_cases newline : c = '\n'
    · subst newline
      simp only [List.cons_append, linesFrom, ih]
    · simp only [List.cons_append, linesFrom, ih]

theorem linesFrom_ne_nil {line chars : List Char} (filled : line ≠ [] ∨ chars ≠ []) :
    linesFrom line chars ≠ [] := by
  fun_induction linesFrom line chars with
  | case1 line empty => simp_all
  | case2 line _ => simp
  | case3 line rest _ => simp
  | case4 line c rest _ ih => exact ih (.inl (by simp))

theorem linesFrom_of_not_mem {line chars : List Char} (plain : '\n' ∉ chars)
    (filled : line ≠ [] ∨ chars ≠ []) :
    linesFrom line chars = [line.reverse ++ chars] := by
  fun_induction linesFrom line chars with
  | case1 line empty => simp_all
  | case2 line _ => simp
  | case3 line rest _ => simp at plain
  | case4 line c rest _ ih =>
    rw [ih (fun held => plain (List.mem_cons_of_mem c held)) (.inl (by simp))]
    simp

/-- A line that ends in a character of its own is the same with a line feed after it and without. -/
theorem linesFrom_ended {c : Char} (ordinary : c ≠ '\n' ∧ c ≠ '\r') (line chars : List Char) :
    linesFrom line (chars ++ [c, '\n']) = linesFrom line (chars ++ [c]) := by
  induction chars generalizing line with
  | nil =>
    have whole : chomp (line.reverse ++ [c]) = line.reverse ++ [c] := by
      simp [chomp, ordinary.2]
    simp [linesFrom, ordinary.1, whole]
  | cons d chars ih =>
    by_cases newline : d = '\n'
    · subst newline
      simp only [List.cons_append, linesFrom, ih]
    · simp only [List.cons_append, linesFrom, ih]

/-- A carriage return is taken away at the end of a line only. -/
theorem chomp_append {front : List Char} (ended : front.getLast? ≠ some '\r') (line : List Char) :
    chomp (front ++ line) = front ++ chomp line := by
  rcases List.eq_nil_or_concat line with rfl | ⟨rest, last, rfl⟩
  · have whole : chomp front = front := by
      rcases chomp_eq front with same | cut
      · exact same
      · exact absurd (by rw [cut, List.getLast?_concat]) ended
    simpa [chomp] using whole
  · by_cases returns : last = '\r'
    · simp [chomp, returns]
    · simp [chomp, returns]

/-- A text inside of a line has the same lines as alone, but for what stands before it. -/
theorem linesFrom_behind {front : List Char} (ended : front.getLast? ≠ some '\r')
    {line chars first : List Char} {rest : List (List Char)}
    (alone : linesFrom line chars = first :: rest) :
    linesFrom (line ++ front.reverse) chars = (front ++ first) :: rest := by
  fun_induction linesFrom line chars with
  | case1 line _ => cases alone
  | case2 line filled =>
    cases alone
    have longer : line ++ front.reverse ≠ [] := by
      intro none
      exact filled (by simp [(List.append_eq_nil_iff.mp none).1])
    simp [linesFrom, longer]
  | case3 line chars _ =>
    cases alone
    simp only [linesFrom, List.reverse_append, List.reverse_reverse, chomp_append ended]
  | case4 line c chars _ ih => simpa [linesFrom] using ih alone

/-- What has no newline belongs to the line that it stands in. -/
theorem linesFrom_append {front : List Char} (plain : '\n' ∉ front) (line chars : List Char) :
    linesFrom line (front ++ chars) = linesFrom (front.reverse ++ line) chars := by
  induction front generalizing line with
  | nil => rfl
  | cons c front ih =>
    rw [List.mem_cons, not_or] at plain
    simp [linesFrom, Ne.symm plain.1, ih plain.2]

theorem lines_ne_nil {text : String} (filled : text ≠ "") : lines text ≠ [] := by
  have chars : text.toList ≠ [] := fun none => filled (String.toList_eq_nil_iff.mp none)
  simp [lines, linesFrom_ne_nil (.inr chars)]

theorem indent_eq (text : String) (level : Nat) :
    indent text level = "\n".intercalate ((lines text).map (indentLine level)) := rfl

/-- The lines before a newline and those behind it are indented by themselves. -/
theorem indent_newline (front : String) {rest : String} (filled : rest ≠ "") (level : Nat) :
    indent (front ++ "\n" ++ rest) level = indent (front ++ "\n") level ++ "\n" ++
      indent rest level := by
  have parts : lines (front ++ "\n" ++ rest) = lines (front ++ "\n") ++ lines rest := by
    have split := linesFrom_newline [] front.toList rest.toList
    simp [lines, split]
  have earlier : lines (front ++ "\n") ≠ [] := lines_ne_nil (by simp)
  rw [indent_eq, parts, List.map_append,
    String.intercalate_append_of_ne_nil (by simpa using earlier)
    (by simpa using lines_ne_nil filled)]
  rfl

theorem lines_behind {front text first : String} {rest : List String} (plain : '\n' ∉ front.toList)
    (ended : front.toList.getLast? ≠ some '\r') (alone : lines text = first :: rest) :
    lines (front ++ text) = (front ++ first) :: rest := by
  obtain ⟨line, more, found, rfl, rfl⟩ := List.map_eq_cons_iff.mp alone
  have behind := linesFrom_behind ended found
  rw [List.nil_append] at behind
  rw [lines, String.toList_append, linesFrom_append plain, List.append_nil, behind]
  simp

theorem intercalate_append_cons (separator front first : String) (rest : List String) :
    separator.intercalate ((front ++ first) :: rest) =
      front ++ separator.intercalate (first :: rest) := by
  cases rest with
  | nil => simp
  | cons second rest => simp [String.append_assoc]

theorem indent_behind {front text : String} (plain : '\n' ∉ front.toList)
    (ended : front.toList.getLast? ≠ some '\r') (started : front ≠ "") (filled : text ≠ "")
    (level : Nat) :
    indent (front ++ text) level = margin level ++ front ++ hang level text := by
  obtain ⟨first, rest, alone⟩ := List.exists_cons_of_ne_nil (lines_ne_nil filled)
  have moved : indentLine level (front ++ first) = margin level ++ (front ++ first) := by
    simp [indentLine, started]
  rw [indent_eq, lines_behind plain ended alone, List.map_cons, moved, intercalate_append_cons,
    intercalate_append_cons, hang, alone, String.append_assoc]

theorem indent_ended (text : String) (level : Nat) :
    indent (text ++ ";" ++ "\n") level = indent (text ++ ";") level := by
  have same := linesFrom_ended (c := ';') (by decide) [] text.toList
  simp [indent_eq, lines, same]

/-- Lines up to a statement that returns something, and a last line after it. -/
theorem indent_returned (front code : String) {last : String} (filled : last ≠ "") (level : Nat) :
    indent (front ++ "\n" ++ (margin 1 ++ "return " ++ (code ++ ";") ++ "\n" ++ last)) level =
      indent (front ++ "\n") level ++ "\n" ++
        (margin level ++ (margin 1 ++ "return ") ++ hang level (code ++ ";") ++ "\n" ++
          indent last level) := by
  have plain : '\n' ∉ (margin 1 ++ "return ").toList := by decide
  have whole : (margin 1 ++ "return ").toList.getLast? ≠ some '\r' := by decide
  have joined : margin 1 ++ "return " ++ code ++ ";" = margin 1 ++ "return " ++ (code ++ ";") :=
    String.append_assoc
  have ended := indent_ended (margin 1 ++ "return " ++ code) level
  rw [joined] at ended
  rw [indent_newline _ (by simp), indent_newline _ filled, ended,
    indent_behind plain whole (by decide) (by simp)]

theorem lines_of_not_mem {text : String} (plain : '\n' ∉ text.toList) (filled : text ≠ "") :
    lines text = [text] := by
  have chars : text.toList ≠ [] := fun none => filled (String.toList_eq_nil_iff.mp none)
  simp [lines, linesFrom_of_not_mem plain (.inr chars)]

/-- The last line of a text with several lines gets a margin. -/
theorem exists_hang_newline (front : String) {last : String} (plain : '\n' ∉ last.toList)
    (filled : last ≠ "") (level : Nat) :
    ∃ before, hang level (front ++ "\n" ++ last) = before ++ "\n" ++ (margin level ++ last) := by
  have started : front ++ "\n" ≠ "" := by simp
  obtain ⟨first, rest, earlier⟩ := List.exists_cons_of_ne_nil (lines_ne_nil started)
  have split := linesFrom_newline [] front.toList last.toList
  have parts : lines (front ++ "\n" ++ last) = first :: (rest ++ [last]) := by
    rw [← List.cons_append, ← earlier, ← lines_of_not_mem plain filled]
    simp [lines, split]
  have moved : indentLine level last = margin level ++ last := by simp [indentLine, filled]
  refine ⟨"\n".intercalate (first :: rest.map (indentLine level)), ?_⟩
  rw [hang, parts]
  dsimp only
  rw [List.map_append, List.map_singleton, moved, ← List.cons_append,
    String.intercalate_append_of_ne_nil (by simp) (by simp), String.intercalate_singleton]

/-- What stands after the last occurrence of a character is known from the text. -/
theorem eq_of_append_cons_eq {c : Char} {front other rest last : List Char}
    (same : front ++ c :: rest = other ++ c :: last) (absent : c ∉ rest) (missing : c ∉ last) :
    rest = last := by
  rcases List.append_eq_append_iff.mp same with ⟨between, _, later⟩ | ⟨between, _, later⟩
  · cases between with
    | nil => exact (List.cons.inj later).2
    | cons d between => exact absurd (by simp [(List.cons.inj later).2]) absent
  · cases between with
    | nil => exact (List.cons.inj later).2.symm
    | cons d between => exact absurd (by simp [(List.cons.inj later).2]) missing

/-- A statement keeps its text when lines are moved to the right exactly if it stands on one
line. -/
theorem hang_eq_self_iff {level : Nat} (moves : 0 < level) (code : String) :
    hang level (code ++ ";") = code ++ ";" ↔ '\n' ∉ code.toList := by
  constructor
  · intro same held
    obtain ⟨reversed, front, split, plain⟩ := List.eq_append_cons_of_mem (List.mem_reverse.mpr held)
    have parts : (code ++ ";").toList = front.reverse ++ '\n' :: (reversed.reverse ++ [';']) := by
      rw [String.toList_append, ← List.reverse_reverse code.toList, split]
      simp
    have text : code ++ ";" = String.ofList front.reverse ++ "\n" ++
        String.ofList (reversed.reverse ++ [';']) := by
      rw [← String.toList_inj, parts]
      simp
    have last : '\n' ∉ (String.ofList (reversed.reverse ++ [';'])).toList := by simpa using plain
    obtain ⟨before, hung⟩ := exists_hang_newline (String.ofList front.reverse) last (by simp) level
    -- Both texts have the same last line, and only one of them has the margin in it.
    rw [← text, same, ← String.toList_inj, parts] at hung
    have lines : front.reverse ++ '\n' :: (reversed.reverse ++ [';']) =
        before.toList ++ '\n' :: ((margin level).toList ++ (reversed.reverse ++ [';'])) := by
      simpa using hung
    have last := eq_of_append_cons_eq lines (by simpa using plain) (by simpa [margin] using plain)
    have lengths := congrArg List.length last
    simp only [List.length_append, margin, String.toList_ofList, List.length_replicate] at lengths
    omega
  · intro plain
    have line : '\n' ∉ (code ++ ";").toList := by simpa using plain
    rw [hang, lines_of_not_mem line (by simp)]
    simp

end Text

/-- Whether a text that is made for each expression is always the same around what it makes of the
expression. -/
def Carries (text carried : String → String) : Prop :=
  ∃ before after, ∀ expression, text expression = before ++ carried expression ++ after

namespace Carries

variable {text carried : String → String}

theorem refl (carried : String → String) : Carries carried carried :=
  ⟨"", "", fun expression => by simp⟩

theorem around (carries : Carries text carried) (front back : String) :
    Carries (fun expression => front ++ text expression ++ back) carried := by
  obtain ⟨before, after, made⟩ := carries
  refine ⟨front ++ before, after ++ back, fun expression => ?_⟩
  simp only [made, String.append_assoc]

theorem behind (carries : Carries text carried) (front : String) :
    Carries (fun expression => front ++ text expression) carried := by
  simpa using carries.around front ""

theorem followed (carries : Carries text carried) (back : String) :
    Carries (fun expression => text expression ++ back) carried := by
  simpa using carries.around "" back

/-- One of several pieces may be the one with the expression. -/
theorem intercalated (carries : Carries text carried) (separator : String)
    (earlier later : List String) :
    Carries (fun expression => separator.intercalate (earlier ++ text expression :: later))
      carried := by
  have first :
      Carries (fun expression => separator.intercalate (text expression :: later)) carried := by
    cases later with
    | nil => simpa using carries
    | cons next more =>
      have whole := carries.followed (separator ++ separator.intercalate (next :: more))
      simpa [String.append_assoc] using whole
  by_cases none : earlier = []
  · simpa [none] using first
  · have whole := first.behind (separator.intercalate earlier ++ separator)
    have split (expression : String) : separator.intercalate (earlier ++ text expression :: later) =
        separator.intercalate earlier ++ separator ++
          separator.intercalate (text expression :: later) :=
      String.intercalate_append_of_ne_nil none (by simp)
    simpa only [split] using whole

end Carries

/-- Whether modules of a format have the render function inside of another function, with its lines
moved to the right. -/
def ModuleFormat.moves : ModuleFormat → Bool
  | .amd | .global => true
  | _ => false

/-- What modules of a format have in the place of a text that stands in the render function. The
lines inside of an expression are moved like all others. -/
def ModuleFormat.carried (format : ModuleFormat) (text : String) : String :=
  if format.moves then Text.hang 1 text else text

namespace ModuleParts

/-- The same module with another expression to render. -/
def withExpression (parts : ModuleParts) (expression : String) : ModuleParts :=
  { parts with render := { parts.render with expression := expression } }

section

variable (parts : ModuleParts)

/-- The render function with an expression, and with its helpers outside of it. -/
def hoistedWith (expression : String) : String :=
  (parts.withExpression expression).render.hoisted

/-- A function returns its expression, wherever its helpers stand. -/
theorem enclosing_carries (declarations : List String) :
    Carries (fun expression => (parts.withExpression expression).render.enclosing declarations)
      fun expression => "return " ++ (expression ++ ";") := by
  have ended : ";\n" = ";" ++ "\n" := by decide
  have closed : "\n\x7d" = "\n" ++ "\x7d" := by decide
  refine ⟨"function (" ++ parts.render.parameters ++ ") \x7b\n" ++
    String.join (declarations.map fun declaration => Text.indent declaration 1 ++ "\n") ++
    Text.margin 1, "\n\x7d", fun expression => ?_⟩
  simp only [withExpression, RenderFunction.enclosing, Helper.returnLine, ended, closed,
    String.append_assoc]

/-- Where the lines of the render function are moved to the right, so are those of the
expression. -/
theorem indented_carries {text : String → String} (carries : Carries text parts.hoistedWith) :
    Carries (fun expression => Text.indent (text expression) 1)
      fun expression => "return " ++ Text.hang 1 (expression ++ ";") := by
  obtain ⟨before, after, made⟩ := carries
  have ended : ";\n" = ";" ++ "\n" := by decide
  have opened : ") \x7b\n" = ") \x7b" ++ "\n" := by decide
  have split (expression : String) : text expression =
      before ++ "function (" ++ parts.render.parameters ++ ") \x7b" ++ "\n" ++
        (Text.margin 1 ++ "return " ++ (expression ++ ";") ++ "\n" ++ ("\x7d" ++ after)) := by
    simp only [made, hoistedWith, withExpression, RenderFunction.hoisted, RenderFunction.enclosing,
      Helper.returnLine, ended, opened, List.map_nil, String.join_nil, String.append_empty,
      String.append_assoc]
  refine ⟨Text.indent (before ++ "function (" ++ parts.render.parameters ++ ") \x7b" ++ "\n") 1 ++
    "\n" ++
    Text.margin 1 ++ Text.margin 1, "\n" ++ Text.indent ("\x7d" ++ after) 1, fun expression => ?_⟩
  dsimp only
  rw [split, Text.indent_returned _ _ (by simp)]
  simp only [String.append_assoc]

/-- In every format the module is the same around the statement that returns the expression. -/
theorem text_carries (format : ModuleFormat) :
    Carries (fun expression => (parts.withExpression expression).text format)
      fun expression => "return " ++ format.carried (expression ++ ";") := by
  have whole := Carries.refl parts.hoistedWith
  have returned : Carries parts.hoistedWith fun expression => "return " ++ (expression ++ ";") :=
    parts.enclosing_carries []
  cases format with
  | commonjs =>
    let required :=
      parts.imports.map fun dependency => assignment dependency.localName (requirement dependency)
    have lines := (returned.around "module.exports = " ";").intercalated "\n"
      (useStrict :: required ++ parts.preamble) []
    exact lines.followed "\n"
  | es6 =>
    have lines := (returned.behind "export default ").intercalated "\n"
      (parts.imports.map importDeclaration ++ parts.preamble) []
    exact lines.followed "\n"
  | typescript =>
    have lines :=
      (returned.around ("var " ++ parts.name.getD "render" ++ " = ") ";").intercalated "\n"
      (parts.imports.map typedImport ++ parts.preamble) ["export = " ++ parts.name.getD "render" ++
        ";"]
    exact lines.followed "\n"
  | global =>
    have body := (whole.around "return " ";").intercalated "\n" (useStrict :: parts.preamble) []
    exact (parts.indented_carries body).around ("var " ++ parts.name.getD "template" ++
      " = (function () \x7b\n") _
  | amd =>
    let bindings := parts.imports.zipIdx.map fun found => amdBinding found.1 found.2
    have body := (whole.around "return " ";").intercalated "\n"
      (useStrict :: bindings.filterMap (·.2) ++ parts.preamble) []
    exact (parts.indented_carries body).around ("define(" ++
      (parts.name.map fun name => quote name ++ ", ").getD "" ++ "[\n" ++
      ",\n".intercalate (parts.imports.map fun dependency =>
        Text.margin 1 ++ quote dependency.source) ++
      "\n], function (" ++ ", ".intercalate (bindings.map (·.1)) ++ ") \x7b\n") _
  | jsrt =>
    exact (parts.enclosing_carries parts.render.helpers).behind
      (String.join (parts.comments.map fun comment => blockComment comment ++ " "))

end

end ModuleParts

/-- A format changes an expression only if it moves it and the expression has several lines. -/
theorem ModuleFormat.carried_eq_self_iff (format : ModuleFormat) (expression : String) :
    format.carried (expression ++ ";") = expression ++ ";" ↔ format.moves = false ∨
      '\n' ∉ expression.toList := by
  unfold carried
  cases format.moves with
  | false => simp
  | true => simpa using Text.hang_eq_self_iff Nat.one_pos expression

/-- Around its expression a module does not depend on it. The expression itself is there as it was
written, in all formats but two; in these, which move lines to the right, it is so exactly if it
stands on one line. So two formats have the same expression exactly if both move lines, or none of
them does, or there is one line only. -/
theorem ModuleParts.text_verbatim_iff (parts : ModuleParts) (format : ModuleFormat) :
    Carries (fun expression => (parts.withExpression expression).text format)
      (fun expression => "return " ++ format.carried (expression ++ ";")) ∧
    (∀ expression, format.carried (expression ++ ";") = expression ++ ";" ↔
      format.moves = false ∨ '\n' ∉ expression.toList) ∧
    ∀ other expression, format.carried (expression ++ ";") =
      ModuleFormat.carried other (expression ++ ";") ↔
      format.moves = other.moves ∨ '\n' ∉ expression.toList := by
  refine ⟨parts.text_carries format, format.carried_eq_self_iff, fun other expression => ?_⟩
  have hung := Text.hang_eq_self_iff Nat.one_pos expression
  unfold ModuleFormat.carried
  cases format.moves with
  | false =>
    cases other.moves with
    | false => simp
    | true => simpa [eq_comm] using hung
  | true =>
    cases other.moves with
    | false => simpa using hung
    | true => simp

/-- A module with a template literal of two lines. -/
def twoLineModule : ModuleParts :=
  ⟨some "name", [⟨"React", "react", .moduleValue⟩], [], ⟨[], "f(`a\nb`)", ""⟩⟩

/-- The lines of a template literal do not stay as they are in a module that is a definition or a
global variable. -/
theorem twoLineModule_changed :
    "return f(`a\nb`);".toList <:+: (twoLineModule.text .commonjs).toList ∧
      ¬ "return f(`a\nb`);".toList <:+: (twoLineModule.text .amd).toList ∧
      ¬ "return f(`a\nb`);".toList <:+: (twoLineModule.text .global).toList := by
  decide +kernel

end RenderTemplate
