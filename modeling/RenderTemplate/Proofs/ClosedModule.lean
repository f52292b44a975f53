import RenderTemplate.ModuleText
import RenderTemplate.Proofs.ClosedCode

namespace RenderTemplate

namespace CodeScan

/-- Whether a text goes from some open brackets to others, whatever stands before it in code. What
stands around closed code in a module opens brackets and closes them, so a text is followed through
by the brackets that are open after each piece of it. -/
def Turns (text : String) (before after : List Char) : Prop :=
  ∀ slash, run ⟨.code slash, before⟩ text.toList = some ⟨.code false, after⟩

instance (text : String) (before after : List Char) : Decidable (Turns text before after) :=
  inferInstanceAs
    (Decidable (∀ slash, run ⟨.code slash, before⟩ text.toList = some ⟨.code false, after⟩))

/-- Whether a text leaves these brackets open. -/
def Opens (text : String) (awaited : List Char) : Prop :=
  run {} text.toList = some ⟨.code false, awaited⟩

instance (text : String) (awaited : List Char) : Decidable (Opens text awaited) :=
  inferInstanceAs (Decidable (run {} text.toList = some ⟨.code false, awaited⟩))

namespace Opens

variable {front piece text : String} {before after : List Char}

/-- A text that closes some brackets and opens others goes on from what was open before it. -/
theorem turn (opens : Opens front before) (turns : Turns text before after) :
    Opens (front ++ text) after := by
  unfold Opens at opens ⊢
  rw [String.toList_append, run_append, opens, Option.bind_some]
  exact turns false

/-- Closed code can stand between any two texts. -/
theorem around (opens : Opens front before) (closed : IsClosed piece)
    (turns : Turns text before after) :
    Opens (front ++ piece ++ text) after := by
  obtain ⟨slash, ran⟩ := closed.run before
  unfold Opens at opens ⊢
  rw [String.toList_append, String.toList_append, run_append, run_append, opens, Option.bind_some,
    ran, Option.bind_some]
  exact turns slash

theorem isClosed (opens : Opens text []) : IsClosed text :=
  ⟨false, opens⟩

theorem append (opens : Opens front []) (closed : IsClosed piece) : IsClosed (front ++ piece) := by
  obtain ⟨slash, ran⟩ := closed
  refine ⟨slash, ?_⟩
  rw [String.toList_append, run_append, opens, Option.bind_some]
  exact ran

/-- Closed code, each piece with its end. -/
theorem terminated (opens : Opens front before) {terminator : String}
    (separates : isSeparator terminator) {pieces : List String}
    (each : ∀ piece ∈ pieces, IsClosed piece) :
    Opens (front ++ String.join (pieces.map (· ++ terminator))) before := by
  induction pieces generalizing front with
  | nil => simpa using opens
  | cons piece pieces ih =>
    rw [List.forall_mem_cons] at each
    have ended : Turns terminator before before := fun slash => run_separator separates slash before
    have first := opens.around each.1 ended
    have rest := ih first each.2
    rwa [List.map_cons, String.join_cons, ← String.append_assoc, ← String.append_assoc]

theorem indented (opens : Opens front before) {pieces : List String}
    (each : ∀ piece ∈ pieces, IsClosed piece) :
    Opens (front ++ String.join (pieces.map fun piece => Text.indent piece 1 ++ "\n")) before := by
  have moved : ∀ piece ∈ pieces.map (Text.indent · 1), IsClosed piece := by
    rw [List.forall_mem_map]
    exact fun piece member => (each piece member).indented 1
  have newline : isSeparator "\n" := by decide
  have all := opens.terminated newline moved
  rwa [List.map_map] at all

theorem returned (opens : Opens front before) (closed : IsClosed piece) :
    Opens (front ++ Helper.returnLine piece) before := by
  have word : Turns (Text.margin 1 ++ "return ") before before :=
    fun slash => run_separator (by decide) slash before
  have ended : Turns ";\n" before before := fun slash => run_separator (by decide) slash before
  have line := (opens.turn word).around closed ended
  rwa [Helper.returnLine, ← String.append_assoc, ← String.append_assoc]

theorem returnedIfAny (opens : Opens front before) {result : Option String}
    (closed : ∀ code ∈ result, IsClosed code) :
    Opens (front ++ (result.map Helper.returnLine).getD "") before := by
  cases result with
  | none => simpa using opens
  | some code => exact opens.returned (closed code rfl)

end Opens

end CodeScan

namespace IsClosed

open CodeScan

theorem assignment {name value : String} (named : IsClosed name) (closed : IsClosed value) :
    IsClosed (ModuleParts.assignment name value) := by
  have word : Opens "var " [] := by decide
  exact ((word.around named (by decide : Turns " = " [] [])).around closed
    (by decide : Turns ";" [] [])).isClosed

theorem intercalated {separator : String} (separates : isSeparator separator) {pieces : List String}
    (each : ∀ piece ∈ pieces, IsClosed piece) : IsClosed (separator.intercalate pieces) :=
  intercalate_of_joined (motive := IsClosed) (by decide) (joined separates) each

/-- The text of a helper is closed if its name, its parameters, its statements and its result
are. -/
theorem helper {found : Helper} (named : IsClosed found.name)
    (parameters : ∀ name ∈ found.parameters, IsClosed name)
    (statements : ∀ statement ∈ found.statements, IsClosed statement)
    (result : ∀ code ∈ found.result, IsClosed code) :
    IsClosed found.text := by
  have word : Opens "function " [] := by decide
  have head := word.around named (by decide : Turns "(" [] [')'])
  have list : IsClosed (", ".intercalate found.parameters) := intercalated (by decide) parameters
  have body := head.around list (by decide : Turns ") \x7b\n" [')'] ['}'])
  exact (((body.indented statements).returnedIfAny result).turn
    (by decide : Turns "\x7d" ['}'] [])).isClosed

/-- A render function around the declarations of its helpers. -/
theorem enclosing {render : RenderFunction} (parameters : IsClosed render.parameters)
    (expression : IsClosed render.expression) {declarations : List String}
    (each : ∀ declaration ∈ declarations, IsClosed declaration) :
    IsClosed (render.enclosing declarations) := by
  have word : Opens "function (" [')'] := by decide
  have body := word.around parameters (by decide : Turns ") \x7b\n" [')'] ['}'])
  exact (((body.indented each).returned expression).turn
    (by decide : Turns "\x7d" ['}'] [])).isClosed

end IsClosed

/-- Closed code as a notion of balance. -/
def Bracketing.closedCode : Bracketing where
  balanced := IsClosed
  admits _ := True
  encloses := IsClosed
  helper found := IsClosed found.text
  plain := .plain
  quoted := .quoted
  commented _ := .commented _
  joined := .joined
  bracketed := .bracketed
  trimmed := .trimmed
  enclosed := id
  enclosedTrimmed := .trimmed
  assigned plain closed := .assignment (.plain plain) closed
  declared := .helper

/-- Whether the pieces of a module are closed, and its names plain. -/
structure ModuleParts.IsSound (parts : ModuleParts) : Prop where
  name : ∀ name ∈ parts.name, isPlain name
  locals : ∀ dependency ∈ parts.imports, isPlain dependency.localName
  members : ∀ dependency ∈ parts.imports, ∀ name, dependency.binding = .member name → isPlain name
  helpers : ∀ helper ∈ parts.render.helpers, IsClosed helper
  parameters : IsClosed parts.render.parameters
  expression : IsClosed parts.render.expression

namespace ModuleParts

open CodeScan

theorem joinLines_isClosed {lines : List String} (each : ∀ line ∈ lines, IsClosed line) :
    IsClosed (joinLines lines) :=
  Bracketing.closedCode.followed (by decide) (IsClosed.intercalated (by decide) each)

/-- What is required is closed: its path is quoted, and the name of a member is plain. -/
theorem requirement_isClosed {dependency : Dependency}
    (members : ∀ name, dependency.binding = .member name → isPlain name) :
    IsClosed (requirement dependency) := by
  have word : Opens "require(" [')'] := by decide
  have required := word.around (.quoted dependency.source) (by decide : Turns ")" [')'] [])
  unfold requirement
  cases kind : dependency.binding with
  | moduleValue => exact required.isClosed
  | allExports => exact required.isClosed
  | defaultExport => exact (required.turn (by decide : Turns ".default" [] [])).isClosed
  | member name =>
    exact (required.turn (by decide : Turns "." [] [])).append (.plain (members name kind))

theorem importDeclaration_isClosed {dependency : Dependency} (named : isPlain dependency.localName)
    (members : ∀ name, dependency.binding = .member name → isPlain name) :
    IsClosed (importDeclaration dependency) := by
  have word : Opens "import " [] := by decide
  have closes {names : String} (closed : IsClosed names) :
      IsClosed ("import " ++ names ++ " from " ++ quote dependency.source ++ ";") :=
    ((word.around closed (by decide : Turns " from " [] [])).around (.quoted _)
      (by decide : Turns ";" [] [])).isClosed
  have all : IsClosed ("* as " ++ dependency.localName) :=
    .plain (by rw [isPlain_append, named]; decide)
  have brace : Opens "\x7b " ['}'] := by decide
  unfold importDeclaration
  cases kind : dependency.binding with
  | moduleValue => exact closes all
  | allExports => exact closes all
  | defaultExport => exact closes (.plain named)
  | member name =>
    have member : IsClosed name := .plain (members name kind)
    refine closes ?_
    dsimp only
    split
    · exact (brace.around member (by decide : Turns " \x7d" ['}'] [])).isClosed
    · exact ((brace.around member (by decide : Turns " as " ['}'] ['}'])).around (.plain named)
        (by decide : Turns " \x7d" ['}'] [])).isClosed

theorem typedImport_isClosed {dependency : Dependency} (named : isPlain dependency.localName)
    (members : ∀ name, dependency.binding = .member name → isPlain name) :
    IsClosed (typedImport dependency) := by
  have word : Opens "import " [] := by decide
  unfold typedImport
  split
  · exact ((word.around (.plain named) (by decide : Turns " = require(" [] [')'])).around
      (.quoted _)
      (by decide : Turns ");" [')'] [])).isClosed
  · exact importDeclaration_isClosed named members

/-- A parameter of the factory, and the variable that is set from it. -/
theorem amdBinding_isClosed {dependency : Dependency} (named : isPlain dependency.localName)
    (members : ∀ name, dependency.binding = .member name → isPlain name) (index : Nat) :
    IsClosed (amdBinding dependency index).1 ∧
      ∀ statement ∈ (amdBinding dependency index).2, IsClosed statement := by
  have parameter : isPlain ("$" ++ toString index) := by
    have digits := isSeparator_toString index
    rw [isSeparator, Bool.and_eq_true, Bool.and_eq_true] at digits
    rw [isPlain_append, digits.1.1]
    decide
  have assigned {value : String} (plain : isPlain value) :
      ∀ statement ∈ some (assignment dependency.localName ("$" ++ toString index ++ value)),
        IsClosed statement := by
    intro statement same
    cases same
    exact .assignment (.plain named) (.plain (by rw [isPlain_append, parameter, plain]; rfl))
  unfold amdBinding
  cases kind : dependency.binding with
  | moduleValue => exact ⟨.plain named, by simp⟩
  | allExports => exact ⟨.plain named, by simp⟩
  | defaultExport => exact ⟨.plain parameter, assigned (by decide)⟩
  | member name =>
    refine ⟨.plain parameter, ?_⟩
    have path : isPlain ("." ++ name) := by
      rw [isPlain_append, members name kind]
      decide
    have whole := assigned path
    rwa [← String.append_assoc] at whole

section

variable {parts : ModuleParts} (sound : parts.IsSound)

include sound

theorem IsSound.hoisted : IsClosed parts.render.hoisted :=
  .enclosing sound.parameters sound.expression (by simp)

theorem IsSound.inlined : IsClosed parts.render.inlined :=
  .enclosing sound.parameters sound.expression sound.helpers

/-- The helpers and the comments in front of the render function are closed. -/
theorem IsSound.preamble : ∀ line ∈ parts.preamble, IsClosed line := by
  rw [ModuleParts.preamble, List.forall_mem_append, List.forall_mem_map]
  exact ⟨sound.helpers, fun comment _ => .commented comment⟩

/-- The lines of a module whose first one makes it strict: the imports, what stands before the
render function, and the statement with it. -/
theorem IsSound.strictLines {statements : List String} {last : String}
    (each : ∀ line ∈ statements, IsClosed line) (ended : IsClosed last) :
    ∀ line ∈ useStrict :: statements ++ parts.preamble ++ [last], IsClosed line := by
  have strict : IsClosed useStrict := by decide
  simp only [List.forall_mem_append, List.forall_mem_cons]
  exact ⟨⟨⟨strict, each⟩, sound.preamble⟩, ended, by simp⟩

theorem IsSound.returned : IsClosed ("return " ++ parts.render.hoisted ++ ";") := by
  have word : Opens "return " [] := by decide
  exact (word.around sound.hoisted (by decide : Turns ";" [] [])).isClosed

/-- The forms of a module differ in what stands around the render function, and have one lemma
each. -/
theorem commonjs_isClosed : IsClosed parts.commonjs := by
  have word : Opens "module.exports = " [] := by decide
  have exported := (word.around sound.hoisted (by decide : Turns ";" [] [])).isClosed
  refine joinLines_isClosed (sound.strictLines ?_ exported)
  rw [List.forall_mem_map]
  intro dependency member
  exact .assignment (.plain (sound.locals dependency member))
    (requirement_isClosed (sound.members dependency member))

theorem amd_isClosed : IsClosed parts.amd := by
  have bindings : ∀ binding ∈ parts.imports.zipIdx.map fun found => amdBinding found.1 found.2,
      IsClosed binding.1 ∧ ∀ statement ∈ binding.2, IsClosed statement := by
    rw [List.forall_mem_map]
    rintro ⟨dependency, index⟩ member
    have listed := List.fst_mem_of_mem_zipIdx member
    exact amdBinding_isClosed (sound.locals dependency listed) (sound.members dependency listed)
      index
  have name : IsClosed ((parts.name.map fun name => quote name ++ ", ").getD "") := by
    cases parts.name with
    | none => decide
    | some name => exact Bracketing.closedCode.followed (by decide) (.quoted name)
  have sources : IsClosed (",\n".intercalate (parts.imports.map fun dependency =>
      Text.margin 1 ++ quote dependency.source)) := by
    have margin : Opens (Text.margin 1) [] := by decide
    refine .intercalated (by decide) ?_
    rw [List.forall_mem_map]
    exact fun dependency _ => margin.append (.quoted dependency.source)
  have parameters : IsClosed (", ".intercalate ((parts.imports.zipIdx.map fun found =>
      amdBinding found.1 found.2).map (·.1))) := by
    refine .intercalated (by decide) ?_
    rw [List.forall_mem_map]
    exact fun binding member => (bindings binding member).1
  have statements : ∀ statement ∈ (parts.imports.zipIdx.map fun found =>
      amdBinding found.1 found.2).filterMap (·.2), IsClosed statement := by
    intro statement member
    obtain ⟨binding, listed, made⟩ := List.mem_filterMap.mp member
    exact (bindings binding listed).2 statement made
  have lines : IsClosed ("\n".intercalate (useStrict :: _ ++ parts.preamble ++ _)) :=
    .intercalated (by decide) (sound.strictLines statements sound.returned)
  have start : Opens "define(" [')'] := by decide
  have list := start.around name (by decide : Turns "[\n" [')'] [']', ')'])
  have function := list.around sources (by decide : Turns "\n], function (" [']', ')'] [')', ')'])
  have body := function.around parameters (by decide : Turns ") \x7b\n" [')', ')'] ['}', ')'])
  exact (body.around (lines.indented 1) (by decide : Turns "\n\x7d);\n" ['}', ')'] [])).isClosed

theorem es6_isClosed : IsClosed parts.es6 := by
  have word : Opens "export default " [] := by decide
  refine joinLines_isClosed ?_
  simp only [List.forall_mem_append, List.forall_mem_map, List.forall_mem_singleton]
  refine ⟨⟨?_, sound.preamble⟩, word.append sound.hoisted⟩
  intro dependency member
  exact importDeclaration_isClosed (sound.locals dependency member)
    (sound.members dependency member)

theorem typescript_isClosed : IsClosed parts.typescript := by
  have name : IsClosed (parts.name.getD "render") := by
    cases known : parts.name with
    | none => decide
    | some name => exact .plain (sound.name name known)
  have word : Opens "export = " [] := by decide
  have exported := (word.around name (by decide : Turns ";" [] [])).isClosed
  refine joinLines_isClosed ?_
  simp only [List.forall_mem_append, List.forall_mem_map, List.forall_mem_cons]
  refine ⟨⟨?_, sound.preamble⟩, .assignment name sound.hoisted, exported, by simp⟩
  intro dependency member
  exact typedImport_isClosed (sound.locals dependency member) (sound.members dependency member)

theorem global_isClosed : IsClosed parts.global := by
  have name : IsClosed (parts.name.getD "template") := by
    cases known : parts.name with
    | none => decide
    | some name => exact .plain (sound.name name known)
  have lines : IsClosed ("\n".intercalate (useStrict :: [] ++ parts.preamble ++ _)) :=
    .intercalated (by decide) (sound.strictLines (by simp) sound.returned)
  have word : Opens "var " [] := by decide
  have body := word.around name (by decide : Turns " = (function () \x7b\n" [] ['}', ')'])
  exact (body.around (lines.indented 1) (by decide : Turns "\n\x7d)();\n" ['}', ')'] [])).isClosed

theorem jsrt_isClosed : IsClosed parts.jsrt := by
  have start : Opens "" [] := by decide
  have blank : isSeparator " " := by decide
  have comments : ∀ comment ∈ parts.comments.map blockComment, IsClosed comment := by
    rw [List.forall_mem_map]
    exact fun comment _ => .commented comment
  have front := start.terminated blank comments
  rw [String.empty_append, List.map_map] at front
  exact front.append sound.inlined

/-- The text of a module is closed in every format. -/
theorem text_isClosed (format : ModuleFormat) : IsClosed (parts.text format) := by
  cases format with
  | global => exact global_isClosed sound
  | commonjs => exact commonjs_isClosed sound
  | amd => exact amd_isClosed sound
  | es6 => exact es6_isClosed sound
  | typescript => exact typescript_isClosed sound
  | jsrt => exact jsrt_isClosed sound

end

end ModuleParts

/-- The names in an import. -/
def Dependency.words (dependency : Dependency) : List String :=
  match dependency.binding with
  | .member name => [dependency.localName, name]
  | _ => [dependency.localName]

/-- The local name of an import is one of its words, and so is the name of its member. -/
theorem Dependency.mem_words (dependency : Dependency) :
    dependency.localName ∈ dependency.words ∧
      ∀ name, dependency.binding = .member name → name ∈ dependency.words := by
  unfold words
  split
  · next found => simp [found]
  · next other => exact ⟨List.mem_singleton.mpr rfl, fun name found => absurd found (other name)⟩

/-- A tree is sound if all that its template wrote is closed and all its names are plain. -/
theorem RenderTree.isSound_closedCode {tree : RenderTree}
    (codes : ∀ code ∈ tree.codes, IsClosed code) (words : ∀ word ∈ tree.words, isPlain word) :
    tree.IsSound .closedCode := by
  rw [RenderTree.codes, List.forall_mem_append] at codes
  rw [RenderTree.words, List.forall_mem_append] at words
  refine ⟨?_, fun _ => trivial, ?_, ?_, ?_⟩
  · intro environment scope node here code member
    exact codes.1 code (List.mem_flatMap.mpr ⟨node, here.mem_nodes, member⟩)
  · intro environment scope head children here
    have plain := words.1 head.tag.name (List.mem_filterMap.mpr ⟨_, here.mem_nodes, rfl⟩)
    cases kind : head.tag with
    | document name => exact .inl (by rwa [kind] at plain)
    | native name => rwa [kind] at plain
    | component name => rwa [kind] at plain
  · intro environment scope construct met word member
    exact words.2 word (List.mem_flatMap.mpr ⟨construct, met.mem_allConstructs, member⟩)
  · intro environment scope construct met code member
    exact codes.2 code (List.mem_flatMap.mpr ⟨construct, met.mem_allConstructs, member⟩)

/-- The code of a tree is closed if all that its template wrote is closed and no name in it has
quotes, brackets or slashes. The texts, comments, keys of props and sources of imports can be any.
This holds of the expression, of each helper, and of the module in every format. -/
theorem module_isClosed {tree : RenderTree} {name : Option String}
    (codes : ∀ code ∈ tree.codes, IsClosed code) (words : ∀ word ∈ tree.words, isPlain word)
    (imported : ∀ dependency ∈ tree.imports.entries, ∀ word ∈ dependency.words, isPlain word)
    (named : ∀ word ∈ name, isPlain word) (target : Target) :
    IsClosed (tree.emit target).1 ∧ (∀ helper ∈ (tree.emit target).2, IsClosed helper.text) ∧
    ∀ format, IsClosed
      (ModuleParts.text ⟨name, tree.imports.entries, tree.comments, tree.renderFunction target⟩
        format) := by
  obtain ⟨expression, helpers⟩ :=
    RenderTree.emit_balanced (RenderTree.isSound_closedCode codes words) target
  refine ⟨expression, helpers, fun format => ModuleParts.text_isClosed ?_ format⟩
  have parameters : IsClosed (RenderFunction.parameterList tree.stateless) := by
    cases tree.stateless with
    | false => decide
    | true => decide
  refine ⟨named, ?_, ?_, ?_, parameters, expression⟩
  · intro dependency member
    exact imported dependency member _ dependency.mem_words.1
  · intro dependency member name found
    exact imported dependency member name (dependency.mem_words.2 name found)
  · intro text member
    obtain ⟨helper, listed, rfl⟩ := List.mem_map.mp member
    exact helpers helper listed

/-- A tree with quotes, brackets and comment ends in all texts that may have them, and in the
code. -/
def hardTree : RenderTree where
  root := .iteration ⟨"f(\"]\")", "x", "i", []⟩
    (.element ⟨.document "a-b",
      [⟨"\"(", .code "[1, '\x7d']"⟩,
      ⟨"onA", .handler ⟨"onA", ["x"], ["\x7be\x7d"], .block "g(`)`);\n/* ( */"⟩⟩,
        ⟨"row", .template 0⟩], some "p", {}⟩
      [.comment "*/ \"", .text "\\\" ) \n",
        .binding ⟨[⟨"y", "x /* \" */"⟩], ["x", "i"]⟩ (.expression "y, \"*/\"")])
  imports := ⟨[⟨"React", "\"))", .moduleValue⟩, ⟨"m", "'", .member "n"⟩]⟩
  templates := [⟨"a-b", "row", ["z"], ["x"], .conditional "z" (.group [.comment "/*"]), {}⟩]
  comments := ["**/ ` "]
  stateless := true

theorem hardTree_isClosed :
    (∀ code ∈ hardTree.codes, IsClosed code) ∧ (∀ word ∈ hardTree.words, isPlain word) ∧
      (hardTree.emit .factories).2.length = 4 ∧
      (∀ helper ∈ (hardTree.emit .factories).2, IsClosed helper.text) ∧
      ∀ format, IsClosed (ModuleParts.text
        ⟨some "name", hardTree.imports.entries, hardTree.comments,
          hardTree.renderFunction .factories⟩ format) := by
  have codes : ∀ code ∈ hardTree.codes, IsClosed code := by decide +kernel
  have words : ∀ word ∈ hardTree.words, isPlain word := by decide +kernel
  have imported : ∀ dependency ∈ hardTree.imports.entries, ∀ word ∈ dependency.words,
      isPlain word := by decide
  have named : ∀ word ∈ some "name", isPlain word := by decide
  obtain ⟨_, helpers, modules⟩ := module_isClosed codes words imported named .factories
  exact ⟨codes, words, by decide +kernel, helpers, modules⟩

end RenderTemplate
