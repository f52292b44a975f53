import RenderTemplate.Emission
import RenderTemplate.Proofs.Inventory
import RenderTemplate.Proofs.Names

namespace RenderTemplate

/-- The characters that open, close or quote something, and the slash, with which comments start. -/
def specialChars : List Char := ['"', '\'', '`', '(', ')', '[', ']', '{', '}', '/']

/-- A character that is not special. -/
def isPlainChar (c : Char) : Bool :=
  !specialChars.contains c

/-- A text without quotes, brackets and slashes. -/
def isPlain (text : String) : Bool :=
  text.toList.all isPlainChar

/-- A plain text that can stand between two pieces of code: with a slash before it, it starts no
comment. -/
def isSeparator (text : String) : Bool :=
  isPlain text && !text.toList.isEmpty && text.toList.head? != some '*'

/-- What opens and what closes a piece of code. -/
def brackets : List (String × String) := [("(", ")"), ("[", "]"), ("\x7b", "\x7d")]

/-- Characters of a kind that no special one is of are plain. -/
theorem isPlainChar_of_all {motive : Char → Bool} (apart : specialChars.all (!motive ·)) {c : Char}
    (holds : motive c) :
    isPlainChar c := by
  rw [isPlainChar, List.contains_eq_mem, Bool.not_eq_true', decide_eq_false_iff_not]
  intro special
  have other := List.all_eq_true.mp apart c special
  rw [holds] at other
  cases other

theorem isPlainChar_of_isNameChar {c : Char} (inName : isNameChar c) : isPlainChar c :=
  isPlainChar_of_all (motive := isNameChar) (by decide) inName

theorem isPlainChar_of_isBlankChar {c : Char} (blank : Text.isBlankChar c) : isPlainChar c :=
  isPlainChar_of_all (motive := Text.isBlankChar) (by decide) blank

theorem ne_of_isPlainChar {c special : Char} (plain : isPlainChar c)
    (other : isPlainChar special = false) :
    c ≠ special := by
  rintro rfl
  rw [plain] at other
  cases other

/-- Names are plain, so nothing has to be known of them where code is put together. -/
theorem isPlain_of_isIdentifier {name : String} (identifier : isIdentifier name) :
    isPlain name := by
  rw [isPlain, List.all_eq_true]
  intro c member
  have inName := all_of_isNameForm (isNameForm_of_isIdentifier identifier)
  exact isPlainChar_of_isNameChar (List.all_eq_true.mp inName c member)

/-- A number is plain, and starts no comment behind a slash. -/
theorem isSeparator_toString (number : Nat) : isSeparator (toString number) := by
  have digits : ∀ c ∈ (toString number).toList, c.isDigit :=
    fun c member => isDigit_of_mem_toString member
  have plain : isPlain (toString number) := by
    rw [isPlain, List.all_eq_true]
    intro c member
    exact isPlainChar_of_isNameChar (isNameChar_of_isDigit (digits c member))
  have nonempty := toList_toString_ne_nil number
  have noStar : (toString number).toList.head? ≠ some '*' := by
    intro star
    exact absurd (digits '*' (List.mem_of_head? star)) (by decide)
  rw [isSeparator, plain, Bool.true_and, Bool.and_eq_true, Bool.not_eq_true',
    List.isEmpty_eq_false_iff, bne_iff_ne]
  exact ⟨nonempty, noStar⟩

theorem isPlain_append (first second : String) :
    isPlain (first ++ second) = (isPlain first && isPlain second) := by
  rw [isPlain, String.toList_append, List.all_append, isPlain, isPlain]

theorem toNat_ofNat_or (code : Nat) :
    (Char.ofNat code).toNat = 0 ∨ (Char.ofNat code).toNat = code := by
  by_cases valid : code.isValidChar
  · have same : Char.ofNat code = Char.ofNatAux code valid := dif_pos valid
    rw [same]
    exact .inr rfl
  · have none : Char.ofNat code = Char.ofNat 0 := dif_neg valid
    rw [none]
    exact .inl rfl

theorem isPlainChar_of_toNat {c : Char}
    (code : c.toNat = 0 ∨ 126 ≤ c.toNat ∨ 65 ≤ c.toNat ∧ c.toNat ≤ 90) :
    isPlainChar c :=
  isPlainChar_of_all (motive := fun c =>
    decide (c.toNat = 0 ∨ 126 ≤ c.toNat ∨ 65 ≤ c.toNat ∧ c.toNat ≤ 90)) (by decide)
    (decide_eq_true code)

/-- The upper case of a plain character is plain. -/
theorem isPlainChar_uppercase {c : Char} (plain : isPlainChar c) :
    (Text.uppercase c).all isPlainChar := by
  unfold Text.uppercase
  split
  · next found =>
    have checked : ∀ entry ∈ Text.uppercaseExpansions,
        (entry.2.map Char.ofNat).all isPlainChar := by decide +kernel
    exact checked _ (List.mem_of_find?_eq_some found)
  · dsimp only
    split
    · next first last step distance found =>
      have checked : ∀ run ∈ Text.uppercaseRuns,
          126 ≤ run.1 + run.2.2.2 ∨ 65 ≤ run.1 + run.2.2.2 ∧ run.2.1 + run.2.2.2 ≤ 90 := by
        decide +kernel
      have bounds := checked _ (List.mem_of_find?_eq_some found)
      have inRun := List.find?_some found
      simp only [Bool.and_eq_true, decide_eq_true_eq] at inRun bounds
      have code : (Char.ofNat (c.toNat + distance).toNat).toNat = 0 ∨
          (Char.ofNat (c.toNat + distance).toNat).toNat = (c.toNat + distance).toNat :=
        toNat_ofNat_or _
      simp only [List.all_cons, List.all_nil, Bool.and_true]
      exact isPlainChar_of_toNat (by omega)
    · simpa using plain

/-- A plain name stays so with its first letter in uppercase, of which there may be several then. -/
theorem isPlain_capitalize {name : String} (plain : isPlain name) : isPlain (capitalize name) := by
  unfold capitalize isPlain at *
  split
  · rfl
  · next c rest chars =>
    rw [chars, List.all_cons, Bool.and_eq_true] at plain
    rw [String.toList_ofList, List.all_append, isPlainChar_uppercase plain.1, plain.2]
    rfl

/-- A scan of a string literal stays inside of it as long as characters are escaped. -/
theorem Quoted.foldlM_escape {σ : Type} {step : σ → Char → Option σ} {i s : σ}
    (inside : ∀ c, c ≠ '"' → c ≠ '\\' → step i c = some i) (begins : step i '\\' = some s)
    (ends : ∀ c, step s c = some i) (chars : List Char) :
    (chars.flatMap escape).foldlM step i = some i := by
  have pair (c : Char) : ['\\', c].foldlM step i = some i := by
    rw [List.foldlM_cons, begins, Option.bind_eq_bind, Option.bind_some, List.foldlM_cons, ends]
    rfl
  have all {chars : List Char} (plain : ∀ c ∈ chars, c ≠ '"' ∧ c ≠ '\\') : chars.foldlM step i =
      some i := by
    induction chars with
    | nil => rfl
    | cons c rest ih =>
      rw [List.forall_mem_cons] at plain
      rw [List.foldlM_cons, inside c plain.1.1 plain.1.2]
      exact ih plain.2
  have one (c : Char) : (escape c).foldlM step i = some i := by
    unfold escape
    split
    · exact pair '"'
    · next noQuote =>
      split
      · exact pair '\\'
      · next noBackslash =>
        split
        · exact pair 'n'
        · split
          · exact pair 'r'
          · split
            · exact pair 't'
            · split
              · have digits : ∀ d ∈ hexDigits 4 c.toNat, d ≠ '"' ∧ d ≠ '\\' := by
                  have checked : ∀ digit < 16, hexDigit digit ≠ '"' ∧ hexDigit digit ≠ '\\' := by
                    decide
                  intro d member
                  obtain ⟨digit, small, rfl⟩ := hexDigit_of_mem member
                  exact checked digit small
                have front : (['\\', 'u'] ++ hexDigits 4 c.toNat).foldlM step i = some i := by
                  rw [List.foldlM_append, pair]
                  exact all digits
                exact front
              · exact all (by simpa using ⟨noQuote, noBackslash⟩)
  induction chars with
  | nil => rfl
  | cons c rest ih =>
    rw [List.flatMap_cons, List.foldlM_append, one]
    exact ih

/-- Induction on a text along with how its comment ends are broken up. -/
theorem breakCommentEnds_induction {motive : List Char → List Char → Prop} (nil : motive [] [])
    (ends : ∀ rest, motive rest (breakCommentEnds rest) →
      motive ('*' :: '/' :: rest) ('*' :: ' ' :: '/' :: breakCommentEnds rest))
    (other : ∀ c rest, (c = '*' → rest.head? ≠ some '/') → motive rest (breakCommentEnds rest) →
      motive (c :: rest) (c :: breakCommentEnds rest))
    (chars : List Char) : motive chars (breakCommentEnds chars) := by
  fun_induction breakCommentEnds chars with
  | case1 rest ih => exact ends rest ih
  | case2 c rest apart ih =>
    refine other c rest (fun star slash => ?_) ih
    obtain ⟨tail, same⟩ := List.head?_eq_some_iff.mp slash
    exact apart tail star same
  | case3 => exact nil

/-- A reference to a helper is a call of its method `bind`, so that the rules for calls apply. -/
theorem boundReference_eq_application (name : String) (outer : List String) :
    boundReference name outer = Target.application (name ++ ".bind") ("this" :: outer) := by
  rw [boundReference, Target.application, ← String.toList_inj]
  simp [String.toList_append]

theorem assign_eq_application (object spread : String) :
    "_.assign(\x7b\x7d, " ++ object ++ ", " ++ spread ++ ")" =
      Target.application "_.assign" ["\x7b\x7d", object, spread] := by
  rw [Target.application, ← String.toList_inj]
  simp [String.toList_append, String.intercalate_cons_cons]

theorem map_eq_application (collection reference : String) :
    "_.map(" ++ collection ++ ", " ++ reference ++ ")" =
      Target.application "_.map" [collection, reference] := by
  rw [Target.application, ← String.toList_inj]
  simp [String.toList_append, String.intercalate_cons_cons]

theorem apply_eq_application (name names : String) :
    name ++ ".apply(this, [" ++ names ++ "])" =
      Target.application (name ++ ".apply") ["this", "[" ++ names ++ "]"] := by
  rw [Target.application, ← String.toList_inj]
  simp [String.toList_append, String.intercalate_cons_cons]

theorem objectLiteral_eq {entries : List String} (nonempty : entries ≠ []) :
    objectLiteral entries = "\x7b" ++ (" " ++ ", ".intercalate entries ++ " ") ++ "\x7d" := by
  rw [objectLiteral, if_neg (by simpa using nonempty), ← String.toList_inj]
  simp [String.toList_append]

theorem conditional_eq (test code : String) :
    "(" ++ test ++ ") ? (" ++ code ++ ") : null" =
      "(" ++ test ++ ")" ++ " ? " ++ ("(" ++ code ++ ")") ++ " : null" := by
  rw [← String.toList_inj]
  simp [String.toList_append]

/-- What two joined texts have if both have it, all of several joined texts have. -/
theorem intercalate_of_joined {motive : String → Prop} {separator : String} (empty : motive "")
    (joined : ∀ {first second}, motive first → motive second →
      motive (first ++ separator ++ second))
    {pieces : List String} (each : ∀ piece ∈ pieces, motive piece) :
    motive (separator.intercalate pieces) := by
  induction pieces with
  | nil => exact empty
  | cons first rest ih =>
    rw [List.forall_mem_cons] at each
    cases rest with
    | nil => simpa using each.1
    | cons second rest =>
      rw [String.intercalate_cons_cons]
      exact joined each.1 (ih each.2)

/-- A notion of balance. Whatever it is, the code of a tree is balanced if the pieces are that the
template wrote, as long as the ways in which generated code is put together keep it. -/
structure Bracketing where
  balanced : String → Prop
  /-- Whether the text of a comment is allowed. -/
  admits : String → Prop
  /-- Whether code may stand inside a helper. -/
  encloses : String → Prop
  helper : Helper → Prop
  plain {text : String} : isPlain text → balanced text
  quoted (text : String) : balanced (quote text)
  commented {text : String} : admits text → balanced (blockComment text)
  joined {separator first second : String} :
    isSeparator separator → balanced first → balanced second →
      balanced (first ++ separator ++ second)
  bracketed {opening closing front inner : String} :
    (opening, closing) ∈ brackets → balanced front → balanced inner →
      balanced (front ++ opening ++ inner ++ closing)
  trimmed {code : String} : balanced code → balanced (Text.trim code)
  enclosed {code : String} : balanced code → encloses code
  enclosedTrimmed {code : String} : encloses code → encloses (Text.trim code)
  assigned {name value : String} :
    isPlain name → encloses value → encloses ("var " ++ name ++ " = " ++ value ++ ";")
  declared {found : Helper} : balanced found.name → (∀ name ∈ found.parameters, encloses name) →
    (∀ statement ∈ found.statements, encloses statement) → (∀ code ∈ found.result, encloses code) →
    helper found

namespace Bracketing

variable (rules : Bracketing)

theorem empty : rules.balanced "" :=
  rules.plain (by decide)

theorem intercalated {separator : String} (separates : isSeparator separator) {pieces : List String}
    (each : ∀ piece ∈ pieces, rules.balanced piece) :
    rules.balanced (separator.intercalate pieces) :=
  intercalate_of_joined (motive := rules.balanced) rules.empty (rules.joined separates) each

theorem followed {code word : String} (separates : isSeparator word)
    (balanced : rules.balanced code) :
    rules.balanced (code ++ word) := by
  have both := rules.joined separates balanced rules.empty
  rwa [String.append_empty] at both

theorem enclosedIn {opening closing inner : String} (bracket : (opening, closing) ∈ brackets)
    (balanced : rules.balanced inner) : rules.balanced (opening ++ inner ++ closing) := by
  have both := rules.bracketed bracket rules.empty balanced
  rwa [String.empty_append] at both

/-- A call: what is called, and its arguments. -/
theorem application {function : String} {arguments : List String} (called : rules.balanced function)
    (each : ∀ argument ∈ arguments, rules.balanced argument) :
    rules.balanced (Target.application function arguments) :=
  rules.bracketed (by decide) called (rules.intercalated (by decide) each)

theorem boundReference {name : String} {outer : List String} (balanced : rules.balanced name)
    (names : ∀ name ∈ outer, isPlain name) : rules.balanced (boundReference name outer) := by
  have arguments : ∀ argument ∈ "this" :: outer, rules.balanced argument :=
    List.forall_mem_cons.mpr ⟨rules.plain (by decide), fun name member =>
      rules.plain (names name member)⟩
  rw [boundReference_eq_application]
  exact rules.application (rules.followed (by decide) balanced) arguments

theorem parenthesized {code : String} (balanced : rules.balanced code) :
    rules.balanced (parenthesize code) := by
  unfold parenthesize
  dsimp only
  split
  · exact rules.trimmed balanced
  · exact rules.enclosedIn (by decide) (rules.trimmed balanced)

theorem propertyKey (key : String) : rules.balanced (propertyKey key) := by
  unfold RenderTemplate.propertyKey
  split
  · next identifier => exact rules.plain (isPlain_of_isIdentifier identifier)
  · exact rules.quoted key

theorem braced {code : String} (balanced : rules.balanced code) :
    rules.balanced ("\x7b" ++ code ++ "\x7d") :=
  rules.enclosedIn (by decide) balanced

theorem objectLiteral {entries : List String} (each : ∀ entry ∈ entries, rules.balanced entry) :
    rules.balanced (objectLiteral entries) := by
  cases entries with
  | nil => exact rules.braced rules.empty
  | cons first rest =>
    have front : rules.balanced ("" ++ " " ++ ", ".intercalate (first :: rest)) :=
      rules.joined (by decide) rules.empty (rules.intercalated (by decide) each)
    rw [String.empty_append] at front
    rw [objectLiteral_eq (List.cons_ne_nil first rest)]
    exact rules.braced (rules.followed (by decide) front)

/-- The object of the props of an element, merged with another one or alone. -/
theorem propsCode {entries : List String} {spread : Option String}
    (each : ∀ entry ∈ entries, rules.balanced entry)
    (merged : ∀ code ∈ spread, rules.balanced code) :
    rules.balanced (Emit.propsCode entries spread) := by
  cases spread with
  | none => exact rules.objectLiteral each
  | some code =>
    unfold Emit.propsCode
    dsimp only
    split
    · exact merged code rfl
    · rw [assign_eq_application]
      refine rules.application (rules.plain (by decide)) ?_
      have none : rules.balanced "\x7b\x7d" := rules.braced rules.empty
      simpa using ⟨none, rules.objectLiteral each, merged code rfl⟩

end Bracketing

/-- The code of a child. -/
def ChildCode.code : ChildCode → String
  | comment code | argument code => code

namespace ChildCode

variable {rules : Bracketing}

/-- Comments stand in front of the argument that follows them. -/
theorem attach_balanced {pending : List String} {children : List ChildCode}
    (before : ∀ code ∈ pending, rules.balanced code)
    (each : ∀ child ∈ children, rules.balanced child.code) :
    (∀ argument ∈ (attach pending children).1, rules.balanced argument) ∧
      ∀ code ∈ (attach pending children).2, rules.balanced code := by
  induction children generalizing pending with
  | nil => exact ⟨by simp [attach], before⟩
  | cons child rest ih =>
    rw [List.forall_mem_cons] at each
    have extended : ∀ code ∈ pending ++ [child.code], rules.balanced code := by
      rw [List.forall_mem_append]
      exact ⟨before, by simpa using each.1⟩
    cases child with
    | comment code => exact ih extended each.2
    | argument code =>
      have none : ∀ code ∈ ([] : List String), rules.balanced code := by simp
      have ⟨arguments, trailing⟩ := ih none each.2
      exact ⟨List.forall_mem_cons.mpr ⟨rules.intercalated (by decide) extended, arguments⟩,
        trailing⟩

theorem appendLast_balanced {trailing arguments : List String}
    (after : ∀ code ∈ trailing, rules.balanced code)
    (each : ∀ argument ∈ arguments, rules.balanced argument) :
    ∀ argument ∈ appendLast trailing arguments, rules.balanced argument := by
  fun_induction appendLast trailing arguments with
  | case1 =>
    have codes : ∀ code ∈ trailing ++ ["null"], rules.balanced code := by
      rw [List.forall_mem_append]
      have null : rules.balanced "null" := rules.plain (by decide)
      exact ⟨after, by simpa using null⟩
    simpa using rules.intercalated (by decide) codes
  | case2 last =>
    have codes : ∀ code ∈ last :: trailing, rules.balanced code :=
      List.forall_mem_cons.mpr ⟨each last (List.mem_singleton.mpr rfl), after⟩
    simpa using rules.intercalated (by decide) codes
  | case3 first rest _ ih =>
    rw [List.forall_mem_cons] at each ⊢
    exact ⟨each.1, ih each.2⟩

/-- The arguments for children are balanced if their codes are, with the comments among them. -/
theorem arguments_balanced {children : List ChildCode}
    (each : ∀ child ∈ children, rules.balanced child.code) :
    ∀ argument ∈ arguments children, rules.balanced argument := by
  have none : ∀ code ∈ ([] : List String), rules.balanced code := by simp
  have ⟨attached, trailing⟩ := attach_balanced none each
  unfold arguments
  dsimp only
  split
  · exact attached
  · exact appendLast_balanced trailing attached

end ChildCode

namespace Target

/-- What is called to create an element. -/
def callee (target : Target) (tag : TagRef) : String :=
  if target.usesFactories then factory tag else "React.createElement"

/-- The arguments of the call that creates an element. -/
def arguments (target : Target) (tag : TagRef) (props : String) (children : List String) :
    List String :=
  if target.usesFactories then props :: children else target.tagArgument tag :: props :: children

theorem call_eq_application (target : Target) (tag : TagRef) (props : String)
    (children : List String) :
    target.call tag props children =
      application (target.callee tag) (target.arguments tag props children) := by
  unfold call callee arguments
  split
  · rfl
  · rfl

end Target

/-- Whether a tag is plain, unless it is in quotes wherever it stands. -/
def TagRef.IsPlain : TagRef → Prop
  | .document name => isPlain name ∨ name.toList.contains '-'
  | .native name | .component name => isPlain name

namespace Bracketing

variable (rules : Bracketing)

theorem callee (target : Target) {tag : TagRef} (plain : tag.IsPlain) :
    rules.balanced (target.callee tag) := by
  unfold Target.callee
  split
  · cases tag with
    | document name =>
      unfold Target.factory
      dsimp only
      split
      · have member : rules.balanced ("React.DOM" ++ "[" ++ quote name ++ "]") :=
          rules.bracketed (by decide) (rules.plain (by decide)) (rules.quoted name)
        exact member
      · next simple =>
        have word : isPlain name := plain.resolve_right simple
        have path : isPlain ("React.DOM." ++ name) := by
          rw [isPlain_append, word]
          decide
        exact rules.plain path
    | native name => exact rules.plain plain
    | component name => exact rules.plain plain
  · exact rules.plain (by decide)

theorem tagArgument (target : Target) {tag : TagRef} (plain : tag.IsPlain) :
    rules.balanced (target.tagArgument tag) := by
  cases tag with
  | document name => exact rules.quoted name
  | native name =>
    have word : isPlain name := plain
    have space : isPlain target.componentSpace := by cases target <;> decide
    have path : isPlain (target.componentSpace ++ "." ++ name) := by
      rw [isPlain_append, isPlain_append, word, space]
      decide
    exact rules.plain path
  | component name => exact rules.plain plain

theorem arguments (target : Target) {tag : TagRef} {props : String} {children : List String}
    (plain : tag.IsPlain) (balanced : rules.balanced props)
    (each : ∀ child ∈ children, rules.balanced child) :
    ∀ argument ∈ target.arguments tag props children, rules.balanced argument := by
  unfold Target.arguments
  split
  · exact List.forall_mem_cons.mpr ⟨balanced, each⟩
  · exact List.forall_mem_cons.mpr ⟨rules.tagArgument target plain,
      List.forall_mem_cons.mpr ⟨balanced, each⟩⟩

/-- The call that creates an element is balanced if its parts are. -/
theorem call (target : Target) {tag : TagRef} {props : String} {children : List String}
    (plain : tag.IsPlain) (balanced : rules.balanced props)
    (each : ∀ child ∈ children, rules.balanced child) :
    rules.balanced (target.call tag props children) := by
  rw [Target.call_eq_application]
  exact rules.application (rules.callee target plain) (rules.arguments target plain balanced each)

theorem conditional {test code : String} (tested : rules.balanced test)
    (balanced : rules.balanced code) :
    rules.balanced ("(" ++ test ++ ") ? (" ++ code ++ ") : null") := by
  have question : rules.balanced ("(" ++ test ++ ")" ++ " ? " ++ ("(" ++ code ++ ")")) :=
    rules.joined (by decide) (rules.enclosedIn (by decide) tested)
      (rules.enclosedIn (by decide) balanced)
  have whole : rules.balanced ("(" ++ test ++ ")" ++ " ? " ++ ("(" ++ code ++ ")") ++ " : null") :=
    rules.followed (by decide) question
  rw [conditional_eq]
  exact whole

theorem mapped {collection reference : String} (balanced : rules.balanced collection)
    (referred : rules.balanced reference) :
    rules.balanced ("_.map(" ++ parenthesize collection ++ ", " ++ reference ++ ")") := by
  rw [map_eq_application]
  refine rules.application (rules.plain (by decide)) ?_
  simpa using ⟨rules.parenthesized balanced, referred⟩

theorem applied {name : String} {outer : List String} (balanced : rules.balanced name)
    (names : ∀ name ∈ outer, isPlain name) :
    rules.balanced (name ++ ".apply(this, [" ++ ", ".intercalate outer ++ "])") := by
  have list : rules.balanced ("[" ++ ", ".intercalate outer ++ "]") :=
    rules.enclosedIn (by decide) (rules.intercalated (by decide) fun name member =>
      rules.plain (names name member))
  rw [apply_eq_application]
  refine rules.application (rules.followed (by decide) balanced) ?_
  have this : rules.balanced "this" := rules.plain (by decide)
  simpa using ⟨this, list⟩

end Bracketing

/-- Whether what a template wrote is balanced, wherever its code gets to, and names are plain. -/
structure RenderTree.IsSound (rules : Bracketing) (tree : RenderTree) : Prop where
  codes {environment : List String} {scope : Scope} {node : RenderNode} :
    tree.Reaches environment scope node → ∀ code ∈ node.codes, rules.balanced code
  comments {environment : List String} {scope : Scope} {text : String} :
    tree.Reaches environment scope (.comment text) → rules.admits text
  tags {environment : List String} {scope : Scope} {head : ElementHead}
    {children : List RenderNode} :
    tree.Reaches environment scope (.element head children) → head.tag.IsPlain
  words {environment : List String} {scope : Scope} {construct : Construct} :
    tree.Meets environment scope construct → ∀ word ∈ construct.words, isPlain word
  enclosed {environment : List String} {scope : Scope} {construct : Construct} :
    tree.Meets environment scope construct → ∀ code ∈ construct.codes, rules.encloses code

theorem RenderTree.IsSound.spread {rules : Bracketing} {tree : RenderTree}
    (sound : tree.IsSound rules) {environment : List String} {scope : Scope} {head : ElementHead}
    {children : List RenderNode} (here : tree.Reaches environment scope (.element head children)) :
    ∀ code ∈ head.spread, rules.balanced code :=
  fun code member => sound.codes here code (List.mem_append_right _ (Option.mem_toList.mpr member))

/-- Whether a computation gives such a result, and adds none but balanced helpers. -/
def Emit.Yields {α : Type} (rules : Bracketing) (work : Emit α) (post : α → Prop) : Prop :=
  ∀ emitted, (∀ helper ∈ emitted.helpers, rules.helper helper) →
    post (work.run emitted).1 ∧ ∀ helper ∈ (work.run emitted).2.helpers, rules.helper helper

namespace Emit.Yields

variable {rules : Bracketing} {α β : Type}

theorem pure {value : α} {post : α → Prop} (holds : post value) :
    Yields rules (Pure.pure value) post :=
  fun _ helpers => ⟨holds, helpers⟩

/-- Two computations in a row, of which the second relies on what the first one yields. -/
theorem bind {work : Emit α} {next : α → Emit β} {middle : α → Prop} {post : β → Prop}
    (first : Yields rules work middle)
    (second : ∀ value, middle value → Yields rules (next value) post) :
    Yields rules (work >>= next) post := by
  intro emitted helpers
  obtain ⟨holds, kept⟩ := first emitted helpers
  exact second _ holds _ kept

theorem freshName {base : String} (balanced : rules.balanced base) :
    Yields rules (Emit.freshName base) rules.balanced :=
  fun emitted helpers =>
    ⟨rules.followed (isSeparator_toString (emitted.counter + 1)) balanced, helpers⟩

theorem addHelper {helper : Helper} (holds : rules.helper helper) :
    Yields rules (Emit.addHelper helper) fun _ => True := by
  intro emitted helpers
  refine ⟨trivial, ?_⟩
  have both : ∀ found ∈ emitted.helpers ++ [helper], rules.helper found := by
    rw [List.forall_mem_append]
    exact ⟨helpers, by simpa using holds⟩
  exact both

/-- A handler yields the reference to a helper, in whose body its code is enclosed. -/
theorem handler {found : Handler} (words : ∀ word ∈ (Construct.handler found).words, isPlain word)
    (codes : ∀ code ∈ (Construct.handler found).codes, rules.encloses code) :
    Yields rules (Emit.handler found) rules.balanced := by
  rw [Construct.words, List.forall_mem_cons] at words
  rw [Construct.codes, List.forall_mem_cons] at codes
  have parameters : ∀ name ∈ found.helperParameters, rules.encloses name := by
    rw [Handler.helperParameters, List.forall_mem_append]
    exact ⟨fun name member => rules.enclosed (rules.plain (words.2 name member)), codes.2⟩
  have body := rules.enclosedTrimmed codes.1
  unfold Emit.handler
  refine (freshName (rules.plain words.1)).bind fun name balanced => ?_
  cases kind : found.body with
  | expression code =>
    rw [kind, LambdaBody.code] at body
    refine (addHelper (rules.declared balanced parameters ?_ ?_)).bind fun _ _ =>
      pure (rules.boundReference balanced words.2)
    · simp
    · simpa using body
  | block code =>
    rw [kind, LambdaBody.code] at body
    refine (addHelper (rules.declared balanced parameters ?_ ?_)).bind fun _ _ =>
      pure (rules.boundReference balanced words.2)
    · dsimp only
      split
      · simp
      · simpa using body
    · simp

/-- A helper that returns balanced code. -/
theorem declaring {name code : String} {parameters statements : List String}
    (named : rules.balanced name) (words : ∀ word ∈ parameters, isPlain word)
    (inside : ∀ statement ∈ statements, rules.encloses statement) (balanced : rules.balanced code) :
    rules.helper ⟨name, parameters, statements, some code⟩ := by
  refine rules.declared named (fun word member => rules.enclosed (rules.plain (words word member)))
    inside ?_
  simpa using rules.enclosed balanced

section

variable {tree : RenderTree} {target : Target}
  {enter : Nat → Emit String} {environment : List String} {scope : Scope}

/-- Whether `enter` gives balanced code for each template that an element of the tree refers to. -/
def Enters (rules : Bracketing) (tree : RenderTree) (enter : Nat → Emit String) : Prop :=
  ∀ environment scope head children key index,
    tree.Reaches environment scope (.element head children) →
    ⟨key, .template index⟩ ∈ head.props → Yields rules (enter index) rules.balanced

/-- The value of a prop: code, a handler, or a template that `enter` yields. -/
theorem propValue (sound : tree.IsSound rules) (entered : Enters rules tree enter)
    {head : ElementHead} {children : List RenderNode}
    (here : tree.Reaches environment scope (.element head children)) {prop : RenderProp}
    (member : prop ∈ head.props) :
    Yields rules (Emit.propValue enter prop.value) rules.balanced := by
  obtain ⟨key, value⟩ := prop
  cases value with
  | code code =>
    have written : code ∈ (RenderNode.element head children).codes :=
      List.mem_append_left _ (List.mem_filterMap.mpr ⟨_, member, rfl⟩)
    exact pure (sound.codes here code written)
  | handler found =>
    have met := RenderTree.Meets.handler here member
    exact handler (sound.words met) (sound.enclosed met)
  | template index => exact entered _ _ _ _ key index here member

theorem entries (sound : tree.IsSound rules) (entered : Enters rules tree enter)
    {head : ElementHead} {children : List RenderNode}
    (here : tree.Reaches environment scope (.element head children)) {props : List RenderProp}
    (members : ∀ prop ∈ props, prop ∈ head.props) :
    Yields rules (Emit.entries enter props) fun entries =>
      ∀ entry ∈ entries, rules.balanced entry := by
  induction props with
  | nil => exact pure (by simp)
  | cons prop props ih =>
    rw [List.forall_mem_cons] at members
    have rest := ih members.2
    unfold Emit.entries at rest ⊢
    rw [List.mapM_cons]
    refine ((propValue sound entered here members.1).bind fun value balanced => pure ?_).bind
      fun entry balanced =>
      rest.bind fun entries each => pure (List.forall_mem_cons.mpr ⟨balanced, each⟩)
    exact rules.joined (by decide) (rules.propertyKey prop.key) balanced

mutual

/-- The code of a node is balanced, and so are its helpers. -/
theorem node (sound : tree.IsSound rules) (entered : Enters rules tree enter)
    {environment : List String} {scope : Scope} (found : RenderNode)
    (here : tree.Reaches environment scope found) :
    Yields rules (Emit.node target enter found) rules.balanced := by
  match found with
  | .element head children =>
    unfold Emit.node
    refine (entries sound entered here fun _ member => member).bind fun entries each => ?_
    refine (all sound entered children fun child member => here.child member).bind
      fun codes balanced => ?_
    exact pure (rules.call target (sound.tags here) (rules.propsCode each (sound.spread here))
      (ChildCode.arguments_balanced balanced))
  | .group children =>
    unfold Emit.node
    refine (all sound entered children fun child member => here.grouped member).bind
      fun codes balanced => pure ?_
    exact rules.enclosedIn (by decide)
      (rules.intercalated (by decide) (ChildCode.arguments_balanced balanced))
  | .text value =>
    unfold Emit.node
    exact pure (rules.quoted value)
  | .expression code =>
    unfold Emit.node
    exact pure (rules.parenthesized (sound.codes here code (List.mem_singleton.mpr rfl)))
  | .comment value =>
    unfold Emit.node
    exact pure (rules.commented (sound.comments here))
  | .conditional test body =>
    unfold Emit.node
    refine (node sound entered body here.tested).bind fun code balanced => pure ?_
    exact rules.conditional (sound.codes here test (List.mem_singleton.mpr rfl)) balanced
  | .iteration loop body =>
    have words := sound.words (.loop here)
    rw [Construct.words, List.forall_mem_cons, List.forall_mem_cons] at words
    obtain ⟨item, index, outer⟩ := words
    have base : isPlain ("repeat" ++ capitalize loop.item) := by
      rw [isPlain_append, isPlain_capitalize item]
      decide
    have parameters : ∀ name ∈ loop.helperParameters, isPlain name := by
      rw [Loop.helperParameters, List.forall_mem_append]
      exact ⟨outer, by simpa using ⟨item, index⟩⟩
    unfold Emit.node
    refine (freshName (rules.plain base)).bind fun name named => ?_
    refine (node sound entered body here.repeated).bind fun code balanced => ?_
    refine (addHelper (declaring named parameters (by simp) balanced)).bind fun _ _ => pure ?_
    exact rules.mapped (sound.codes here loop.collection (List.mem_singleton.mpr rfl))
      (rules.boundReference named outer)
  | .binding block body =>
    have words := sound.words (.block here)
    rw [Construct.words, List.forall_mem_append, List.forall_mem_map] at words
    obtain ⟨aliases, outer⟩ := words
    have values := sound.enclosed (.block here)
    rw [Construct.codes, List.forall_mem_map] at values
    have base : isPlain ("scope" ++ capitalize ((block.aliases.head?.map (·.name)).getD "")) := by
      have first : isPlain ((block.aliases.head?.map (·.name)).getD "") := by
        cases listed : block.aliases with
        | nil => rfl
        | cons entry rest => exact aliases entry (listed ▸ List.mem_cons_self)
      rw [isPlain_append, isPlain_capitalize first]
      decide
    have statements :
        ∀ statement ∈ block.aliases.map (fun found =>
        "var " ++ found.name ++ " = " ++ found.value ++ ";"), rules.encloses statement := by
      rw [List.forall_mem_map]
      intro entry member
      exact rules.assigned (aliases entry member) (values entry member)
    unfold Emit.node
    refine (freshName (rules.plain base)).bind fun name named => ?_
    refine (node sound entered body here.bound).bind fun code balanced => ?_
    refine (addHelper (declaring named outer statements balanced)).bind fun _ _ => pure ?_
    exact rules.applied named outer

/-- The codes of all children are balanced. This is one induction with `node`, since children are
nodes. -/
theorem all (sound : tree.IsSound rules) (entered : Enters rules tree enter)
    {environment : List String} {scope : Scope} (nodes : List RenderNode)
    (here : ∀ node ∈ nodes, tree.Reaches environment scope node) :
    Yields rules (Emit.all target enter nodes) fun codes =>
      ∀ child ∈ codes, rules.balanced child.code := by
  match nodes with
  | [] =>
    unfold Emit.all
    exact pure (by simp)
  | child :: rest =>
    rw [List.forall_mem_cons] at here
    unfold Emit.all
    refine (node sound entered child here.1).bind fun code balanced => ?_
    refine (all sound entered rest here.2).bind fun codes each =>
      pure (List.forall_mem_cons.mpr ⟨?_, each⟩)
    split
    · exact balanced
    · exact balanced

end

end

/-- Templates are entered to any depth: the induction is on how deep they may refer to each
other. -/
theorem template {tree : RenderTree} (sound : tree.IsSound rules) (target : Target) (depth : Nat) :
    Enters rules tree (Emit.template target tree.templates depth) := by
  induction depth with
  | zero =>
    intro _ _ _ _ key index _ _
    rw [Emit.template.eq_def]
    exact pure (rules.plain (by decide))
  | succ depth ih =>
    intro _ _ _ _ key index here member
    rw [Emit.template.eq_def]
    cases known : tree.templates[index]? with
    | none => exact pure (rules.plain (by decide))
    | some found =>
      have words := sound.words (.template here member known)
      rw [Construct.words, List.forall_mem_cons, List.forall_mem_append] at words
      obtain ⟨prop, arguments, outer⟩ := words
      have parameters : ∀ name ∈ found.helperParameters, isPlain name := by
        rw [PropTemplate.helperParameters, List.forall_mem_append]
        exact ⟨outer, arguments⟩
      refine (freshName (rules.plain prop)).bind fun name named => ?_
      refine (node sound ih found.body (here.lifted member known)).bind fun code balanced => ?_
      refine (addHelper (declaring named parameters (by simp) balanced)).bind fun _ _ => pure ?_
      exact rules.boundReference named outer

end Emit.Yields

/-- The expression of a tree is balanced, and so are its helpers. -/
theorem RenderTree.emit_balanced {rules : Bracketing} {tree : RenderTree}
    (sound : tree.IsSound rules) (target : Target) :
    rules.balanced (tree.emit target).1 ∧ ∀ helper ∈ (tree.emit target).2, rules.helper helper :=
  Emit.Yields.node sound (Emit.Yields.template sound target tree.templates.length) tree.root .root
    {} (by simp)

end RenderTemplate
