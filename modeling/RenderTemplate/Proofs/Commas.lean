import RenderTemplate.Proofs.Pieces

namespace RenderTemplate

open TopLevel

/-- Whether a text consists of names, dots and blanks. -/
def isQuiet (text : String) : Bool :=
  text.toList.all fun c => isNameChar c || c == '.' || Text.isBlankChar c

theorem isQuiet_append (first second : String) :
    isQuiet (first ++ second) = (isQuiet first && isQuiet second) := by
  rw [isQuiet, String.toList_append, List.all_append, isQuiet, isQuiet]

theorem isPlain_of_isQuiet {text : String} (quiet : isQuiet text) : isPlain text := by
  rw [isQuiet, List.all_eq_true] at quiet
  rw [isPlain, List.all_eq_true]
  intro c member
  have kind := quiet c member
  rw [Bool.or_eq_true, Bool.or_eq_true, beq_iff_eq] at kind
  rcases kind with (inName | rfl) | blank
  · exact isPlainChar_of_isNameChar inName
  · decide
  · exact isPlainChar_of_isBlankChar blank

theorem cuts_of_isQuiet {text : String} (quiet : isQuiet text) : cuts ',' text = 0 := by
  refine cuts_of_not_mem fun comma => ?_
  exact absurd (List.all_eq_true.mp quiet ',' comma) (by decide)

theorem isQuiet_of_all {text : String} (all : text.toList.all isNameChar) : isQuiet text := by
  rw [isQuiet, List.all_eq_true]
  intro c member
  rw [List.all_eq_true.mp all c member]
  rfl

theorem isQuiet_of_isIdentifier {name : String} (identifier : isIdentifier name) : isQuiet name :=
  isQuiet_of_all (all_of_isNameForm (isNameForm_of_isIdentifier identifier))

theorem isQuiet_toString (number : Nat) : isQuiet (toString number) :=
  isQuiet_of_all (List.all_eq_true.mpr fun _ member =>
    isNameChar_of_isDigit (isDigit_of_mem_toString member))

/-- A name is quiet with blanks around it, too. -/
theorem isQuiet_of_trim {text : String} (identifier : isIdentifier (Text.trim text)) :
    isQuiet text := by
  obtain ⟨front, frontBlank, left⟩ := Text.exists_trimLeft text.toList
  obtain ⟨back, backBlank, right⟩ := Text.exists_trimRight (Text.trimLeft text.toList)
  have inside := isQuiet_of_isIdentifier identifier
  rw [isQuiet, Text.trim, String.toList_ofList, List.all_eq_true] at inside
  rw [isQuiet, List.all_eq_true, left, right]
  intro c member
  rcases List.mem_append.mp member with before | member
  · rw [frontBlank c before, Bool.or_true]
  · rcases List.mem_append.mp member with within | after
    · exact inside c within
    · rw [backBlank c after, Bool.or_true]

theorem isQuiet_of_isPathFrom {chars : List Char} {started : Bool}
    (path : isPathFrom started chars) :
    isQuiet (String.ofList chars) := by
  induction chars generalizing started with
  | nil => rfl
  | cons c rest ih =>
    have split : String.ofList (c :: rest) = String.ofList [c] ++ String.ofList rest := by
      rw [← String.toList_inj]
      simp
    rw [split, isQuiet_append, Bool.and_eq_true]
    unfold isPathFrom at path
    split at path
    · split at path
      · next dot => exact ⟨by rw [dot]; decide, ih path⟩
      · rw [Bool.and_eq_true] at path
        exact ⟨isQuiet_of_all (by simpa using path.1), ih path.2⟩
    · rw [Bool.and_eq_true] at path
      exact ⟨isQuiet_of_all (by simpa using isNameChar_of_isNameStart path.1), ih path.2⟩

/-- Whether a tag is quiet, unless it is in quotes wherever it stands. -/
def TagRef.IsQuiet : TagRef → Prop
  | .document name => isQuiet name ∨ name.toList.contains '-'
  | .native name | .component name => isQuiet name

theorem TagRef.IsQuiet.isPlain {tag : TagRef} (quiet : tag.IsQuiet) : tag.IsPlain := by
  cases tag with
  | document name => exact quiet.imp_left isPlain_of_isQuiet
  | native name => exact isPlain_of_isQuiet quiet
  | component name => exact isPlain_of_isQuiet quiet

/-- Tags of the document are quiet, but for custom ones, which have a hyphen and are quoted for
that. -/
theorem isQuiet_of_isDocumentTag {name : String} (known : isDocumentTag name) :
    isQuiet name ∨ name.toList.contains '-' := by
  rw [isDocumentTag, Bool.or_eq_true] at known
  rcases known with listed | custom
  · have checked : ∀ tag ∈ documentTags, isQuiet tag := by decide +kernel
    exact .inl (checked name (List.contains_iff_mem.mp listed))
  · unfold isCustomTag at custom
    split at custom
    · next c rest chars =>
      rw [Bool.and_eq_true] at custom
      rw [chars, List.contains_cons, custom.2, Bool.or_true]
      exact .inr rfl
    · cases custom

theorem isQuiet_of_isNativeTag {name : String} {separatePackage : Bool}
    (known : isNativeTag name separatePackage) :
    isQuiet name := by
  have checked : ∀ tag ∈ nativeTags ++ newNativeTags, isQuiet tag := by decide +kernel
  rw [isNativeTag, Bool.or_eq_true, Bool.and_eq_true] at known
  refine checked name (List.mem_append.mpr ?_)
  exact known.imp List.contains_iff_mem.mp fun newer => List.contains_iff_mem.mp newer.2

theorem Target.classify_isQuiet {target : Target} {name : String} {place : Location} {tag : TagRef}
    (classified : target.classify name place = .ok tag) : tag.IsQuiet := by
  unfold classify at classified
  split at classified
  · next known =>
    unfold knows at known
    cases native : target.isNative with
    | true =>
      rw [native] at classified known
      cases classified
      exact isQuiet_of_isNativeTag known
    | false =>
      rw [native] at classified known
      cases classified
      exact isQuiet_of_isDocumentTag known
  · split at classified
    · next path =>
      cases classified
      have quiet := isQuiet_of_isPathFrom path
      rw [String.ofList_toList] at quiet
      exact quiet
    · cases classified

namespace TopLevel

/-- Code in brackets has no commas at the top level. -/
theorem cuts_bracketed {opening closing front inner : String}
    (bracket : (opening, closing) ∈ brackets) (before : IsBalanced front)
    (inside : IsBalanced inner) :
    cuts ',' (front ++ opening ++ inner ++ closing) = cuts ',' front :=
  (tally_iff.mp (tally_bracketed bracket before inside)).2

/-- Brackets hide the commas inside of them. -/
theorem cuts_enclosed {opening closing inner : String} (bracket : (opening, closing) ∈ brackets)
    (inside : IsBalanced inner) : cuts ',' (opening ++ inner ++ closing) = 0 := by
  have none := cuts_bracketed bracket Bracketing.topLevel.empty inside
  rw [String.empty_append] at none
  exact none

theorem cuts_quote (text : String) : cuts ',' (quote text) = 0 :=
  (tally_iff.mp (tally_quote ',' text)).2

/-- The commas between the arguments of a call are inside of its parentheses. -/
theorem cuts_application {function : String} {arguments : List String}
    (called : IsBalanced function) (each : ∀ argument ∈ arguments, IsBalanced argument) :
    cuts ',' (Target.application function arguments) = cuts ',' function :=
  cuts_bracketed (by decide) called (Bracketing.topLevel.intercalated (by decide) each)

theorem cuts_followed {code word : String} (balanced : IsBalanced code) (quiet : isQuiet word) :
    cuts ',' (code ++ word) = cuts ',' code := by
  rw [cuts_append balanced, cuts_of_isQuiet quiet, Nat.add_zero]

theorem cuts_boundReference {name : String} {outer : List String} (balanced : IsBalanced name)
    (names : ∀ name ∈ outer, isPlain name) :
    cuts ',' (boundReference name outer) = cuts ',' name := by
  have arguments : ∀ argument ∈ "this" :: outer, IsBalanced argument :=
    List.forall_mem_cons.mpr ⟨by decide, fun name member => .plain (names name member)⟩
  have called : IsBalanced (name ++ ".bind") := balanced.append (by decide)
  rw [boundReference_eq_application, cuts_application called arguments,
    cuts_followed balanced (by decide)]

/-- Parentheses hide the commas of code, and code that needs none has no comma. -/
theorem cuts_parenthesize {code : String} (balanced : IsBalanced code) :
    cuts ',' (parenthesize code) = 0 := by
  unfold parenthesize
  dsimp only
  split
  · next simple =>
    refine cuts_of_not_mem fun comma => ?_
    rw [isSimpleCode, Bool.and_eq_true] at simple
    exact absurd (List.all_eq_true.mp simple.2 ',' comma) (by decide)
  · exact cuts_enclosed (by decide) balanced.trimmed

theorem cuts_propertyKey (key : String) : cuts ',' (propertyKey key) = 0 := by
  unfold propertyKey
  split
  · next identifier => exact cuts_of_isQuiet (isQuiet_of_isIdentifier identifier)
  · exact cuts_quote key

theorem cuts_conditional {test code : String} (tested : IsBalanced test)
    (balanced : IsBalanced code) :
    cuts ',' ("(" ++ test ++ ") ? (" ++ code ++ ") : null") = 0 := by
  have front : IsBalanced ("(" ++ test ++ ")") := Bracketing.topLevel.enclosedIn (by decide) tested
  have middle : IsBalanced ("(" ++ test ++ ")" ++ " ? ") := front.append (by decide)
  have both : IsBalanced ("(" ++ test ++ ")" ++ " ? " ++ ("(" ++ code ++ ")")) :=
    middle.append (Bracketing.topLevel.enclosedIn (by decide) balanced)
  have question : cuts ',' " ? " = 0 := by decide
  have ending : cuts ',' " : null" = 0 := by decide
  rw [conditional_eq, cuts_append both, cuts_append middle, cuts_append front,
    cuts_enclosed (by decide) tested, cuts_enclosed (by decide) balanced, question, ending]

theorem cuts_objectLiteral {entries : List String} (each : ∀ entry ∈ entries, IsBalanced entry) :
    cuts ',' (objectLiteral entries) = 0 := by
  cases entries with
  | nil => decide
  | cons first rest =>
    have list : IsBalanced (", ".intercalate (first :: rest)) :=
      Bracketing.topLevel.intercalated (by decide) each
    rw [objectLiteral_eq (List.cons_ne_nil first rest)]
    exact cuts_enclosed (by decide) ((IsBalanced.append (by decide) list).append (by decide))

/-- Props are one argument, unless they are nothing but an object with a comma in it. -/
theorem cuts_propsCode {entries : List String} {spread : Option String}
    (each : ∀ entry ∈ entries, IsBalanced entry) (merged : ∀ code ∈ spread, IsBalanced code) :
    cuts ',' (Emit.propsCode entries spread) = if entries.isEmpty then totalCuts ',' spread.toList
      else 0 := by
  cases spread with
  | none =>
    have none : totalCuts ',' (none : Option String).toList = 0 := rfl
    rw [Emit.propsCode, cuts_objectLiteral each, none, ite_self]
  | some code =>
    unfold Emit.propsCode
    dsimp only
    split
    · rw [Option.toList_some, totalCuts_cons]
      rfl
    · have arguments : ∀ argument ∈ ["\x7b\x7d", objectLiteral entries, code],
          IsBalanced argument := by
        have none : IsBalanced "\x7b\x7d" := by decide
        simpa using ⟨none, Bracketing.topLevel.objectLiteral each, merged code rfl⟩
      rw [assign_eq_application, cuts_application (by decide) arguments]
      decide

theorem cuts_callee (target : Target) {tag : TagRef} (quiet : tag.IsQuiet) :
    cuts ',' (target.callee tag) = 0 := by
  unfold Target.callee
  split
  · cases tag with
    | document name =>
      unfold Target.factory
      dsimp only
      split
      · have member : cuts ',' ("React.DOM" ++ "[" ++ quote name ++ "]") = cuts ',' "React.DOM" :=
          cuts_bracketed (by decide) (by decide) (.quoted name)
        exact member
      · next simple =>
        have word : isQuiet name := quiet.resolve_right simple
        refine cuts_of_isQuiet ?_
        rw [isQuiet_append, word]
        decide
    | native name => exact cuts_of_isQuiet quiet
    | component name => exact cuts_of_isQuiet quiet
  · decide

theorem cuts_tagArgument (target : Target) {tag : TagRef} (quiet : tag.IsQuiet) :
    cuts ',' (target.tagArgument tag) = 0 := by
  cases tag with
  | document name => exact cuts_quote name
  | native name =>
    have word : isQuiet name := quiet
    have space : isQuiet target.componentSpace := by cases target <;> decide
    have path : isQuiet (target.componentSpace ++ "." ++ name) := by
      rw [isQuiet_append, isQuiet_append, word, space]
      decide
    exact cuts_of_isQuiet path
  | component name => exact cuts_of_isQuiet quiet

/-- Of the arguments for an element only its props and children can have commas, not its tag. -/
theorem totalCuts_arguments (target : Target) {tag : TagRef} (quiet : tag.IsQuiet) (props : String)
    (children : List String) :
    totalCuts ',' (target.arguments tag props children) =
      cuts ',' props + totalCuts ',' children := by
  unfold Target.arguments
  split
  · rw [totalCuts_cons]
  · rw [totalCuts_cons, totalCuts_cons, cuts_tagArgument target quiet, Nat.zero_add]

theorem cuts_intercalate_blank {texts : List String} (each : ∀ text ∈ texts, IsBalanced text) :
    cuts ',' (" ".intercalate texts) = totalCuts ',' texts := by
  induction texts with
  | nil => decide
  | cons first rest ih =>
    rw [List.forall_mem_cons] at each
    cases rest with
    | nil => simp [totalCuts]
    | cons second rest =>
      have front : IsBalanced (first ++ " ") := each.1.append (by decide)
      rw [String.intercalate_cons_cons, cuts_append front, cuts_followed each.1 (by decide),
        ih each.2, ← totalCuts_cons]

end TopLevel

namespace ChildCode

/-- Whether the code of a child is an argument. -/
def isArgument : ChildCode → Bool
  | argument _ => true
  | comment _ => false

/-- No comma is lost where comments are put in front of arguments. -/
theorem attach_cuts {pending : List String} {children : List ChildCode}
    (before : ∀ code ∈ pending, IsBalanced code)
    (each : ∀ child ∈ children, IsBalanced child.code) :
    totalCuts ',' (attach pending children).1 + totalCuts ',' (attach pending children).2 =
      totalCuts ',' pending + totalCuts ',' (children.map code) := by
  induction children generalizing pending with
  | nil => simp [attach, totalCuts]
  | cons child rest ih =>
    rw [List.forall_mem_cons] at each
    have extended : ∀ code ∈ pending ++ [child.code], IsBalanced code := by
      rw [List.forall_mem_append]
      exact ⟨before, by simpa using each.1⟩
    have total : totalCuts ',' (pending ++ [child.code]) =
        totalCuts ',' pending + cuts ',' child.code := by
      rw [totalCuts_append, totalCuts_cons]
      rfl
    rw [List.map_cons, totalCuts_cons]
    cases child with
    | comment code =>
      have later := ih extended each.2
      rw [total, ChildCode.code] at later
      rw [attach, ChildCode.code]
      omega
    | argument code =>
      have none : ∀ code ∈ ([] : List String), IsBalanced code := by simp
      have later := ih none each.2
      have empty : totalCuts ',' [] = 0 := rfl
      have joined := cuts_intercalate_blank extended
      rw [total] at joined
      simp only [attach, totalCuts_cons]
      rw [ChildCode.code] at joined ⊢
      omega

theorem length_attach (pending : List String) (children : List ChildCode) :
    (attach pending children).1.length = children.countP isArgument := by
  induction children generalizing pending with
  | nil => rfl
  | cons child rest ih =>
    cases child with
    | comment code => rw [attach, ih, List.countP_cons_of_neg (by simp [isArgument])]
    | argument code => rw [attach, List.length_cons, ih, List.countP_cons_of_pos rfl]

/-- None is lost either where comments are put behind the last one. -/
theorem appendLast_cuts {trailing arguments : List String}
    (after : ∀ code ∈ trailing, IsBalanced code)
    (each : ∀ argument ∈ arguments, IsBalanced argument) :
    totalCuts ',' (appendLast trailing arguments) =
      totalCuts ',' arguments + totalCuts ',' trailing := by
  fun_induction appendLast trailing arguments with
  | case1 =>
    have codes : ∀ code ∈ trailing ++ ["null"], IsBalanced code := by
      rw [List.forall_mem_append]
      have null : IsBalanced "null" := by decide
      exact ⟨after, by simpa using null⟩
    have null : totalCuts ',' ["null"] = 0 := by decide
    have empty : totalCuts ',' [] = 0 := rfl
    rw [totalCuts_cons, cuts_intercalate_blank codes, totalCuts_append]
    omega
  | case2 last =>
    have codes : ∀ code ∈ last :: trailing, IsBalanced code :=
      List.forall_mem_cons.mpr ⟨each last (List.mem_singleton.mpr rfl), after⟩
    have empty : totalCuts ',' [] = 0 := rfl
    rw [totalCuts_cons, cuts_intercalate_blank codes, totalCuts_cons, totalCuts_cons]
    omega
  | case3 first rest _ ih =>
    rw [List.forall_mem_cons] at each
    rw [totalCuts_cons, totalCuts_cons, ih each.2]
    omega

theorem length_appendLast (trailing arguments : List String) :
    (appendLast trailing arguments).length = max 1 arguments.length := by
  fun_induction appendLast trailing arguments with
  | case1 => rfl
  | case2 last => rfl
  | case3 first rest more ih =>
    have nonempty : rest ≠ [] := by
      rintro rfl
      exact more rfl
    have positive := List.length_pos_iff.mpr nonempty
    rw [List.length_cons, ih, List.length_cons]
    omega

/-- The commas of children are those of their arguments. -/
theorem arguments_cuts {children : List ChildCode}
    (each : ∀ child ∈ children, IsBalanced child.code) :
    totalCuts ',' (arguments children) = totalCuts ',' (children.map code) := by
  have none : ∀ code ∈ ([] : List String), Bracketing.topLevel.balanced code := by simp
  have empty : totalCuts ',' [] = 0 := rfl
  have attached := attach_cuts none each
  have ⟨balanced, trailing⟩ := attach_balanced none each
  unfold arguments
  dsimp only
  split
  · next done =>
    rw [List.isEmpty_iff.mp done] at attached
    omega
  · rw [appendLast_cuts trailing balanced]
    omega

/-- If no comment is left over, an argument came last, or there was nothing. -/
theorem attach_eq_nil {pending : List String} {children : List ChildCode}
    (done : (attach pending children).2 = []) :
    pending = [] ∧ children = [] ∨ 0 < children.countP isArgument := by
  induction children generalizing pending with
  | nil => exact .inl ⟨done, rfl⟩
  | cons child rest ih =>
    cases child with
    | comment code =>
      rcases ih done with ⟨none, _⟩ | some
      · simp at none
      · rw [List.countP_cons_of_neg (by simp [isArgument])]
        exact .inr some
    | argument code =>
      rw [List.countP_cons_of_pos rfl]
      exact .inr (Nat.succ_pos _)

/-- Children that are no comments are one argument each. Comments alone are one argument, too. -/
theorem length_arguments (children : List ChildCode) :
    (arguments children).length =
      if children.isEmpty then 0 else max 1 (children.countP isArgument) := by
  have attached := length_attach [] children
  unfold arguments
  dsimp only
  split
  · next done =>
    rcases attach_eq_nil (List.isEmpty_iff.mp done) with ⟨_, rfl⟩ | some
    · rfl
    · have nonempty : ¬ children.isEmpty := by
        rw [List.isEmpty_iff]
        rintro rfl
        cases some
      rw [if_neg nonempty, attached]
      omega
  · next trailing =>
    have nonempty : ¬ children.isEmpty := by
      rw [List.isEmpty_iff]
      rintro rfl
      exact trailing rfl
    rw [length_appendLast, if_neg nonempty, attached]

end ChildCode

/-- The texts between the commas of a list of texts. -/
def padded : List String → List String
  | [] => []
  | first :: rest => first :: rest.map (" " ++ ·)

/-- The texts between the commas of an object literal. -/
def spaced : List String → List String
  | [] => []
  | [last] => [" " ++ last ++ " "]
  | first :: rest => (" " ++ first) :: spaced rest

theorem intercalate_blank_map {texts : List String} (nonempty : texts ≠ []) :
    " " ++ ", ".intercalate texts = ",".intercalate (texts.map (" " ++ ·)) := by
  induction texts with
  | nil => contradiction
  | cons first rest ih =>
    cases rest with
    | nil => simp
    | cons second rest =>
      have later := ih (by simp)
      rw [List.map_cons] at later
      rw [String.intercalate_cons_cons, List.map_cons, List.map_cons, String.intercalate_cons_cons,
        ← later, ← String.toList_inj]
      simp [String.toList_append]

/-- Arguments are written with a blank behind each comma, which belongs to the piece that
follows. -/
theorem intercalate_padded (texts : List String) :
    ", ".intercalate texts = ",".intercalate (padded texts) := by
  cases texts with
  | nil => rfl
  | cons first rest =>
    cases rest with
    | nil => rfl
    | cons second rest =>
      have later := intercalate_blank_map (List.cons_ne_nil second rest)
      rw [List.map_cons] at later
      rw [String.intercalate_cons_cons, padded, List.map_cons, String.intercalate_cons_cons,
        ← later, ← String.toList_inj]
      simp [String.toList_append]

theorem intercalate_spaced {entries : List String} (nonempty : entries ≠ []) :
    " " ++ ", ".intercalate entries ++ " " = ",".intercalate (spaced entries) := by
  induction entries with
  | nil => contradiction
  | cons first rest ih =>
    cases rest with
    | nil => simp [spaced]
    | cons second rest =>
      have later := ih (by simp)
      have some : spaced (second :: rest) ≠ [] := by
        cases rest with
        | nil => simp [spaced]
        | cons third rest => simp [spaced]
      obtain ⟨next, more, listed⟩ := List.exists_cons_of_ne_nil some
      rw [spaced, listed, String.intercalate_cons_cons, String.intercalate_cons_cons, ← listed,
        ← later, ← String.toList_inj]
      · simp [String.toList_append]
      · simp

theorem cuts_blank_append (text : String) : cuts ',' (" " ++ text) = cuts ',' text := by
  have blank : cuts ',' " " = 0 := by decide
  have balanced : IsBalanced " " := by decide
  rw [cuts_append balanced, blank, Nat.zero_add]

theorem totalCuts_blanks (texts : List String) :
    totalCuts ',' (texts.map (" " ++ ·)) = totalCuts ',' texts := by
  induction texts with
  | nil => rfl
  | cons first rest ih => rw [List.map_cons, totalCuts_cons, totalCuts_cons, cuts_blank_append, ih]

/-- Arguments can be found again if they have no commas at the top level. -/
theorem split_padded_iff {texts : List String} (nonempty : texts ≠ [])
    (each : ∀ text ∈ texts, IsBalanced text) :
    split ',' (", ".intercalate texts) = padded texts ↔ totalCuts ',' texts = 0 := by
  obtain ⟨first, rest, rfl⟩ := List.exists_cons_of_ne_nil nonempty
  rw [List.forall_mem_cons] at each
  have balanced : ∀ text ∈ padded (first :: rest), IsBalanced text := by
    rw [padded, List.forall_mem_cons, List.forall_mem_map]
    exact ⟨each.1, fun text member => IsBalanced.append (by decide) (each.2 text member)⟩
  have total : totalCuts ',' (padded (first :: rest)) = totalCuts ',' (first :: rest) := by
    rw [padded, totalCuts_cons, totalCuts_cons, totalCuts_blanks]
  rw [intercalate_padded, ← total]
  exact split_intercalate_eq_iff (by decide) (by simp [padded]) fun text member =>
    Scan.run_of_runAbove (balanced text member)

/-- Names can be read between the commas of their list. -/
theorem split_names {names : List String} (nonempty : names ≠ [])
    (quiet : ∀ name ∈ names, isQuiet name) :
    split ',' (", ".intercalate names) = padded names := by
  have balanced : ∀ name ∈ names, IsBalanced name :=
    fun name member => .plain (isPlain_of_isQuiet (quiet name member))
  rw [split_padded_iff nonempty balanced, totalCuts_eq_zero_iff]
  intro name member
  rw [split_eq_singleton_iff]
  exact cuts_of_isQuiet (quiet name member)

/-- Blanks around entries change neither their brackets nor their commas. -/
theorem spaced_balanced {entries : List String} (each : ∀ entry ∈ entries, IsBalanced entry) :
    (∀ text ∈ spaced entries, IsBalanced text) ∧
      totalCuts ',' (spaced entries) = totalCuts ',' entries := by
  have blank : IsBalanced " " := by decide
  fun_induction spaced entries with
  | case1 => exact ⟨by simp, rfl⟩
  | case2 last =>
    have front : IsBalanced (" " ++ last) := blank.append (each last (List.mem_singleton.mpr rfl))
    refine ⟨by simpa using front.append blank, ?_⟩
    rw [totalCuts_cons, totalCuts_cons, cuts_followed front (by decide), cuts_blank_append]
  | case3 first rest _ ih =>
    rw [List.forall_mem_cons] at each
    obtain ⟨balanced, total⟩ := ih each.2
    refine ⟨List.forall_mem_cons.mpr ⟨blank.append each.1, balanced⟩, ?_⟩
    rw [totalCuts_cons, totalCuts_cons, cuts_blank_append, total]

/-- Entries can be found again between the braces of an object if they have no commas at the top
level. -/
theorem split_spaced_iff {entries : List String} {inside : String} (nonempty : entries ≠ [])
    (each : ∀ entry ∈ entries, IsBalanced entry)
    (literal : objectLiteral entries = "\x7b" ++ inside ++ "\x7d") :
    split ',' inside = spaced entries ↔ totalCuts ',' entries = 0 := by
  have same : inside = ",".intercalate (spaced entries) := by
    rw [objectLiteral_eq nonempty, intercalate_spaced nonempty, String.append_left_inj,
      String.append_right_inj] at literal
    exact literal.symm
  obtain ⟨balanced, total⟩ := spaced_balanced each
  have some : spaced entries ≠ [] := by
    fun_cases spaced entries with
    | case1 => contradiction
    | case2 last => simp
    | case3 first rest _ => simp
  rw [same, ← total]
  exact split_intercalate_eq_iff (by decide) some fun text member =>
    Scan.run_of_runAbove (balanced text member)

end RenderTemplate
