import RenderTemplate.Compile
import RenderTemplate.Proofs.Closure
import RenderTemplate.Proofs.Lifting

namespace RenderTemplate

open Markup

theorem lt_of_isNameStart {c : Char} (start : isNameStart c) : c.toNat < 128 := by
  have alpha : c.isAlpha = (c.isUpper || c.isLower) := rfl
  have upper : c.isUpper = decide ('A'.val ≤ c.val ∧ c.val ≤ 'Z'.val) := rfl
  have lower : c.isLower = (decide ('a'.val ≤ c.val) && decide (c.val ≤ 'z'.val)) := rfl
  simp only [isNameStart, alpha, upper, lower, Bool.or_eq_true, Bool.and_eq_true, decide_eq_true_eq,
    beq_iff_eq, UInt32.le_iff_toNat_le] at start
  have code : c.toNat = c.val.toNat := rfl
  rcases start with ((upper | lower) | rfl) | rfl
  · have bound : 'Z'.val.toNat = 90 := rfl
    omega
  · have bound : 'z'.val.toNat = 122 := rfl
    omega
  · decide
  · decide

/-- What holds of the characters below 128 that can start a name holds of all that can. -/
theorem forall_isNameStart {motive : Char → Bool}
    (checked : ∀ code < 128, isNameStart (Char.ofNat code) → motive (Char.ofNat code)) {c : Char}
    (start : isNameStart c) : motive c := by
  have here := checked c.toNat (lt_of_isNameStart start)
  rw [Char.ofNat_toNat] at here
  exact here start

theorem isNameChar_of_isNameStart {c : Char} (start : isNameStart c) : isNameChar c :=
  forall_isNameStart (motive := isNameChar) (by decide +kernel) start

/-- The first character of a name may stand in a name also in uppercase. -/
theorem isNameChar_uppercase {c : Char} (start : isNameStart c) :
    (Text.uppercase c).all isNameChar :=
  forall_isNameStart (motive := fun c => (Text.uppercase c).all isNameChar) (by decide +kernel)
    start

theorem isNameChar_of_isDigit {c : Char} (digit : c.isDigit) : isNameChar c := by
  have bounds : 48 ≤ c.toNat ∧ c.toNat ≤ 57 := by
    simpa [Char.isDigit, UInt32.le_iff_toNat_le] using digit
  have small : c.toNat < 0x80 := by omega
  simp [isNameChar, Text.isWordChar, small, Char.isAlphanum, digit]

theorem isDigit_of_mem_toString {number : Nat} {c : Char} (member : c ∈ (toString number).toList) :
    c.isDigit := by
  rw [Nat.toString_eq_repr, Nat.toList_repr] at member
  exact Nat.isDigit_of_mem_toDigits (b := 10) (by decide) (by decide) member

theorem toList_toString_ne_nil (number : Nat) : (toString number).toList ≠ [] := by
  rw [Nat.toString_eq_repr, Nat.toList_repr]
  exact Nat.toDigits_ne_nil

/-- The codes of the blank characters. -/
def blankCodes : List Nat :=
  List.range' 9 5 ++ [0x20, 0x85, 0xA0, 0x1680] ++ List.range' 0x2000 11 ++
    [0x2028, 0x2029, 0x202F, 0x205F, 0x3000]

/-- Whatever holds of no blank keeps characters apart from blanks. There are few blanks, so this is
checked for each. -/
theorem not_isBlankChar_of_all {motive : Char → Bool}
    (apart : blankCodes.all fun code => !motive (Char.ofNat code)) {c : Char} (holds : motive c) :
    Text.isBlankChar c = false := by
  rw [Bool.eq_false_iff]
  intro blank
  have listed : c.toNat ∈ blankCodes := by
    simp only [Text.isBlankChar, Bool.or_eq_true, Bool.and_eq_true, decide_eq_true_eq,
      beq_iff_eq] at blank
    simp only [blankCodes, List.mem_append, List.mem_range'_1, List.mem_cons, List.not_mem_nil,
      or_false]
    omega
  have excluded := List.all_eq_true.mp apart _ listed
  rw [Char.ofNat_toNat, holds] at excluded
  cases excluded

theorem not_isBlankChar_of_isNameChar {c : Char} (inName : isNameChar c) :
    Text.isBlankChar c = false :=
  not_isBlankChar_of_all (motive := isNameChar) (by decide +kernel) inName

/-- A name may go on with anything that may stand in a name. -/
theorem isNameForm_append {front rest : List Char} (nonempty : front ≠ []) :
    isNameForm (front ++ rest) = (isNameForm front && rest.all isNameChar) := by
  obtain ⟨c, tail, rfl⟩ := List.exists_cons_of_ne_nil nonempty
  simp [isNameForm, Bool.and_assoc]

theorem all_of_isNameForm {name : List Char} (form : isNameForm name) : name.all isNameChar := by
  cases name with
  | nil => rfl
  | cons c rest =>
    simp only [isNameForm, Bool.and_eq_true] at form
    rw [List.all_cons, isNameChar_of_isNameStart form.1, form.2, Bool.and_self]

theorem isNameForm_of_isIdentifier {name : String} (identifier : isIdentifier name) :
    isNameForm name.toList := by
  simp only [isIdentifier, Bool.and_eq_true] at identifier
  exact identifier.1

theorem all_capitalize {name : String} (identifier : isIdentifier name) :
    (capitalize name).toList.all isNameChar := by
  have form := isNameForm_of_isIdentifier identifier
  unfold capitalize
  cases chars : name.toList with
  | nil => rfl
  | cons c rest =>
    rw [chars, isNameForm, Bool.and_eq_true] at form
    simp [isNameChar_uppercase form.1, form.2]

namespace Text

theorem trimLeft_eq_self {chars : List Char} (solid : ∀ c ∈ chars, isBlankChar c = false) :
    trimLeft chars = chars := by
  cases chars with
  | nil => rfl
  | cons c rest => rw [trimLeft, List.dropWhile_cons, solid c List.mem_cons_self, if_neg (by simp)]

theorem trimList_eq_self {chars : List Char} (solid : ∀ c ∈ chars, isBlankChar c = false) :
    trimList chars = chars := by
  have reversed : trimLeft chars.reverse = chars.reverse := by
    refine trimLeft_eq_self fun c member => solid c ?_
    rwa [List.mem_reverse] at member
  rw [trimList, trimLeft_eq_self solid, trimRight, ← trimLeft, reversed, List.reverse_reverse]

theorem exists_trimRight (chars : List Char) :
    ∃ blanks, (∀ c ∈ blanks, isBlankChar c) ∧ chars = trimRight chars ++ blanks := by
  refine ⟨(chars.reverse.takeWhile isBlankChar).reverse, ?_, ?_⟩
  · intro c member
    rw [List.mem_reverse] at member
    exact List.all_eq_true.mp List.all_takeWhile c member
  · rw [trimRight, ← List.reverse_append, List.takeWhile_append_dropWhile, List.reverse_reverse]

theorem exists_trimLeft (chars : List Char) :
    ∃ blanks, (∀ c ∈ blanks, isBlankChar c) ∧ chars = blanks ++ trimLeft chars :=
  ⟨chars.takeWhile isBlankChar, List.all_eq_true.mp List.all_takeWhile,
    List.takeWhile_append_dropWhile.symm⟩

/-- Blanks are trimmed from behind the last character that is not blank, and not before it. -/
theorem trimRight_append_cons {c : Char} (solid : isBlankChar c = false) (front rest : List Char) :
    trimRight (front ++ c :: rest) = front ++ c :: trimRight rest := by
  have kept : (c :: front.reverse).dropWhile isBlankChar = c :: front.reverse := by
    rw [List.dropWhile_cons, solid, if_neg Bool.false_ne_true]
  have turned : (front ++ c :: rest).reverse = rest.reverse ++ c :: front.reverse := by
    rw [List.reverse_append, List.reverse_cons, List.append_assoc, List.singleton_append]
  rw [trimRight, turned, List.dropWhile_append, kept, trimRight]
  split
  · next empty =>
    rw [List.isEmpty_iff] at empty
    rw [empty, List.reverse_cons, List.reverse_reverse, List.reverse_nil]
  · rw [List.reverse_append, List.reverse_cons, List.reverse_reverse, List.append_assoc,
      List.singleton_append]

theorem trimList_blanks_append {blanks : List Char} (blank : ∀ c ∈ blanks, isBlankChar c)
    (rest : List Char) :
    trimList (blanks ++ rest) = trimList rest := by
  rw [trimList, trimLeft, List.dropWhile_append_of_pos blank, ← trimLeft, ← trimList]

end Text

/-- A name has no blanks at its ends. -/
theorem trim_eq_self {name : String} (form : isNameForm name.toList) : Text.trim name = name := by
  have solid : ∀ c ∈ name.toList, Text.isBlankChar c = false := by
    intro c member
    exact not_isBlankChar_of_isNameChar (List.all_eq_true.mp (all_of_isNameForm form) c member)
  rw [Text.trim, Text.trimList_eq_self solid, String.ofList_toList]

/-- The names of a loop are accepted if they are different identifiers. -/
theorem RepeatClause.nameFault?_eq_none_iff {value item index : String} :
    nameFault? value item index = none ↔ isIdentifier item ∧ isIdentifier index ∧ item ≠ index := by
  unfold nameFault?
  split
  · next name refused =>
    refine iff_of_false (by simp) fun fine => ?_
    have invalid := List.find?_some refused
    have member := List.mem_of_find?_eq_some refused
    simp only [List.mem_cons, List.not_mem_nil, or_false] at member
    rcases member with rfl | rfl
    · simp [fine.1] at invalid
    · simp [fine.2.1] at invalid
  · next valid =>
    have identifiers : isIdentifier item ∧ isIdentifier index := by simpa using valid
    simp [identifiers]

theorem RepeatClause.read_names {host : HostLanguage} {directive : DirectiveValue}
    {clause : RepeatClause} (read : RepeatClause.read host directive = .ok clause) :
    isIdentifier clause.item ∧ isIdentifier clause.index ∧ clause.item ≠ clause.index := by
  obtain ⟨_, _, _, _, _, fine, _⟩ := RepeatClause.read_ok read
  exact nameFault?_eq_none_iff.mp fine

theorem ScopeClause.read_identifiers {host : HostLanguage} {directive : DirectiveValue}
    {aliases : List ScopeAlias} (read : ScopeClause.read host directive = .ok aliases) :
    ∀ entry ∈ aliases, isIdentifier entry.name := by
  refine ScopeClause.read_ok (motive := fun known => ∀ entry ∈ known, isIdentifier entry.name) read
    (by simp) ?_
  intro known piece code word identifiers _ identifier _ _
  rw [List.forall_mem_append]
  exact ⟨identifiers, by simpa using identifier⟩

theorem ScopeClause.read_ne_nil {host : HostLanguage} {directive : DirectiveValue}
    {aliases : List ScopeAlias} (read : ScopeClause.read host directive = .ok aliases) :
    aliases ≠ [] := by
  obtain ⟨entries, _, read⟩ := bind_ok.mp read
  split at read
  · cases read
  · next some =>
    cases read
    simpa using some

/-- Whether the names of a spec are identifiers, apart from blanks around the prop. -/
structure TemplateSpec.IsValid (spec : TemplateSpec) : Prop where
  prop : isIdentifier (Text.trim spec.prop)
  arguments : ∀ name ∈ spec.arguments, isIdentifier name

namespace TemplateSpec

theorem addArgument_identifiers {place : Location} {known result : List String} {piece : String}
    (added : addArgument place known piece = .ok result)
    (identifiers : ∀ name ∈ known, isIdentifier name) :
    ∀ name ∈ result, isIdentifier name := by
  simp only [addArgument] at added
  split at added
  · cases added
    exact identifiers
  · split at added
    · cases added
    · next fine =>
      cases added
      simp only [Bool.or_eq_true, Bool.not_eq_true', not_or, Bool.not_eq_false] at fine
      intro name member
      rcases List.mem_append.mp member with old | new
      · exact identifiers name old
      · rw [List.mem_singleton.mp new]
        exact fine.1

theorem readArguments_identifiers {text : String} {place : Location} {arguments : List String}
    (read : readArguments text place = .ok arguments) : ∀ name ∈ arguments, isIdentifier name :=
  foldlM_ok (motive := fun known => ∀ name ∈ known, isIdentifier name) read (by simp)
    fun _ _ _ identifiers added => addArgument_identifiers added identifiers

/-- A template that declares itself is as valid as one of checked options. -/
theorem isValid_ofStart {start : StartTag} {spec : TemplateSpec} (read : ofStart start = .ok spec) :
    spec.IsValid := by
  unfold ofStart at read
  split at read
  · cases read
  · split at read
    · next prop _ identifier =>
      have trimmed : isIdentifier (Text.trim prop) := by
        rwa [trim_eq_self (isNameForm_of_isIdentifier identifier)]
      dsimp only at read
      split at read
      · obtain ⟨arguments, listed, read⟩ := bind_ok.mp read
        cases read
        exact ⟨trimmed, readArguments_identifiers listed⟩
      · cases read
        exact ⟨trimmed, by simp⟩
    · cases read

theorem isValid_of_checkSpec {owner child : String} {spec : TemplateSpec}
    (checked : Options.checkSpec owner child spec = .ok ()) : spec.IsValid := by
  unfold Options.checkSpec at checked
  split at checked
  · next identifier =>
    split at checked
    · cases checked
    · next none => exact ⟨identifier, by simpa using none⟩
  · cases checked

theorem isValid_listTemplates : ∀ entry ∈ listTemplates, entry.2.IsValid := by
  have checked : ∀ entry ∈ listTemplates, isIdentifier (Text.trim entry.2.prop) ∧
      ∀ name ∈ entry.2.arguments, isIdentifier name := by
    decide +kernel
  exact fun entry member => ⟨(checked entry member).1, (checked entry member).2⟩

end TemplateSpec

theorem forM_ok {ε α : Type} {check : α → Except ε Unit} {items : List α}
    (run : items.forM check = .ok ()) :
    ∀ item ∈ items, check item = .ok () := by
  induction items with
  | nil => simp
  | cons item items ih =>
    obtain ⟨_, first, later⟩ := bind_ok.mp run
    exact List.forall_mem_cons.mpr ⟨first, ih later⟩

theorem checkSpec_of_validate {options : Options} (valid : options.validate = .ok ()) :
    ∀ owned ∈ options.templates.entries, ∀ entry ∈ owned.2.entries,
      Options.checkSpec owned.1 entry.1 entry.2 = .ok () := by
  unfold Options.validate at valid
  split at valid
  · cases valid
  · split at valid
    · cases valid
    · intro owned member
      exact forM_ok (forM_ok valid owned member)

/-- Each specification of checked options is valid, whether it is configured or built in. -/
theorem isValid_of_spec? {options : Options} (valid : options.validate = .ok ())
    {owner child : String} {spec : TemplateSpec} (known : options.spec? owner child = some spec) :
    spec.IsValid := by
  unfold Options.spec? at known
  split at known
  · next configured =>
    cases known
    obtain ⟨children, listed, inside⟩ := Option.bind_eq_some_iff.mp configured
    have owned : (owner, children) ∈ options.templates.entries := mem_of_lookup listed
    have entry : (child, spec) ∈ children.entries := mem_of_lookup inside
    have checked := checkSpec_of_validate valid _ owned _ entry
    exact TemplateSpec.isValid_of_checkSpec checked
  · split at known
    · exact TemplateSpec.isValid_listTemplates (child, spec) (mem_of_lookup known)
    · cases known

/-- Options that were checked describe templates with valid names only. -/
theorem isValid_of_childSpec? {options : Options} (valid : options.validate = .ok ())
    {owner : String} {start : StartTag} {spec : TemplateSpec}
    (known : childSpec? options owner start = some (.ok spec)) : spec.IsValid := by
  unfold childSpec? at known
  split at known
  · exact TemplateSpec.isValid_ofStart (Option.some.inj known)
  · obtain ⟨found, looked, same⟩ := Option.map_eq_some_iff.mp known
    cases same
    exact isValid_of_spec? valid looked

namespace Construct

/-- Whether the names that a construct binds, or that it gives to a prop, are as the readers of
templates check them. -/
def IsChecked : Construct → Prop
  | loop found => isIdentifier found.item ∧ isIdentifier found.index
  | block found => found.aliases ≠ [] ∧ ∀ entry ∈ found.aliases, isIdentifier entry.name
  | template found => TemplateSpec.IsValid ⟨found.prop, found.arguments⟩
  | handler found => isEventName found.event

end Construct

theorem Arises.isEventName {setting : Setting} {templates : List PropTemplate} {scope : Scope}
    {head : ElementHead} {children : List RenderNode} {key : String} {handler : Handler}
    (arises : Arises setting templates scope (.element head children))
    (member : ⟨key, .handler handler⟩ ∈ head.props) :
    isEventName handler.event := by
  cases arises with
  | element read references _ _ =>
    rcases List.mem_append.mp member with written | lifted
    · exact (read.isLocal _ written).2
    · obtain ⟨_, _, same, _⟩ := references _ lifted
      cases same

section

variable {setting : Setting} {nodes : List Node} {tree : RenderTree} {warnings : List Warning}
  {environment : List String}
  {scope : Scope}

/-- The names that a construct binds were checked when it was read. -/
theorem RenderTree.Meets.isChecked {construct : Construct}
    (met : tree.Meets environment scope construct) (valid : setting.options.validate = .ok ())
    (resolved : resolve setting nodes = .ok (tree, warnings)) :
    construct.IsChecked := by
  have origin := resolve_arises resolved
  cases met with
  | loop here =>
    obtain ⟨arises, _⟩ := here.arises origin
    cases arises with
    | iteration read _ =>
      obtain ⟨item, index, _⟩ := RepeatClause.read_names read
      exact ⟨item, index⟩
  | block here =>
    obtain ⟨arises, _⟩ := here.arises origin
    cases arises with
    | binding read _ => exact ⟨ScopeClause.read_ne_nil read, ScopeClause.read_identifiers read⟩
  | template _ _ known =>
    obtain ⟨start, specified⟩ := (resolve_lifts resolved).specified _ (List.mem_of_getElem? known)
    exact isValid_of_childSpec? valid specified
  | handler here member =>
    obtain ⟨arises, _⟩ := here.arises origin
    exact arises.isEventName member

/-- The names that are bound at a place of a template are identifiers. -/
theorem RenderTree.Reaches.identifiers {node : RenderNode}
    (here : tree.Reaches environment scope node) (valid : setting.options.validate = .ok ())
    (resolved : resolve setting nodes = .ok (tree, warnings)) :
    ∀ name ∈ scope.visible, isIdentifier name := by
  induction here with
  | root => simp [Scope.visible]
  | child _ _ ih => exact ih
  | grouped _ _ ih => exact ih
  | tested _ ih => exact ih
  | repeated here ih =>
    have checked := (Meets.loop here).isChecked valid resolved
    intro name visible
    rcases Scope.mem_visible_push.mp visible with around | own
    · exact ih name around
    · simp only [Construct.own, List.mem_cons, List.not_mem_nil, or_false] at own
      rcases own with rfl | rfl
      · exact checked.1
      · exact checked.2
  | bound here ih =>
    have checked := (Meets.block here).isChecked valid resolved
    intro name visible
    rcases Scope.mem_visible_push.mp visible with around | own
    · exact ih name around
    · obtain ⟨entry, listed, rfl⟩ := List.mem_map.mp own
      exact checked.2 entry listed
  | lifted here member known ih =>
    have checked := (Meets.template here member known).isChecked valid resolved
    intro name visible
    rcases Scope.mem_visible_push.mp visible with around | own
    · exact ih name around
    · exact checked.arguments name own

end

/-- A template that is compiled was resolved. -/
theorem exists_resolve_of_renderTree {host : HostLanguage} {options : Options} {source : String}
    {tree : RenderTree} {warnings : List Warning}
    (rendered : renderTree host options source = .ok (tree, warnings)) :
    ∃ nodes, resolve (Setting.ofOptions host options) nodes = .ok (tree, warnings) := by
  obtain ⟨nodes, _, resolved⟩ := bind_ok.mp rendered
  exact ⟨_, resolved⟩

end RenderTemplate
