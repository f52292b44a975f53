import RenderTemplate.Proofs.Acceptance
import RenderTemplate.Proofs.PropKeys
import RenderTemplate.Proofs.Slices
import RenderTemplate.Proofs.TextSums

namespace RenderTemplate

open Markup

/-- Whether code is one string literal: its first and its last character are the only quotes in it
that no backslash hides. -/
def Quoted.IsLiteral (code : List Char) : Prop :=
  bareQuotes 0 code = [0, code.length - 1]

instance (code : List Char) : Decidable (Quoted.IsLiteral code) :=
  inferInstanceAs (Decidable (_ = _))

/-- What stands in a sum behind a string literal. -/
def sumBehindLiteral : List Char :=
  ['"', ' ', '+', ' ']

namespace ClassSet

/-- What is taken for a literal: code between quotes, in which no quote is followed by a plus sign
between blanks. -/
theorem isQuotedLiteral_iff {code : String} :
    isQuotedLiteral code ↔ (∃ inner, code.toList = '"' :: (inner ++ ['"'])) ∧
      ¬ sumBehindLiteral <:+: code.toList := by
  have piece : "\" + ".toList = sumBehindLiteral := rfl
  rw [isQuotedLiteral, Bool.and_eq_true, Option.isSome_iff_exists, Bool.not_eq_true',
    Bool.eq_false_iff, ne_eq, Text.holds_iff, piece]
  simp only [Text.unwrap?_eq_some_iff]

/-- A sum that starts with a literal has an operator directly behind a quote. -/
theorem not_isQuotedLiteral_of_literal (text rest : String) :
    ¬ isQuotedLiteral (quote text ++ " + " ++ rest) := by
  rw [isQuotedLiteral_iff, not_and_not_right]
  intro _
  refine ⟨'"' :: text.toList.flatMap Quoted.escape, rest.toList, ?_⟩
  simp [quote, Quoted.encode, sumBehindLiteral]

/-- A sum that starts with an expression does not start with a quote. -/
theorem not_isQuotedLiteral_of_expression (code rest : String) :
    ¬ isQuotedLiteral (parenthesize code ++ " + " ++ rest) := by
  rw [isQuotedLiteral_iff]
  rintro ⟨⟨inner, quoted⟩, _⟩
  have first := congrArg List.head? quoted
  have unquoted := Part.head?_parenthesize code
  rw [String.toList_append, String.toList_append, List.append_assoc, List.head?_append] at first
  cases front : (parenthesize code).toList.head? with
  | none => simp [front] at first
  | some c =>
    rw [front, Option.some_or] at first
    exact unquoted (front.trans first)

/-- A sum of several parts is not taken for a literal, whatever its parts are. -/
theorem not_isQuotedLiteral_sum (first second : Part) (rest : List Part) :
    ¬ isQuotedLiteral (Part.concatenate (first :: second :: rest)) := by
  cases first with
  | literal text =>
    change ¬ isQuotedLiteral
      (" + ".intercalate (quote text :: second.operand :: rest.map Part.operand))
    rw [String.intercalate_cons_cons]
    exact not_isQuotedLiteral_of_literal text _
  | expression code =>
    cases second with
    | literal text =>
      change ¬ isQuotedLiteral
        (" + ".intercalate (parenthesize code :: quote text :: rest.map Part.operand))
      rw [String.intercalate_cons_cons]
      exact not_isQuotedLiteral_of_expression code _
    | expression other =>
      -- The sum of two expressions starts with an empty text.
      change ¬ isQuotedLiteral
        (" + ".intercalate (quote "" :: parenthesize code :: parenthesize other ::
        rest.map Part.operand))
      rw [String.intercalate_cons_cons]
      exact not_isQuotedLiteral_of_literal "" _

theorem isLiteral_quote (text : String) : Quoted.IsLiteral (quote text).toList := by
  rw [Quoted.IsLiteral, quote, String.toList_ofList]
  exact Quoted.bareQuotes_encode text.toList

/-- Only for an expression alone, code can be taken for a literal that is none. -/
theorem isLiteral_concatenate {parts : List Part} (other : ∀ code, parts ≠ [.expression code])
    (quoted : isQuotedLiteral (Part.concatenate parts)) :
    Quoted.IsLiteral (Part.concatenate parts).toList := by
  cases parts with
  | nil => exact isLiteral_quote ""
  | cons first more =>
    cases more with
    | nil =>
      cases first with
      | literal text =>
        change Quoted.IsLiteral (" + ".intercalate [quote text]).toList
        rw [String.intercalate_singleton]
        exact isLiteral_quote text
      | expression code => exact absurd rfl (other code)
    | cons second rest => exact absurd quoted (not_isQuotedLiteral_sum first second rest)

theorem baseOperand_eq_or (code : String) :
    baseOperand code = code ∨ baseOperand code = parenthesize code := by
  unfold baseOperand
  split
  · exact .inl rfl
  · exact .inr rfl

/-- The first operand is a literal or in parentheses, as far as what is taken for a literal is
one. -/
theorem baseOperand_iff {code : String} :
    (Quoted.IsLiteral (baseOperand code).toList ∨ baseOperand code = parenthesize code) ↔
      (isQuotedLiteral code → Quoted.IsLiteral code.toList) := by
  unfold baseOperand
  split
  · next quoted =>
    obtain ⟨⟨inner, chars⟩, _⟩ := isQuotedLiteral_iff.mp quoted
    have other : code ≠ parenthesize code := by
      intro same
      have unquoted := Part.head?_parenthesize code
      rw [← same, chars] at unquoted
      exact unquoted rfl
    simp [quoted, other]
  · next unquoted => simp [unquoted]

/-- The code of a prop is joined where it stands. -/
theorem find?_merge {key classes text : String} {props : List RenderProp}
    (found : props.find? (·.key == key) = some ⟨key, .code text⟩) :
    (merge key classes props).find? (·.key == key) =
      some ⟨key, .code (baseOperand text ++ " + \" \" + " ++ classes)⟩ := by
  have joined : ∃ merged, mergeInto? key classes props = some merged ∧
      merged.find? (·.key == key) =
        some ⟨key, .code (baseOperand text ++ " + \" \" + " ++ classes)⟩ := by
    induction props with
    | nil => cases found
    | cons prop rest ih =>
      unfold mergeInto?
      cases same : prop.key == key with
      | true =>
        simp only [List.find?_cons, same, Option.some.injEq] at found
        rw [found, if_pos rfl]
        exact ⟨_, rfl, by simp⟩
      | false =>
        simp only [List.find?_cons, same] at found
        obtain ⟨merged, into, first⟩ := ih found
        rw [if_neg Bool.false_ne_true, into]
        exact ⟨prop :: merged, rfl, by simp only [List.find?_cons, same, first]⟩
  obtain ⟨merged, into, first⟩ := joined
  rw [merge, into, Option.getD_some, first]

theorem key_ne_style : ∀ target, key target ≠ "style" :=
  Target.forall_iff.mpr (by decide)

end ClassSet

namespace Markup.Attribute

/-- Whether an attribute sets the classes of its element. -/
def SetsClasses (target : Target) (attr : Attribute) : Prop :=
  Directive.ofName? attr.name = none ∧ propKey target attr.name = ClassSet.key target

/-- Whether the value of an attribute is an expression alone, which is no string literal but starts
and ends with a quote, and in which no sum goes on behind a string. -/
def Misleads (attr : Attribute) : Prop :=
  ∃ value code, attr.value = some value ∧ Part.split value.toList = .ok [.expression code] ∧
    (∃ inner, (Text.trim code).toList = '"' :: (inner ++ ['"'])) ∧
    ¬ sumBehindLiteral <:+: (Text.trim code).toList ∧
    ¬ Quoted.IsLiteral (Text.trim code).toList

end Markup.Attribute

section

variable {setting : Setting} {scope : Scope} {attr : Attribute}

theorem Markup.Attribute.SetsClasses.not_isEventName {target : Target}
    (sets : attr.SetsClasses target) :
    ¬ isEventName attr.name := by
  intro event
  have named : attr.name = ClassSet.key target := (propKey_of_isEventName event).symm.trans sets.2
  rw [named] at event
  exact not_isEventName_key target event

/-- The code for the classes of an element: an attribute without a value is set, and else the parts
of its value are added up. -/
theorem attributeValue_classes {code : String} (sets : attr.SetsClasses setting.target)
    (read : attributeValue setting scope attr (ClassSet.key setting.target) = .ok (.code code)) :
    (attr.value = none ∧ code = "true") ∨ ∃ value written, attr.value = some value ∧
      Part.split value.toList = .ok written ∧
        code = Part.concatenate (written.map Part.decoded) := by
  unfold attributeValue at read
  split at read
  · next absent =>
    rw [if_neg sets.not_isEventName] at read
    cases read
    exact .inl ⟨absent, rfl⟩
  · next value valued =>
    rw [if_neg sets.not_isEventName] at read
    obtain ⟨parts, accepted, read⟩ := bind_ok.mp read
    obtain ⟨written, split, rfl⟩ := (attributeParts_accepted accepted).split
    refine .inr ⟨value, written, valued, split, ?_⟩
    split at read
    · next code alone =>
      cases read
      rw [alone]
      rfl
    · next same _ => exact absurd same (ClassSet.key_ne_style setting.target)
    · cases read
      rfl

/-- What is taken for a literal is one, unless the attribute misleads. -/
theorem isQuotedLiteral_classes_iff {code : String} (sets : attr.SetsClasses setting.target)
    (read : attributeValue setting scope attr (ClassSet.key setting.target) = .ok (.code code)) :
    (ClassSet.isQuotedLiteral code → Quoted.IsLiteral code.toList) ↔ ¬ attr.Misleads := by
  rcases attributeValue_classes sets read with ⟨absent, rfl⟩ | ⟨value, written, valued, split, rfl⟩
  · refine iff_of_true (fun quoted => absurd quoted (by decide)) ?_
    rintro ⟨value, code, valued, _⟩
    cases absent.symm.trans valued
  · by_cases alone : ∃ code, written = [.expression code]
    · obtain ⟨code, rfl⟩ := alone
      change (ClassSet.isQuotedLiteral (Text.trim code) →
        Quoted.IsLiteral (Text.trim code).toList) ↔ _
      rw [ClassSet.isQuotedLiteral_iff]
      constructor
      · rintro fits ⟨_, _, same, parts, quoted, unbroken, several⟩
        cases valued.symm.trans same
        cases split.symm.trans parts
        exact several (fits ⟨quoted, unbroken⟩)
      · rintro fair ⟨quoted, unbroken⟩
        by_contra several
        exact fair ⟨value, code, valued, split, quoted, unbroken, several⟩
    · refine iff_of_true (ClassSet.isLiteral_concatenate fun code same => alone ?_) ?_
      · obtain ⟨part, rfl, decoded⟩ := List.map_eq_singleton_iff.mp same
        cases part with
        | literal text => cases decoded
        | expression code => exact ⟨code, rfl⟩
      · rintro ⟨_, code, same, parts, _⟩
        cases valued.symm.trans same
        exact alone ⟨code, Except.ok.inj (split.symm.trans parts)⟩

/-- The props of attributes have the values that are read for them. -/
theorem foldlM_addProp_mem {attributes : List Attribute} {props result : List RenderProp}
    (folded : attributes.foldlM (addProp setting scope) props = .ok result) :
    (∀ prop ∈ props, prop ∈ result) ∧ ∀ attr ∈ attributes, ∃ value,
      attributeValue setting scope attr (propKey setting.target attr.name) = .ok value ∧
      ⟨propKey setting.target attr.name, value⟩ ∈ result := by
  induction attributes generalizing props with
  | nil =>
    obtain rfl := pure_ok.mp folded
    exact ⟨fun prop member => member, by simp⟩
  | cons attr attributes ih =>
    rw [List.foldlM_cons] at folded
    obtain ⟨middle, first, later⟩ := bind_ok.mp folded
    obtain ⟨_, value, read, rfl⟩ := addProp_eq_ok first
    obtain ⟨kept, each⟩ := ih later
    refine ⟨fun prop member => kept prop (List.mem_append_left _ member),
      List.forall_mem_cons.mpr ⟨?_, each⟩⟩
    exact ⟨value, read, kept _ (List.mem_append_right _ List.mem_cons_self)⟩

theorem find?_key_of_mem {props : List RenderProp} (distinct : (props.map (·.key)).Nodup)
    {prop : RenderProp} (member : prop ∈ props) : props.find? (·.key == prop.key) = some prop := by
  induction props with
  | nil => cases member
  | cons first rest ih =>
    rw [List.map_cons, List.nodup_cons] at distinct
    rcases List.mem_cons.mp member with rfl | later
    · simp
    · have other : first.key ≠ prop.key := fun same => distinct.1 (same ▸ List.mem_map_of_mem later)
      simp only [List.find?_cons, beq_eq_false_iff_ne.mpr other, ih distinct.2 later]

/-- A class set of an element is the only one, and its value is kept. -/
theorem Directives.collect_classSet {start : StartTag} {directives : Directives}
    (collected : collect start = .ok directives) {set : Attribute} (listed : set ∈ start.attributes)
    (named : Directive.ofName? set.name = some .classSet) :
    directives.classSet = some ⟨set.value.getD "", set.location⟩ := by
  have folded {attributes : List Attribute} {found : Directives}
      (run : attributes.foldlM (add start.name) found = .ok directives) :
      (∀ known, found.classSet = some known → directives.classSet = some known) ∧
        ∀ set ∈ attributes, Directive.ofName? set.name = some .classSet →
          directives.classSet = some ⟨set.value.getD "", set.location⟩ := by
    induction attributes generalizing found with
    | nil =>
      obtain rfl := pure_ok.mp run
      exact ⟨fun known same => same, by simp⟩
    | cons attr attributes ih =>
      rw [List.foldlM_cons] at run
      obtain ⟨middle, first, later⟩ := bind_ok.mp run
      obtain ⟨kept, each⟩ := ih later
      rcases (add_eq_ok first).2 with ⟨_, free, added⟩ | ⟨other, same⟩
      · refine ⟨fun known before => ?_, List.forall_mem_cons.mpr ⟨fun _ => kept _ added, each⟩⟩
        cases free.symm.trans before
      · refine ⟨fun known before =>
          kept known (same.trans before), List.forall_mem_cons.mpr ⟨fun named => ?_, each⟩⟩
        exact absurd named other
  exact (folded collected).2 set listed named

/-- The code for the classes of an element that has both an attribute and a class set. -/
theorem find?_attributeProps {start : StartTag} {directives : Directives}
    {written : List RenderProp} {set : Attribute}
    (collected : Directives.collect start = .ok directives)
    (read : attributeProps setting scope directives = .ok written)
    (listed : attr ∈ start.attributes) (sets : attr.SetsClasses setting.target)
    (present : set ∈ start.attributes) (named : Directive.ofName? set.name = some .classSet) :
    ∃ code, attributeValue setting scope attr (ClassSet.key setting.target) = .ok (.code code) ∧
      written.find? (·.key == ClassSet.key setting.target) = some ⟨ClassSet.key setting.target,
        .code (ClassSet.baseOperand code ++ " + \" \" + " ++
          ClassSet.joinedNames (ClassSet.objectCode (set.value.getD "")))⟩ := by
  obtain ⟨plain, folded, read⟩ := bind_ok.mp read
  have isPlain : attr ∈ directives.plain := by
    rw [(Directives.collect_eq_ok collected).1]
    exact List.mem_filter.mpr ⟨listed, by rw [sets.1]; rfl⟩
  obtain ⟨value, found, member⟩ := (foldlM_addProp_mem folded).2 attr isPlain
  rw [sets.2] at found member
  obtain ⟨code, rfl⟩ := attributeValue_eq_code sets.not_isEventName found
  have first := find?_key_of_mem ((foldlM_addProp_keys folded).2 List.nodup_nil) member
  rw [Directives.collect_classSet collected present named] at read
  obtain ⟨_, _, made⟩ := bind_ok.mp read
  cases made
  exact ⟨code, found, ClassSet.find?_merge first⟩

end

/-- How the classes of an attribute and of a class set are joined in an element of a tree: the code
of the attribute stands there as it is or in parentheses, and it is one string literal, or in
parentheses, exactly if the attribute does not mislead. -/
def ElementHead.JoinsClasses (setting : Setting) (source : StartTag × List Node)
    (head : ElementHead) : Prop :=
  ∀ attr ∈ source.1.attributes, attr.SetsClasses setting.target →
    ∀ set ∈ source.1.attributes, Directive.ofName? set.name = some .classSet →
      ∃ scope code,
        attributeValue setting scope attr (ClassSet.key setting.target) = .ok (.code code) ∧
        ∃ base, head.props.find? (·.key == ClassSet.key setting.target) =
          some ⟨ClassSet.key setting.target,
            .code
              (base ++ " + \" \" + " ++
              ClassSet.joinedNames (ClassSet.objectCode (set.value.getD "")))⟩ ∧
          (base = code ∨ base = parenthesize code) ∧
          (Quoted.IsLiteral base.toList ∨ base = parenthesize code ↔ ¬ attr.Misleads)

/-- The head of an element joins the classes of its attribute to those of its directive. -/
theorem ElementHead.IsBuilt.joinsClasses {setting : Setting} {source : StartTag × List Node}
    {head : ElementHead} (built : head.IsBuilt setting source) :
    head.JoinsClasses setting source := by
  obtain ⟨scope, directives, _, written, lifted, collected, _, read, _, same⟩ := built
  intro attr listed sets set present named
  obtain ⟨code, value, joined⟩ := find?_attributeProps collected read listed sets present named
  refine ⟨scope, code, value, ClassSet.baseOperand code, ?_, ClassSet.baseOperand_eq_or code, ?_⟩
  · rw [same, List.find?_append, joined, Option.some_or]
  · exact ClassSet.baseOperand_iff.trans (isQuotedLiteral_classes_iff sets value)

/-- Classes of an attribute that others are joined to. The elements of a tree are, one to one, those
that its template renders. Where one has both, the code of the attribute is the first operand of a
sum, and it is a string literal or in parentheses exactly if the attribute does not mislead. Any
code for the classes that is taken for a string literal is one, with the same exception. -/
theorem classOperand_iff {setting : Setting} {nodes : List Node} {tree : RenderTree}
    {warnings : List Warning} (resolved : resolve setting nodes = .ok (tree, warnings)) :
    Multiset.Rel (ElementHead.JoinsClasses setting)
      ↑((Node.visitsAll setting.options none nodes).filterMap Visit.element?) ↑tree.heads ∧
    ∀ scope attr code, attr.SetsClasses setting.target →
      attributeValue setting scope attr (ClassSet.key setting.target) = .ok (.code code) →
      ((ClassSet.isQuotedLiteral code → Quoted.IsLiteral code.toList) ↔ ¬ attr.Misleads) :=
  ⟨(resolve_heads resolved).mono fun _ _ _ _ built => built.joinsClasses,
    fun _ _ _ sets read => isQuotedLiteral_classes_iff sets read⟩

/-- A text with an expression in it as an attribute, and a class set. -/
def mixedClasses : StartTag :=
  { name := "div", attributes := [⟨"class", some "a \x7bb\x7d", {}⟩,
    ⟨"rt-class", some "c: d", {}⟩] }

theorem mixedClasses_joined :
    ∃ tree warnings head, resolve ⟨.standard, {}, .web⟩ [.element mixedClasses []] =
      .ok (tree, warnings) ∧
      head ∈ tree.heads ∧ ∃ attr ∈ mixedClasses.attributes, attr.SetsClasses .web ∧
        ∃ set ∈ mixedClasses.attributes, Directive.ofName? set.name = some .classSet ∧
          ¬ attr.Misleads ∧
          ∃ code base, head.props.find? (·.key == "className") = some ⟨"className",
              .code (base ++ " + \" \" + " ++ ClassSet.joinedNames "\x7bc: d\x7d")⟩ ∧
            (Quoted.IsLiteral base.toList ∨ base = parenthesize code) := by
  have evaluated : (resolve ⟨.standard, {}, .web⟩ [.element mixedClasses []]).toOption.map (fun _ =>
      ()) = some () := by
    decide +kernel
  obtain ⟨⟨tree, warnings⟩, resolved, _⟩ := exists_ok_of_toOption evaluated
  obtain ⟨joins, taken⟩ := classOperand_iff resolved
  have visited :
      (mixedClasses, []) ∈
      (Node.visitsAll {} none [.element mixedClasses []]).filterMap Visit.element? :=
    Visit.mem_elements_iff.mpr (List.mem_of_head? rfl)
  obtain ⟨head, listed, joined⟩ :=
    Multiset.exists_mem_of_rel_of_mem joins (Multiset.mem_coe.mpr visited)
  have sets : Attribute.SetsClasses .web ⟨"class", some "a \x7bb\x7d", {}⟩ := ⟨rfl, rfl⟩
  have first : ⟨"class", some "a \x7bb\x7d", {}⟩ ∈ mixedClasses.attributes := List.mem_of_head? rfl
  have last : ⟨"rt-class", some "c: d", {}⟩ ∈ mixedClasses.attributes := List.mem_of_getLast? rfl
  obtain ⟨scope, code, read, base, found, _, fits⟩ := joined _ first sets _ last rfl
  have fair : ¬ Attribute.Misleads ⟨"class", some "a \x7bb\x7d", {}⟩ :=
    (taken {} _ "\"a \" + b" sets (by decide +kernel)).mp fun quoted => absurd quoted (by decide)
  exact ⟨tree, warnings, head, resolved, listed, _, first, sets, _, last, rfl, fair, code, base,
    found, fits.mpr fair⟩

/-- An expression that starts and ends with a string is not put in parentheses, so the class set
becomes a part of its last operand. -/
theorem alternativeClasses_joined :
    ∃ tree warnings base,
      renderTree .standard {} "<div class='\x7b\"a\" || \"b\"\x7d' rt-class=\"\x7bc: d\x7d\"/>" =
        .ok (tree, warnings) ∧
      tree.heads.map (·.props) =
        [[⟨"className", .code (base ++ " + \" \" + " ++ ClassSet.joinedNames "\x7bc: d\x7d")⟩]] ∧
      ¬ (Quoted.IsLiteral base.toList ∨ base = parenthesize "\"a\" || \"b\"") := by
  have evaluated :
      ((renderTree .standard {}
      "<div class='\x7b\"a\" || \"b\"\x7d' rt-class=\"\x7bc: d\x7d\"/>").toOption.map fun pair =>
      pair.1.heads.map (·.props)) =
      some
        [[⟨"className",
        .code ("\"a\" || \"b\"" ++ " + \" \" + " ++ ClassSet.joinedNames "\x7bc: d\x7d")⟩]] := by
    decide +kernel
  obtain ⟨⟨tree, warnings⟩, rendered, props⟩ := exists_ok_of_toOption evaluated
  exact ⟨tree, warnings, "\"a\" || \"b\"", rendered, props, by decide +kernel⟩

end RenderTemplate
