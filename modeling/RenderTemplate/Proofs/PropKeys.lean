import RenderTemplate.Compile
import RenderTemplate.Proofs.Visits

namespace RenderTemplate

open Markup

/-- The prop that an attribute sets or adds to. -/
def Markup.Attribute.prop? (target : Target) (attr : Attribute) : Option String :=
  match Directive.ofName? attr.name with
  | none => some (propKey target attr.name)
  | some .classSet => some (ClassSet.key target)
  | some _ => none

/-- Attributes whose prop has another name in a document. -/
def renamedProps : List (String × String) :=
  [("class", "className"), ("rt-class", "className"), ("for", "htmlFor")]

/-- Whether an element gets a child as the prop that an attribute with another name sets. Attributes
and children are compared with each other by the names of the attributes, and props by their keys,
which differ for the classes and for the label of an element in a document. -/
def Clashes (options : Options) (source : StartTag × List Node) : Prop :=
  ∃ start children spec attr, .element start children ∈ source.2 ∧
    childSpec? options source.1.name start = some (.ok spec) ∧ attr ∈ source.1.attributes ∧
    (attr.name, spec.prop) ∈ renamedProps

section

variable {setting : Setting} {scope : Scope}

/-- Only an attribute for an event sets a handler. -/
theorem attributeValue_eq_code {attr : Attribute} {key : String} {value : PropValue}
    (other : ¬ isEventName attr.name) (read : attributeValue setting scope attr key = .ok value) :
    ∃ code, value = .code code := by
  unfold attributeValue at read
  split at read
  · rw [if_neg other] at read
    cases read
    exact ⟨_, rfl⟩
  · rw [if_neg other] at read
    obtain ⟨parts, _, read⟩ := bind_ok.mp read
    split at read
    · cases read
      exact ⟨_, rfl⟩
    · obtain ⟨code, _, read⟩ := bind_ok.mp read
      cases read
      exact ⟨_, rfl⟩
    · cases read
      exact ⟨_, rfl⟩

theorem addProp_eq_ok {props result : List RenderProp} {attr : Attribute}
    (added : addProp setting scope props attr = .ok result) :
    propKey setting.target attr.name ∉ props.map (·.key) ∧ ∃ value,
      attributeValue setting scope attr (propKey setting.target attr.name) = .ok value ∧
      result = props ++ [⟨propKey setting.target attr.name, value⟩] := by
  simp only [addProp] at added
  split at added
  · cases added
  · next free =>
    obtain ⟨value, read, made⟩ := bind_ok.mp added
    cases made
    refine ⟨?_, value, read, rfl⟩
    simpa using free

/-- Attributes set one prop each, all with different keys. -/
theorem foldlM_addProp_keys {attributes : List Attribute} {props result : List RenderProp}
    (folded : attributes.foldlM (addProp setting scope) props = .ok result) :
    result.map (·.key) =
      props.map (·.key) ++ attributes.map (fun attr => propKey setting.target attr.name) ∧
      ((props.map (·.key)).Nodup → (result.map (·.key)).Nodup) := by
  induction attributes generalizing props with
  | nil =>
    obtain rfl := pure_ok.mp folded
    exact ⟨(List.append_nil _).symm, id⟩
  | cons attr attributes ih =>
    rw [List.foldlM_cons] at folded
    obtain ⟨middle, first, later⟩ := bind_ok.mp folded
    obtain ⟨fresh, value, _, rfl⟩ := addProp_eq_ok first
    obtain ⟨keys, distinct⟩ := ih later
    rw [List.map_append, List.map_singleton] at keys distinct
    refine ⟨by rw [keys, List.append_assoc]; rfl, fun known => distinct ?_⟩
    rw [← List.concat_eq_append, List.nodup_concat]
    exact ⟨fresh, known⟩

/-- A prop under the key of the classes is code, which others can be joined to. -/
theorem foldlM_addProp_code {attributes : List Attribute} {result : List RenderProp}
    (folded : attributes.foldlM (addProp setting scope) [] = .ok result) :
    ∀ prop ∈ result, isEventName prop.key ∨ ∃ code, prop.value = .code code := by
  refine foldlM_ok (motive := fun props => ∀ prop ∈ props, isEventName prop.key ∨
    ∃ code, prop.value = .code code) folded
    (by simp) fun props attr next known added => ?_
  obtain ⟨_, value, read, rfl⟩ := addProp_eq_ok added
  intro prop member
  rcases List.mem_append.mp member with old | new
  · exact known prop old
  · rw [List.mem_singleton.mp new]
    by_cases event : isEventName attr.name
    · rw [propKey_of_isEventName event]
      exact .inl event
    · exact .inr (attributeValue_eq_code event read)

end

namespace ClassSet

variable {key : String} {props : List RenderProp}

theorem mergeInto?_keys (classes : String)
    (code : ∀ prop ∈ props, prop.key = key → ∃ text, prop.value = .code text)
    (known : key ∈ props.map (·.key)) :
    ∃ merged, mergeInto? key classes props = some merged ∧
      merged.map (·.key) = props.map (·.key) := by
  induction props with
  | nil => cases known
  | cons prop rest ih =>
    rw [List.forall_mem_cons] at code
    unfold mergeInto?
    by_cases same : prop.key = key
    · obtain ⟨text, value⟩ := code.1 same
      rw [if_pos (beq_iff_eq.mpr same), value]
      exact ⟨_, rfl, by rw [List.map_cons, List.map_cons, same]⟩
    · rw [List.map_cons, List.mem_cons] at known
      obtain ⟨merged, found, keys⟩ := ih code.2 (known.resolve_left (Ne.symm same))
      rw [if_neg (by simpa using same), found]
      exact ⟨_, rfl, by rw [List.map_cons, List.map_cons, keys]⟩

/-- There is nothing to merge with where the key is unknown. -/
theorem mergeInto?_eq_none {classes : String} (unknown : key ∉ props.map (·.key)) :
    mergeInto? key classes props = none := by
  induction props with
  | nil => rfl
  | cons prop rest ih =>
    rw [List.map_cons, List.mem_cons, not_or] at unknown
    unfold mergeInto?
    rw [if_neg (by simpa using Ne.symm unknown.1), ih unknown.2]
    rfl

/-- Classes come under their key, and it is listed once. -/
theorem merge_keys (classes : String)
    (code : ∀ prop ∈ props, prop.key = key → ∃ text, prop.value = .code text) :
    ((props.map (·.key)).Nodup → ((merge key classes props).map (·.key)).Nodup) ∧
      ∀ other, other ∈ (merge key classes props).map (·.key) ↔ other ∈ props.map (·.key) ∨
        other = key := by
  unfold merge
  by_cases known : key ∈ props.map (·.key)
  · obtain ⟨merged, found, keys⟩ := mergeInto?_keys classes code known
    rw [found, Option.getD_some, keys]
    refine ⟨id, fun other => ⟨.inl, ?_⟩⟩
    rintro (member | rfl)
    · exact member
    · exact known
  · rw [mergeInto?_eq_none known, Option.getD_none, List.map_append, List.map_singleton,
      ← List.concat_eq_append, List.nodup_concat]
    refine ⟨fun distinct => ⟨known, distinct⟩, fun other => ?_⟩
    rw [List.concat_eq_append, List.mem_append, List.mem_singleton]

end ClassSet

section

variable {setting : Setting} {scope : Scope}

theorem not_isEventName_key : ∀ target, ¬ isEventName (ClassSet.key target) :=
  Target.forall_iff.mpr (by decide)

/-- The props that the attributes of an element set all have different keys. -/
theorem attributeProps_keys {directives : Directives} {written : List RenderProp}
    (read : attributeProps setting scope directives = .ok written) :
    (written.map (·.key)).Nodup ∧ ∀ key, key ∈ written.map (·.key) ↔
      (∃ attr ∈ directives.plain, propKey setting.target attr.name = key) ∨
      directives.classSet.isSome ∧ key = ClassSet.key setting.target := by
  obtain ⟨plain, folded, read⟩ := bind_ok.mp read
  obtain ⟨keys, distinct⟩ := foldlM_addProp_keys folded
  have plainKeys : ∀ key, key ∈ plain.map (·.key) ↔
      ∃ attr ∈ directives.plain, propKey setting.target attr.name = key := by
    intro key
    rw [keys]
    simp
  split at read
  · next directive present =>
    obtain ⟨_, _, read⟩ := bind_ok.mp read
    cases read
    have code : ∀ prop ∈ plain, prop.key = ClassSet.key setting.target →
        ∃ text, prop.value = .code text := by
      intro prop member same
      refine (foldlM_addProp_code folded prop member).resolve_left ?_
      rw [same]
      exact not_isEventName_key setting.target
    obtain ⟨mergedDistinct, merged⟩ := ClassSet.merge_keys (ClassSet.joinedNames _) code
    refine ⟨mergedDistinct (distinct List.nodup_nil), fun key => ?_⟩
    rw [merged, plainKeys, present]
    simp
  · next absent =>
    cases read
    refine ⟨distinct List.nodup_nil, fun key => ?_⟩
    rw [plainKeys, absent]
    simp

end

namespace Directives

/-- What an attribute adds to the other attributes and to the class set: only one class set can be
added. -/
theorem add_eq_ok {tag : String} {found next : Directives} {attr : Attribute}
    (added : add tag found attr = .ok next) :
    next.plain = found.plain ++ [attr].filter (fun attr => (Directive.ofName? attr.name).isNone) ∧
      (Directive.ofName? attr.name = some .classSet ∧ found.classSet = none ∧
          next.classSet = some ⟨attr.value.getD "", attr.location⟩ ∨
        Directive.ofName? attr.name ≠ some .classSet ∧ next.classSet = found.classSet) := by
  unfold add at added
  split at added
  · next plain =>
    cases added
    simp [plain]
  · next named =>
    obtain ⟨_, _, made⟩ := bind_ok.mp added
    cases made
    simp [named]
  · next named =>
    obtain ⟨_, _, made⟩ := bind_ok.mp added
    cases made
    simp [named]
  · next named =>
    obtain ⟨_, _, made⟩ := bind_ok.mp added
    cases made
    simp [named]
  · next named =>
    obtain ⟨value, set, made⟩ := bind_ok.mp added
    cases made
    unfold setOnce at set
    split at set
    · next free =>
      cases set
      simp [named, free]
    · cases set
  · next named =>
    obtain ⟨_, _, made⟩ := bind_ok.mp added
    cases made
    simp [named]
  · next named =>
    cases added
    simp [named]
  · next named =>
    cases added
    simp [named]

/-- The attributes of an element that are no directives stay as they are, and a class set is found
wherever it stands. -/
theorem collect_eq_ok {start : StartTag} {directives : Directives}
    (collected : collect start = .ok directives) :
    directives.plain = start.attributes.filter (fun attr => (Directive.ofName? attr.name).isNone) ∧
      directives.classSet.isSome =
        start.attributes.any (fun attr => Directive.ofName? attr.name == some .classSet) := by
  have folded {attributes : List Attribute} {found : Directives}
      (run : attributes.foldlM (add start.name) found = .ok directives) :
      directives.plain =
        found.plain ++ attributes.filter (fun attr => (Directive.ofName? attr.name).isNone) ∧
        directives.classSet.isSome = (found.classSet.isSome ||
          attributes.any fun attr => Directive.ofName? attr.name == some .classSet) := by
    induction attributes generalizing found with
    | nil =>
      obtain rfl := pure_ok.mp run
      simp
    | cons attr attributes ih =>
      rw [List.foldlM_cons] at run
      obtain ⟨middle, first, later⟩ := bind_ok.mp run
      obtain ⟨plain, classSet⟩ := add_eq_ok first
      rw [(ih later).1, (ih later).2, plain, List.append_assoc, ← List.filter_append, List.any_cons]
      refine ⟨rfl, ?_⟩
      rcases classSet with ⟨named, free, set⟩ | ⟨other, same⟩
      · simp [named, free, set]
      · rw [beq_eq_false_iff_ne.mpr other, same, Bool.false_or]
  exact folded collected

end Directives

/-- The keys that the attributes of an element set. -/
theorem mem_keys_iff {setting : Setting} {scope : Scope} {start : StartTag}
    {directives : Directives} {written : List RenderProp}
    (collected : Directives.collect start = .ok directives)
    (read : attributeProps setting scope directives = .ok written) {key : String} :
    key ∈ written.map (·.key) ↔ ∃ attr ∈ start.attributes,
      attr.prop? setting.target = some key := by
  obtain ⟨plain, classSet⟩ := Directives.collect_eq_ok collected
  rw [(attributeProps_keys read).2, plain, classSet]
  constructor
  · rintro (⟨attr, member, rfl⟩ | ⟨present, rfl⟩)
    · obtain ⟨listed, other⟩ := List.mem_filter.mp member
      refine ⟨attr, listed, ?_⟩
      rw [Option.isNone_iff_eq_none] at other
      rw [Attribute.prop?, other]
    · obtain ⟨attr, listed, named⟩ := List.any_eq_true.mp present
      refine ⟨attr, listed, ?_⟩
      rw [Attribute.prop?, beq_iff_eq.mp named]
  · rintro ⟨attr, listed, same⟩
    unfold Attribute.prop? at same
    split at same
    · next other =>
      cases same
      exact .inl ⟨attr, List.mem_filter.mpr ⟨listed, by rw [other]; rfl⟩, rfl⟩
    · next named =>
      cases same
      exact .inr ⟨List.any_eq_true.mpr ⟨attr, listed, by rw [named]; rfl⟩, rfl⟩
    · cases same

/-- In a document, the attributes for the classes and for a label set props with other names. -/
theorem prop?_eq_some_iff {target : Target} {attr : Attribute} {prop : String}
    (document : target.isNative = false) (other : attr.name ≠ prop) :
    attr.prop? target = some prop ↔ (attr.name, prop) ∈ renamedProps := by
  constructor
  · intro sets
    unfold Attribute.prop? at sets
    split at sets
    · rw [Option.some.injEq, propKey, document, if_neg Bool.false_ne_true, documentProp] at sets
      split at sets
      · next isClass =>
        rw [beq_iff_eq.mp isClass, ← sets]
        decide
      · split at sets
        · next isFor =>
          rw [beq_iff_eq.mp isFor, ← sets]
          decide
        · exact absurd sets other
    · next named =>
      have listed : (attr.name, Directive.classSet) ∈ Directive.names := mem_of_lookup named
      have isSet : attr.name = "rt-class" := by simpa [Directive.names] using listed
      rw [isSet, ← Option.some.inj sets, ClassSet.key, propKey, document]
      decide
    · cases sets
  · intro listed
    simp only [renamedProps, List.mem_cons, Prod.mk.injEq, List.not_mem_nil, or_false] at listed
    rcases listed with ⟨name, rfl⟩ | ⟨name, rfl⟩ | ⟨name, rfl⟩
    · rw [Attribute.prop?, name, propKey, document]
      rfl
    · rw [Attribute.prop?, name, ClassSet.key, propKey, propKey, document]
      rfl
    · rw [Attribute.prop?, name, propKey, document]
      rfl

/-- In native applications, only a class set adds to a prop with another name. -/
theorem eq_class_of_prop? {target : Target} {attr : Attribute} {prop : String}
    (native : target.isNative) (other : attr.name ≠ prop) (sets : attr.prop? target = some prop) :
    prop = "class" := by
  unfold Attribute.prop? at sets
  split at sets
  · cases sets
    rw [propKey, if_pos native] at other
    exact absurd rfl other
  · cases sets
    rw [ClassSet.key, propKey, if_pos native]
  · cases sets

/-- When an attribute and a child of an element set the same prop. -/
theorem shared_key_iff {setting : Setting} {scope : Scope} {source : StartTag × List Node}
    {directives : Directives} {found : Extraction} {written : List RenderProp}
    (valid : setting.options.validate = .ok ())
    (collected : Directives.collect source.1 = .ok directives)
    (extracted : Extraction.ofElement setting.options source.1 source.2 = .ok found)
    (read : attributeProps setting scope directives = .ok written) :
    (∃ key, key ∈ written.map (·.key) ∧ key ∈ found.candidates.map (·.spec.prop)) ↔
      setting.target.isNative = false ∧ Clashes setting.options source := by
  obtain ⟨matched, _, apart, _⟩ := Extraction.ofElement_eq_ok_iff.mp extracted
  constructor
  · rintro ⟨key, isWritten, isLifted⟩
    obtain ⟨attr, listed, sets⟩ := (mem_keys_iff collected read).mp isWritten
    obtain ⟨candidate, member, rfl⟩ := List.mem_map.mp isLifted
    have other := hasAttribute_eq_false_iff.mp (apart candidate member) attr listed
    obtain ⟨child, trigger, start, children, rfl, specified, _⟩ :=
      exists_partner matched.flip member
    cases native : setting.target.isNative with
    | true =>
      have identifier := (isValid_of_childSpec? valid specified).prop
      rw [eq_class_of_prop? native other sets] at identifier
      exact absurd identifier (by decide)
    | false =>
      exact ⟨rfl, start, children, candidate.spec, attr, (List.mem_filter.mp trigger).1, specified,
        listed, (prop?_eq_some_iff native other).mp sets⟩
  · rintro ⟨document, start, children, spec, attr, inside, specified, listed, renamed⟩
    have trigger : (Node.element start children).isTrigger setting.options source.1.name := by
      rw [isTrigger_element, specified]
      rfl
    obtain ⟨candidate, member, _, _, same, known, _⟩ :=
      exists_partner matched (List.mem_filter.mpr ⟨inside, trigger⟩)
    cases same
    cases specified.symm.trans known
    have other := hasAttribute_eq_false_iff.mp (apart candidate member) attr listed
    have sets := (prop?_eq_some_iff document other).mpr renamed
    exact ⟨candidate.spec.prop, (mem_keys_iff collected read).mpr ⟨attr, listed, sets⟩,
      List.mem_map_of_mem member⟩

/-- The keys of an element are different unless it clashes with its own children. -/
theorem ElementHead.IsBuilt.nodup_keys_iff {setting : Setting} {source : StartTag × List Node}
    {head : ElementHead} (built : head.IsBuilt setting source)
    (valid : setting.options.validate = .ok ()) :
    (head.props.map (·.key)).Nodup ↔ setting.target.isNative ∨
      ¬ Clashes setting.options source := by
  obtain ⟨scope, directives, found, written, lifted, collected, extracted, read, keys, same⟩ :=
    built
  have shared := shared_key_iff valid collected extracted read
  have distinct := (Extraction.ofElement_eq_ok_iff.mp extracted).2.1
  rw [same, List.map_append, keys, List.nodup_append]
  constructor
  · rintro ⟨_, _, apart⟩
    by_contra clash
    rw [not_or, not_not, Bool.not_eq_true] at clash
    obtain ⟨key, isWritten, isLifted⟩ := shared.mpr clash
    exact apart key isWritten key isLifted rfl
  · intro free
    refine ⟨(attributeProps_keys read).1, distinct, ?_⟩
    rintro key isWritten _ isLifted rfl
    obtain ⟨document, clashes⟩ := shared.mp ⟨key, isWritten, isLifted⟩
    rw [document] at free
    exact free.elim Bool.false_ne_true fun none => none clashes

/-- The keys of the props of elements. The elements of a tree are, one to one, those that its
template renders. The keys of one are different exactly if it is for a native application, or if no
child of the element becomes the prop `className` beside its classes or the prop `htmlFor` beside
an attribute `for`. -/
theorem propKeys_nodup_iff {setting : Setting} {nodes : List Node} {tree : RenderTree}
    {warnings : List Warning} (valid : setting.options.validate = .ok ())
    (resolved : resolve setting nodes = .ok (tree, warnings)) :
    Multiset.Rel
      (fun (source : StartTag × List Node) (head : ElementHead) =>
        (head.props.map (·.key)).Nodup ↔ setting.target.isNative ∨ ¬ Clashes setting.options source)
      ↑((Node.visitsAll setting.options none nodes).filterMap Visit.element?) ↑tree.heads ∧
    ((∀ head ∈ tree.heads, (head.props.map (·.key)).Nodup) ↔
      setting.target.isNative ∨
        ∀ start children, .rendered start children ∈ Node.visitsAll setting.options none nodes →
        ¬ Clashes setting.options (start, children)) := by
  have built := resolve_heads resolved
  have each (source : StartTag × List Node) (head : ElementHead)
      (isBuilt : head.IsBuilt setting source) :=
    (isBuilt.nodup_keys_iff valid).symm
  refine ⟨built.mono fun _ _ _ _ isBuilt => isBuilt.nodup_keys_iff valid, ?_⟩
  rw [← forall_mem_iff_of_rel built each]
  constructor
  · intro free
    rw [or_iff_not_imp_left]
    intro document start children visited
    exact (free _ (Visit.mem_elements_iff.mpr visited)).resolve_left document
  · rintro free ⟨start, children⟩ listed
    exact free.imp_right fun none => none start children (Visit.mem_elements_iff.mp listed)

/-- An element with classes and a child that becomes a prop. -/
def classedDiv (prop : String) : List Node :=
  [.element { name := "div", attributes := [⟨"class", some "a", {}⟩] }
    [.element { name := "rt-template", attributes := [⟨"prop", some prop, {}⟩] }
      [.element { name := "p" } []]]]

theorem classedDiv_row :
    ∃ tree warnings, Options.validate {} = .ok () ∧
      resolve ⟨.standard, {}, .web⟩ (classedDiv "row") = .ok (tree, warnings) ∧
      tree.heads.map (·.props.map (·.key)) = [["className", "row"], []] ∧
      ∀ start children, .rendered start children ∈ Node.visitsAll {} none (classedDiv "row") →
        ¬ Clashes {} (start, children) := by
  have evaluated : ((resolve ⟨.standard, {}, .web⟩ (classedDiv "row")).toOption.map fun pair =>
      pair.1.heads.map (·.props.map (·.key))) = some [["className", "row"], []] := by
    decide +kernel
  obtain ⟨⟨tree, warnings⟩, resolved, keys⟩ := exists_ok_of_toOption evaluated
  have valid : Options.validate {} = .ok () := rfl
  have distinct : ∀ head ∈ tree.heads, (head.props.map (·.key)).Nodup := by
    have each : ∀ found ∈ tree.heads.map (·.props.map (·.key)), found.Nodup := by
      rw [keys]
      decide
    exact List.forall_mem_map.mp each
  have free := (propKeys_nodup_iff valid resolved).2.mp distinct
  exact ⟨tree, warnings, valid, resolved, keys, free.resolve_left Bool.false_ne_true⟩

/-- The classes of an element and a child that it gets as `className` have the same key. -/
theorem className_repeated :
    ∃ tree warnings,
      renderTree .standard {}
        "<div class=\"a\"><rt-template prop=\"className\"><p/></rt-template></div>" =
        .ok (tree, warnings) ∧
      tree.heads.map (·.props.map (·.key)) = [["className", "className"], []] := by
  have evaluated : ((renderTree .standard {}
      "<div class=\"a\"><rt-template prop=\"className\"><p/></rt-template></div>").toOption.map
        fun pair =>
      pair.1.heads.map (·.props.map (·.key))) = some [["className", "className"], []] := by
    decide +kernel
  obtain ⟨⟨tree, warnings⟩, rendered, keys⟩ := exists_ok_of_toOption evaluated
  exact ⟨tree, warnings, rendered, keys⟩

end RenderTemplate
