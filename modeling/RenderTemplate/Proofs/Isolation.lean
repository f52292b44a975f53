import RenderTemplate.Proofs.Candidates
import RenderTemplate.Proofs.Names

namespace RenderTemplate

open Markup

namespace TemplateSpec

/-- A name is added without the blanks around it, and nothing is added for an empty one. -/
theorem addArgument_eq_ok {place : Location} {known result : List String} {piece : String}
    (added : addArgument place known piece = .ok result) :
    result = known ++ [Text.trim piece].filter fun name => !name.isEmpty := by
  simp only [addArgument] at added
  split at added
  · next blank =>
    cases added
    simp [blank]
  · next solid =>
    split at added
    · cases added
    · cases added
      simp [solid]

/-- The arguments between commas, without those that are blank. -/
theorem readArguments_eq_ok {text : String} {place : Location} {arguments : List String}
    (read : readArguments text place = .ok arguments) :
    arguments = ((TopLevel.split ',' text).map Text.trim).filter fun name => !name.isEmpty := by
  have folded {pieces known result : List String}
      (run : pieces.foldlM (addArgument place) known = .ok result) :
      result = known ++ (pieces.map Text.trim).filter fun name => !name.isEmpty := by
    induction pieces generalizing known with
    | nil =>
      obtain rfl := pure_ok.mp run
      simp
    | cons piece pieces ih =>
      rw [List.foldlM_cons] at run
      obtain ⟨middle, first, later⟩ := bind_ok.mp run
      rw [ih later, addArgument_eq_ok first, List.append_assoc, ← List.filter_append]
      rfl
  exact folded read

end TemplateSpec

/-- The arguments that a template lists, with commas between them. -/
def Markup.StartTag.listedArguments (start : StartTag) : List String :=
  ((TopLevel.split ',' ((start.value? "arguments").getD "")).map Text.trim).filter fun name =>
    !name.isEmpty

/-- A child that declares itself says which prop it becomes, and with which arguments. -/
theorem TemplateSpec.ofStart_eq_ok {start : StartTag} {spec : TemplateSpec}
    (read : ofStart start = .ok spec) :
    start.trimmedValue? "prop" = some spec.prop ∧ spec.arguments = start.listedArguments := by
  unfold ofStart at read
  split at read
  · cases read
  · next prop named =>
    split at read
    · dsimp only at read
      split at read
      · next text listed =>
        obtain ⟨arguments, known, made⟩ := bind_ok.mp read
        cases made
        refine ⟨named, ?_⟩
        rw [StartTag.listedArguments, listed]
        exact readArguments_eq_ok known
      · next absent =>
        cases read
        refine ⟨named, ?_⟩
        rw [StartTag.listedArguments, absent]
        rfl
    · cases read

/-- A child that an element gets as a prop, and what it gets. -/
inductive Candidate.Wraps (options : Options) (owner : String) : Node → Candidate → Prop where
  /-- The child is a template with the name of the prop, and it may list arguments. -/
  | declared {start : StartTag} {children : List Node} {prop : String} {body : StartTag × List Node}
      (template : start.name = "rt-template") (named : start.trimmedValue? "prop" = some prop)
      (sole : children.filterMap Node.element? = [body]) :
      Wraps options owner (.element start children) ⟨⟨prop, start.listedArguments⟩, body,
        start.location⟩
  /-- The tag of the child is configured for its owner in the options. -/
  | configured {start : StartTag} {children : List Node} {spec : TemplateSpec}
      {body : StartTag × List Node}
      (other : start.name ≠ "rt-template")
      (known : options.templates.spec? owner start.name = some spec)
      (sole : children.filterMap Node.element? = [body]) :
      Wraps options owner (.element start children) ⟨spec, body, start.location⟩
  /-- The tag of the child is configured in the native list only. -/
  | native {start : StartTag} {children : List Node} {spec : TemplateSpec}
      {body : StartTag × List Node}
      (other : start.name ≠ "rt-template")
      (unknown : options.templates.spec? owner start.name = none)
      (isNative : options.native) (isList : owner = "ListView")
        (known : listTemplates.lookup start.name = some spec)
      (sole : children.filterMap Node.element? = [body]) :
      Wraps options owner (.element start children) ⟨spec, body, start.location⟩

/-- A candidate has the body and the specification of the child that it was made for. -/
theorem Candidate.IsFor.wraps {options : Options} {owner : String} {child : Node}
    {candidate : Candidate} (isFor : candidate.IsFor options owner child) :
    candidate.Wraps options owner child := by
  obtain ⟨spec, body, place⟩ := candidate
  obtain ⟨start, children, rfl, specified, sole, rfl⟩ := isFor
  have wrapped := (soleElement?_eq_some_iff.mp sole).1
  unfold childSpec? at specified
  rw [declaresTemplate_eq] at specified
  split at specified
  · next template =>
    obtain ⟨named, listed⟩ := TemplateSpec.ofStart_eq_ok (Option.some.inj specified)
    obtain ⟨prop, arguments⟩ := spec
    subst listed
    exact .declared (beq_iff_eq.mp template) named wrapped
  · next other =>
    rw [beq_iff_eq] at other
    obtain ⟨_, known, same⟩ := Option.map_eq_some_iff.mp specified
    cases same
    rcases Options.spec?_eq_some_iff.mp known with configured | ⟨unknown, isNative, isList, known⟩
    · exact .configured other configured wrapped
    · exact .native other unknown isNative isList known wrapped

/-- What an element renders, inside of what its directives put around it. -/
def buildElement (setting : Setting) (start : StartTag) (children : List Node)
    (found : Directives) :
    Resolve RenderNode := do
  let head ← elementHead setting start children found
  let lifted ← liftTemplates setting start.name children
  let inner ← resolveAll setting (staysInline setting.options start.name) children
  return .element { head with props := head.props ++ lifted } inner

theorem resolveNode_ordinary (setting : Setting) (isRoot : Bool) {start : StartTag}
    (children : List Node) (ordinary : ReservedTag.ofTag? start.name = none) :
    resolveNode setting isRoot (.element start children) = do
      let found ← elementDirectives isRoot start
      let wrapping ← Wrapping.enter setting.host found
      let node ← buildElement setting start children found
      return [← wrapping.leave node] := by
  unfold resolveNode buildElement
  simp only [ordinary, bind_assoc, pure_bind]

section

variable (setting : Setting)

/-- Lifts the templates of candidates one after the other. -/
def liftCandidates (owner : String) : List Candidate → Resolve (List RenderProp)
  | [] => return []
  | candidate :: rest => do
    let outer ← Resolve.enter .arguments candidate.spec.arguments
    let body ← resolveNode setting false (.element candidate.body.1 candidate.body.2)
    Resolve.leave
    let index ← addTemplate owner candidate.spec outer body candidate.location
    return ⟨candidate.spec.prop, .template index⟩ :: (← liftCandidates owner rest)

/-- The children that become props are lifted as the candidates that they are. -/
theorem liftTemplates_eq {owner : String} {children : List Node} {candidates : List Candidate}
    (matched : List.Forall₂ (Candidate.IsFor setting.options owner)
      (children.filter (·.isTrigger setting.options owner)) candidates) :
    liftTemplates setting owner children = liftCandidates setting owner candidates := by
  induction children generalizing candidates with
  | nil =>
    cases matched
    unfold liftTemplates
    rfl
  | cons child children ih =>
    cases trigger : child.isTrigger setting.options owner with
    | false =>
      rw [List.filter_cons, trigger] at matched
      cases child with
      | text parts place =>
        unfold liftTemplates
        exact ih matched
      | comment value place =>
        unfold liftTemplates
        exact ih matched
      | element start inner =>
        rw [isTrigger_element, Option.isSome_eq_false_iff, Option.isNone_iff_eq_none] at trigger
        unfold liftTemplates
        rw [trigger]
        exact ih matched
    | true =>
      rw [List.filter_cons, trigger] at matched
      cases matched with
      | @cons _ candidate _ candidates isFor matched =>
        obtain ⟨spec, body, place⟩ := candidate
        obtain ⟨start, inner, rfl, specified, sole, rfl⟩ := isFor
        have first : (inner.filterMap Node.element?).head? = some body := by
          rw [(soleElement?_eq_some_iff.mp sole).1]
          rfl
        unfold liftTemplates liftCandidates
        rw [specified, ← ih matched, resolveBody_eq setting first]
        rfl

end

/-- What became of a candidate: its prop refers to a template for it, whose body is what the one
element in it renders inside a frame with its arguments. -/
def Candidate.LiftsTo (setting : Setting) (owner : String) (scope : Scope)
    (templates : List PropTemplate) (candidate : Candidate) (prop : RenderProp) : Prop :=
  ∃ index body inside outside, prop = ⟨candidate.spec.prop, .template index⟩ ∧
    templates[index]? = some ⟨owner, candidate.spec.prop, candidate.spec.arguments,
      scope.outside candidate.spec.arguments, body, candidate.location⟩ ∧
    inside.scope = scope.push .arguments candidate.spec.arguments ∧
    (resolveNode setting false (.element candidate.body.1 candidate.body.2)).run inside =
      .ok ([body], outside)

section

variable {setting : Setting} {owner : String} {scope : Scope} {candidate : Candidate}
  {prop : RenderProp}

/-- What a prop refers to stays where it is when templates are added. -/
theorem Candidate.LiftsTo.mono {templates more : List PropTemplate}
    (lifts : candidate.LiftsTo setting owner scope templates prop) (added : templates <+: more) :
    candidate.LiftsTo setting owner scope more prop := by
  obtain ⟨index, body, inside, outside, same, known, resolved⟩ := lifts
  exact ⟨index, body, inside, outside, same, getElem?_of_extension added known, resolved⟩

theorem Candidate.LiftsTo.isSome_reference? {templates : List PropTemplate}
    (lifts : candidate.LiftsTo setting owner scope templates prop) :
    prop.value.reference?.isSome := by
  obtain ⟨index, _, _, _, rfl, _⟩ := lifts
  rfl

/-- Candidates are lifted in order, and out of the scope at their place. -/
theorem liftCandidates_ok {candidates : List Candidate} {lifted : List RenderProp}
    {before after : Progress}
    (run : (liftCandidates setting owner candidates).run before = .ok (lifted, after)) :
    before.Extends after ∧
      List.Forall₂ (Candidate.LiftsTo setting owner before.scope after.templates)
        candidates lifted := by
  induction candidates generalizing before lifted with
  | nil =>
    cases run
    exact ⟨.refl _, .nil⟩
  | cons candidate candidates ih =>
    obtain ⟨outer, inside, entered, run⟩ := Resolve.run_bind_ok.mp run
    cases entered
    obtain ⟨body, outside, resolved, run⟩ := Resolve.run_bind_ok.mp run
    obtain ⟨_, _, left, run⟩ := Resolve.run_bind_ok.mp run
    cases left
    obtain ⟨index, middle, added, run⟩ := Resolve.run_bind_ok.mp run
    obtain ⟨more, _, restRun, run⟩ := Resolve.run_bind_ok.mp run
    cases run
    have work := (resolveNode_arises _ resolved).1.leave
    obtain ⟨late, rest⟩ := ih restRun
    -- The body renders one node, which `addTemplate` puts into the new template.
    rcases (resolveNode_derives _ resolved).element_found with rfl | ⟨node, rfl⟩
    · cases added
    · cases added
      have early : before.Extends { outside with
          scope := outside.scope.pop
          templates := outside.templates ++ [⟨owner, candidate.spec.prop, candidate.spec.arguments,
            before.scope.outside candidate.spec.arguments, node, candidate.location⟩] } :=
        ⟨work.scope, work.templates.trans (List.prefix_append _ _)⟩
      rw [work.scope] at rest
      refine ⟨early.trans late, .cons ?_ rest⟩
      exact ⟨_, node, _, outside, rfl,
        getElem?_of_extension late.templates List.getElem?_concat_length, rfl, resolved⟩

end

/-- Of the props of an element those are templates that its children became. -/
theorem filter_references {scope : Scope} {props lifted : List RenderProp}
    (written : ∀ prop ∈ props, prop.value.IsLocal scope)
    (templates : ∀ prop ∈ lifted, prop.value.reference?.isSome) :
    (props ++ lifted).filter (·.value.reference?.isSome) = lifted := by
  have unreferenced := RenderProp.references_eq_nil written
  rw [RenderProp.references, List.filterMap_eq_nil_iff] at unreferenced
  have none : props.filter (·.value.reference?.isSome) = [] := by
    rw [List.filter_eq_nil_iff]
    intro prop member
    simp [unreferenced prop member]
  rw [List.filter_append, none, List.nil_append, List.filter_eq_self.mpr templates]

theorem hasAttribute_eq_false_iff {start : StartTag} {name : String} :
    start.hasAttribute name = false ↔ ∀ attr ∈ start.attributes, attr.name ≠ name := by
  simp [StartTag.hasAttribute, StartTag.attribute?]

/-- The children of an element that become props are kept apart from those that it renders. Taking
them apart gives the latter in order, and one candidate for each of the former, also in order: with
the prop and the arguments that are declared or configured for it, with the one element that it
wraps, and for a prop that neither another one nor an attribute sets. An element that is resolved
renders exactly the children that stay, and those of its props that are templates are the
candidates. -/
theorem extraction_isolates_templates {setting : Setting} {start : StartTag} {children : List Node}
    {found : Extraction}
    (extracted : Extraction.ofElement setting.options start children = .ok found) :
    found.remaining = children.filter (fun child => !child.isTrigger setting.options start.name) ∧
    List.Forall₂ (Candidate.Wraps setting.options start.name)
      (children.filter (·.isTrigger setting.options start.name)) found.candidates ∧
    (found.candidates.map (·.spec.prop)).Nodup ∧
    (∀ candidate ∈ found.candidates, ∀ attr ∈ start.attributes, attr.name ≠ candidate.spec.prop) ∧
    (ReservedTag.ofTag? start.name = none →
      ∀ isRoot, resolveNode setting isRoot (.element start children) = do
      let directives ← elementDirectives isRoot start
      let wrapping ← Wrapping.enter setting.host directives
      let node ← buildElement setting start children directives
      return [← wrapping.leave node]) ∧
    ∀ directives before node after,
      (buildElement setting start children directives).run before = .ok (node, after) →
      ∃ head inner middle, node = .element head inner ∧
        List.Forall₂ (Candidate.LiftsTo setting start.name before.scope after.templates)
          found.candidates
          (head.props.filter (·.value.reference?.isSome)) ∧
        middle.scope = before.scope ∧
        (resolveAll setting (fun _ => true) found.remaining).run middle = .ok (inner, after) := by
  obtain ⟨matched, distinct, apart, remaining, _⟩ := Extraction.ofElement_eq_ok_iff.mp extracted
  refine ⟨remaining, matched.imp fun _ _ isFor => isFor.wraps, distinct, ?_, ?_, ?_⟩
  · intro candidate member
    exact hasAttribute_eq_false_iff.mp (apart candidate member)
  · intro ordinary isRoot
    exact resolveNode_ordinary setting isRoot children ordinary
  · intro directives before node after run
    obtain ⟨head, entered, headRun, run⟩ := Resolve.run_bind_ok.mp run
    obtain ⟨lifted, middle, liftRun, run⟩ := Resolve.run_bind_ok.mp run
    obtain ⟨inner, _, resolved, run⟩ := Resolve.run_bind_ok.mp run
    cases run
    obtain ⟨read, headWork⟩ := elementHead_ok headRun
    rw [liftTemplates_eq setting matched] at liftRun
    obtain ⟨liftWork, lifts⟩ := liftCandidates_ok liftRun
    rw [headWork.scope] at lifts
    have inline : staysInline setting.options start.name = fun child =>
        !child.isTrigger setting.options start.name :=
      funext (staysInline_eq setting.options start.name)
    rw [inline, resolveAll_eq_filter, ← remaining] at resolved
    have innerWork := (resolveAll_arises _ resolved).1
    have templates : ∀ prop ∈ lifted, prop.value.reference?.isSome := by
      intro prop member
      obtain ⟨candidate, _, known⟩ := exists_partner lifts.flip member
      exact Candidate.LiftsTo.isSome_reference? known
    refine ⟨_, inner, middle, rfl, ?_, liftWork.scope.trans headWork.scope, resolved⟩
    rw [filter_references read.isLocal templates]
    exact lifts.imp fun _ _ known => known.mono innerWork.templates

/-- A setting in which the rows of a list become a prop with an argument. -/
def rowSetting : Setting where
  host := .standard
  options := { templates := ⟨[("List", ⟨[("Row", ⟨"renderRow", ["item"]⟩)], by simp⟩)], by simp⟩ }
  target := .web

/-- Children of a list: text, a template inside of which there is another list with a row, a
comment, and a row. -/
def listChildren : List Node := [
  .text [.literal "a"] {},
  .element
    { name := "rt-template", attributes := [⟨"prop", some "empty", {}⟩,
    ⟨"arguments", some "i, j", {}⟩] }
    [.element { name := "List" } [.element { name := "Row" } [.element { name := "i" } []]]],
  .comment "b" {},
  .element { name := "Row" } [.text [.literal " "] {}, .element { name := "b" } []]]

theorem listChildren_isolated :
    ∃ found node after,
      Extraction.ofElement rowSetting.options { name := "List" } listChildren = .ok found ∧
      (buildElement rowSetting { name := "List" } listChildren {}).run {} = .ok (node, after) ∧
      found.candidates.map (·.spec) = [⟨"empty", ["i", "j"]⟩, ⟨"renderRow", ["item"]⟩] ∧
      after.templates.map (·.prop) = ["renderRow", "empty", "renderRow"] ∧
      ∃ head inner middle, node = .element head inner ∧
        List.Forall₂ (Candidate.LiftsTo rowSetting "List" {} after.templates) found.candidates
          (head.props.filter (·.value.reference?.isSome)) ∧
        middle.scope = {} ∧
        (resolveAll rowSetting (fun _ => true) found.remaining).run middle =
          .ok (inner, after) := by
  have evaluated :
      ((Extraction.ofElement rowSetting.options { name := "List" } listChildren).toOption.map
      fun found =>
      found.candidates.map (·.spec)) = some [⟨"empty", ["i", "j"]⟩, ⟨"renderRow", ["item"]⟩] := by
    decide +kernel
  have built : (((buildElement rowSetting { name := "List" } listChildren {}).run {}).toOption.map
      fun pair => pair.2.templates.map (·.prop)) = some ["renderRow", "empty", "renderRow"] := by
    decide +kernel
  obtain ⟨found, extracted, specs⟩ := exists_ok_of_toOption evaluated
  obtain ⟨⟨node, after⟩, run, props⟩ := exists_ok_of_toOption built
  obtain ⟨_, _, _, _, _, builds⟩ := extraction_isolates_templates extracted
  exact ⟨found, node, after, extracted, run, specs, props, builds {} {} node after run⟩

end RenderTemplate
