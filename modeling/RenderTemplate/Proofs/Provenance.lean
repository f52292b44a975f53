import RenderTemplate.Proofs.Derivations

namespace RenderTemplate

open Markup

/-- The value of a prop that an attribute sets in a scope: a handler gets all names from there that
are not its own, and has the name of an event. -/
def PropValue.IsLocal (scope : Scope) : PropValue → Prop
  | .code _ => True
  | .handler found => found.outer = scope.outside found.parameters ∧ isEventName found.event
  | .template _ => False

/-- A prop that is a template, lifted out of a scope. -/
def RenderProp.IsLifted (templates : List PropTemplate) (scope : Scope) (prop : RenderProp) :
    Prop :=
  ∃ index template, prop = ⟨template.prop, .template index⟩ ∧ templates[index]? = some template ∧
    template.outer = scope.outside template.arguments

/-- A node that was resolved in a scope, with the templates that were lifted meanwhile. It says
which scope the node was resolved in and what was read for it. Facts about resolved trees are proved
by induction on it and need not go back to the resolution. -/
inductive Arises (setting : Setting) (templates : List PropTemplate) :
    Scope → RenderNode → Prop where
  | comment {scope : Scope} (value : String) : Arises setting templates scope (.comment value)
  | text {scope : Scope} (value : String) : Arises setting templates scope (.text value)
  | expression {scope : Scope} {code : String} {place : Location}
    (valid : setting.host.validate code place = .ok ()) :
      Arises setting templates scope (.expression (Text.trim code))
  | conditional {scope : Scope} {directive : DirectiveValue} {test : String} {body : RenderNode}
      (read : directive.expression setting.host = .ok test)
        (inside : Arises setting templates scope body) :
      Arises setting templates scope (.conditional test body)
  | iteration {scope : Scope} {directive : DirectiveValue} {clause : RepeatClause}
      {body : RenderNode}
      (read : RepeatClause.read setting.host directive = .ok clause)
      (inside : Arises setting templates (scope.push .iteration [clause.item, clause.index]) body) :
      Arises setting templates scope
        (.iteration ⟨clause.collection, clause.item, clause.index,
          scope.outside [clause.item, clause.index]⟩ body)
  | binding {scope : Scope} {directive : DirectiveValue} {aliases : List ScopeAlias}
      {body : RenderNode}
      (read : ScopeClause.read setting.host directive = .ok aliases)
      (inside : Arises setting templates (scope.push .scope (aliases.map (·.name))) body) :
      Arises setting templates scope (.binding ⟨aliases, scope.outside (aliases.map (·.name))⟩ body)
  | group {scope : Scope} {children : List RenderNode}
      (inside : ∀ child ∈ children, Arises setting templates scope child) :
      Arises setting templates scope (.group children)
  | element {scope : Scope} {head : ElementHead} {lifted : List RenderProp}
      {children : List RenderNode}
      (read : head.IsRead setting scope)
      (references : ∀ prop ∈ lifted, prop.IsLifted templates scope)
      (bodies : ∀ prop ∈ lifted, ∀ index template, prop.value = .template index →
        templates[index]? = some template →
        Arises setting templates (scope.push .arguments template.arguments) template.body)
      (inside : ∀ child ∈ children, Arises setting templates scope child) :
      Arises setting templates scope (.element { head with props := head.props ++ lifted } children)

section

variable {setting : Setting} {scope : Scope} {templates more : List PropTemplate}

theorem getElem?_of_extension {index : Nat} {template : PropTemplate} (added : templates <+: more)
    (known : templates[index]? = some template) : more[index]? = some template := by
  obtain ⟨rest, rfl⟩ := added
  have bound : index < templates.length := (List.getElem?_eq_some_iff.mp known).1
  rw [List.getElem?_append_left bound, known]

theorem RenderProp.IsLifted.mono {prop : RenderProp} (isLifted : prop.IsLifted templates scope)
    (added : templates <+: more) : prop.IsLifted more scope := by
  obtain ⟨index, template, same, known, outer⟩ := isLifted
  exact ⟨index, template, same, getElem?_of_extension added known, outer⟩

/-- More templates change nothing for a node that refers to those that were there. -/
theorem Arises.mono {node : RenderNode} (arises : Arises setting templates scope node)
    (added : templates <+: more) :
    Arises setting more scope node := by
  induction arises with
  | comment value => exact .comment value
  | text value => exact .text value
  | expression valid => exact .expression valid
  | conditional read _ ih => exact .conditional read ih
  | iteration read _ ih => exact .iteration read ih
  | binding read _ ih => exact .binding read ih
  | group _ ih => exact .group ih
  | element read references _ _ bodiesIh insideIh =>
    refine .element read (fun prop member => (references prop member).mono added) ?_ insideIh
    intro prop member index template value known
    obtain ⟨_, other, rfl, earlier, _⟩ := references prop member
    cases value
    have same : other = template :=
      Option.some.inj ((getElem?_of_extension added earlier).symm.trans known)
    exact bodiesIh _ member index template rfl (same ▸ earlier)

theorem handlerValue_isLocal {attr : Attribute} {key text : String} {value : PropValue}
    (isEvent : isEventName key) (read : handlerValue setting scope attr key text = .ok value) :
    value.IsLocal scope := by
  simp only [handlerValue] at read
  split at read
  · obtain ⟨_, _, read⟩ := bind_ok.mp read
    cases read
    trivial
  · obtain ⟨_, _, read⟩ := bind_ok.mp read
    cases read
    exact ⟨rfl, isEvent⟩

/-- What an attribute sets is code, or a handler with all names from around it. -/
theorem attributeValue_isLocal {attr : Attribute} {key : String} {value : PropValue}
    (isEvent : isEventName attr.name → isEventName key)
    (read : attributeValue setting scope attr key = .ok value) : value.IsLocal scope := by
  unfold attributeValue at read
  split at read
  · split at read
    · cases read
    · cases read
      trivial
  · split at read
    · next event => exact handlerValue_isLocal (isEvent event) read
    · obtain ⟨_, _, read⟩ := bind_ok.mp read
      split at read
      · cases read
        trivial
      · obtain ⟨_, _, read⟩ := bind_ok.mp read
        cases read
        trivial
      · cases read
        trivial

/-- An attribute that handles an event sets a prop with its own name. -/
theorem propKey_of_isEventName {target : Target} {name : String} (isEvent : isEventName name) :
    propKey target name = name := by
  have notClass : name ≠ "class" := by
    rintro rfl
    exact absurd isEvent (by decide)
  have notFor : name ≠ "for" := by
    rintro rfl
    exact absurd isEvent (by decide)
  unfold propKey documentProp
  split
  · rfl
  · simp [notClass, notFor]

/-- What holds of the values that attributes have holds of all props. -/
theorem addProp_each {motive : PropValue → Prop} {props result : List RenderProp} {attr : Attribute}
    (set : ∀ value, attributeValue setting scope attr (propKey setting.target attr.name) =
      .ok value → motive value)
    (added : addProp setting scope props attr = .ok result)
    (known : ∀ prop ∈ props, motive prop.value) :
    ∀ prop ∈ result, motive prop.value := by
  simp only [addProp] at added
  split at added
  · cases added
  · obtain ⟨value, read, added⟩ := bind_ok.mp added
    cases added
    intro prop member
    rcases List.mem_append.mp member with old | new
    · exact known prop old
    · rw [List.mem_singleton.mp new]
      exact set value read

theorem mergeInto?_each {motive : PropValue → Prop} {key classes : String}
    {props result : List RenderProp}
    (joined : ∀ existing, motive (.code existing) →
      motive (.code (ClassSet.baseOperand existing ++ " + \" \" + " ++ classes)))
    (merged : ClassSet.mergeInto? key classes props = some result)
    (known : ∀ prop ∈ props, motive prop.value) :
    ∀ prop ∈ result, motive prop.value := by
  induction props generalizing result with
  | nil => cases merged
  | cons first rest ih =>
    rw [List.forall_mem_cons] at known
    unfold ClassSet.mergeInto? at merged
    split at merged
    · split at merged
      · next existing same =>
        cases merged
        rw [same] at known
        exact List.forall_mem_cons.mpr ⟨joined existing known.1, known.2⟩
      · cases merged
    · obtain ⟨tail, found, rfl⟩ := Option.map_eq_some_iff.mp merged
      exact List.forall_mem_cons.mpr ⟨known.1, ih found known.2⟩

theorem merge_each {motive : PropValue → Prop} (key : String) {classes : String}
    {props : List RenderProp} (alone : motive (.code classes))
    (joined : ∀ existing, motive (.code existing) →
      motive (.code (ClassSet.baseOperand existing ++ " + \" \" + " ++ classes)))
    (known : ∀ prop ∈ props, motive prop.value) :
    ∀ prop ∈ ClassSet.merge key classes props, motive prop.value := by
  unfold ClassSet.merge
  cases merged : ClassSet.mergeInto? key classes props with
  | none =>
    rw [Option.getD_none, List.forall_mem_append]
    exact ⟨known, by simpa using alone⟩
  | some result => exact mergeInto?_each joined merged known

/-- What holds of the values that attributes set, and of classes alone and joined to others, holds
of all values of props. -/
theorem attributeProps_each {motive : PropValue → Prop} {found : Directives}
    {props : List RenderProp}
    (set : ∀ attr value, attributeValue setting scope attr (propKey setting.target attr.name) =
      .ok value → motive value)
    (alone : ∀ object place, setting.host.validate object place = .ok () →
      motive (.code (ClassSet.joinedNames object)))
    (joined : ∀ object place existing, setting.host.validate object place = .ok () →
      motive (.code existing) →
      motive
        (.code (ClassSet.baseOperand existing ++ " + \" \" + " ++ ClassSet.joinedNames object)))
    (read : attributeProps setting scope found = .ok props) :
    ∀ prop ∈ props, motive prop.value := by
  obtain ⟨plain, folded, read⟩ := bind_ok.mp read
  have known : ∀ prop ∈ plain, motive prop.value :=
    foldlM_ok folded (by simp) fun _ attr _ known added => addProp_each (set attr) added known
  split at read
  · obtain ⟨_, valid, read⟩ := bind_ok.mp read
    cases read
    exact merge_each _ (alone _ _ valid) (fun existing before => joined _ _ existing valid before)
      known
  · cases read
    exact known

/-- No attribute sets a template, and all handlers get the names from around them. -/
theorem attributeProps_isLocal {found : Directives} {props : List RenderProp}
    (read : attributeProps setting scope found = .ok props) :
    ∀ prop ∈ props, prop.value.IsLocal scope := by
  refine attributeProps_each ?_ (fun _ _ _ => trivial) (fun _ _ _ _ _ => trivial) read
  intro attr value read
  refine attributeValue_isLocal (fun event => ?_) read
  rwa [propKey_of_isEventName event]

theorem ElementHead.IsRead.isLocal {head : ElementHead} (read : head.IsRead setting scope) :
    ∀ prop ∈ head.props, prop.value.IsLocal scope := by
  obtain ⟨found, props⟩ := read.props
  exact attributeProps_isLocal props

/-- Text arises anywhere. -/
theorem textNodes_arise {parts : List Part} {place : Location} {nodes : List RenderNode}
    (read : textNodes setting.host parts place = .ok nodes) :
    ∀ node ∈ nodes, Arises setting templates scope node := by
  unfold textNodes at read
  split at read
  · cases read
    simp
  · obtain ⟨lists, mapped, read⟩ := bind_ok.mp read
    cases read
    intro node member
    obtain ⟨list, listed, inside⟩ := List.mem_flatten.mp member
    obtain ⟨part, _, made⟩ := mem_of_mapM_ok mapped listed
    cases part with
    | literal text =>
      cases made
      split at inside
      · cases inside
      · rw [List.mem_singleton.mp inside]
        exact .text text
    | expression code =>
      obtain ⟨_, valid, made⟩ := bind_ok.mp made
      cases made
      rw [List.mem_singleton.mp inside]
      exact .expression valid

end

section

variable {setting : Setting} {before middle inside after : Progress} {node result : RenderNode}

/-- Between going into a loop and going out of it the scope has one more frame, which is the
loop's. -/
theorem leaveLoop_arises {directive : Option DirectiveValue} {loop : Option Loop}
    (entered : (Wrapping.enterLoop setting.host directive).run before = .ok (loop, middle))
    (work : middle.Extends inside) (arises : Arises setting inside.templates middle.scope node)
    (left : (Wrapping.leaveLoop loop node).run inside = .ok (result, after)) :
    before.Extends after ∧ Arises setting after.templates before.scope result := by
  cases directive with
  | none =>
    cases entered
    cases left
    exact ⟨work, arises⟩
  | some directive =>
    obtain ⟨clause, first, lifted, entered⟩ := Resolve.run_bind_ok.mp entered
    obtain ⟨read, rfl⟩ := Resolve.run_lift_ok.mp lifted
    obtain ⟨outer, second, pushed, entered⟩ := Resolve.run_bind_ok.mp entered
    cases pushed
    cases entered
    obtain ⟨_, third, popped, left⟩ := Resolve.run_bind_ok.mp left
    cases popped
    cases left
    exact ⟨work.leave, .iteration read arises⟩

/-- Between going into the scope of names and going out of it the scope has one more frame, which
has these names. -/
theorem leaveBlock_arises {directive : Option DirectiveValue} {block : Option ScopeBlock}
    (entered : (Wrapping.enterBlock setting.host directive).run before = .ok (block, middle))
    (work : middle.Extends inside) (arises : Arises setting inside.templates middle.scope node)
    (left : (Wrapping.leaveBlock block node).run inside = .ok (result, after)) :
    before.Extends after ∧ Arises setting after.templates before.scope result := by
  cases directive with
  | none =>
    cases entered
    cases left
    exact ⟨work, arises⟩
  | some directive =>
    obtain ⟨aliases, first, lifted, entered⟩ := Resolve.run_bind_ok.mp entered
    obtain ⟨read, rfl⟩ := Resolve.run_lift_ok.mp lifted
    obtain ⟨outer, second, pushed, entered⟩ := Resolve.run_bind_ok.mp entered
    cases pushed
    cases entered
    obtain ⟨_, third, popped, left⟩ := Resolve.run_bind_ok.mp left
    cases popped
    cases left
    exact ⟨work.leave, .binding read arises⟩

theorem testNode_arises {scope : Scope} {templates : List PropTemplate}
    {directive : Option DirectiveValue} {test : Option String}
    (read : optionalExpression setting.host directive = .ok test)
    (arises : Arises setting templates scope node) :
    Arises setting templates scope (Wrapping.testNode test node) := by
  cases directive with
  | none =>
    cases read
    exact arises
  | some directive =>
    obtain ⟨code, valid, made⟩ := bind_ok.mp read
    cases made
    exact .conditional valid arises

/-- What stands around an element is taken off again in the order opposite to that in which it was
put on. -/
theorem leave_arises {found : Directives} {wrapping : Wrapping}
    (entered : (Wrapping.enter setting.host found).run before = .ok (wrapping, middle))
    (work : middle.Extends inside) (arises : Arises setting inside.templates middle.scope node)
    (left : (wrapping.leave node).run inside = .ok (result, after)) :
    before.Extends after ∧ Arises setting after.templates before.scope result := by
  obtain ⟨loop, inLoop, loopEntered, entered⟩ := Resolve.run_bind_ok.mp entered
  obtain ⟨block, inBlock, blockEntered, entered⟩ := Resolve.run_bind_ok.mp entered
  obtain ⟨test, _, lifted, entered⟩ := Resolve.run_bind_ok.mp entered
  obtain ⟨read, rfl⟩ := Resolve.run_lift_ok.mp lifted
  cases entered
  obtain ⟨bound, outOfBlock, blockLeft, loopLeft⟩ := Resolve.run_bind_ok.mp left
  have ⟨blockWork, blockArises⟩ :=
    leaveBlock_arises blockEntered work (testNode_arises read arises) blockLeft
  exact leaveLoop_arises loopEntered blockWork blockArises loopLeft

/-- A prop that is a template whose body was resolved inside a frame with its arguments. -/
def RenderProp.ArisesIn (setting : Setting) (templates : List PropTemplate) (scope : Scope)
    (prop : RenderProp) : Prop :=
  ∃ index template, prop = ⟨template.prop, .template index⟩ ∧ templates[index]? = some template ∧
    template.outer = scope.outside template.arguments ∧
    Arises setting templates (scope.push .arguments template.arguments) template.body

theorem RenderProp.ArisesIn.mono {templates more : List PropTemplate} {scope : Scope}
    {prop : RenderProp} (arises : prop.ArisesIn setting templates scope)
    (added : templates <+: more) : prop.ArisesIn setting more scope := by
  obtain ⟨index, template, same, known, outer, body⟩ := arises
  exact ⟨index, template, same, getElem?_of_extension added known, outer, body.mono added⟩

/-- An element arises with the props that were lifted out of its children. -/
theorem Arises.ofLifted {templates : List PropTemplate} {scope : Scope} {head : ElementHead}
    {lifted : List RenderProp} {children : List RenderNode} (read : head.IsRead setting scope)
    (props : ∀ prop ∈ lifted, prop.ArisesIn setting templates scope)
    (inside : ∀ child ∈ children, Arises setting templates scope child) :
    Arises setting templates scope
      (.element { head with props := head.props ++ lifted } children) := by
  refine .element read ?_ ?_ inside
  · intro prop member
    obtain ⟨index, template, same, known, outer, _⟩ := props prop member
    exact ⟨index, template, same, known, outer⟩
  · intro prop member index template value found
    obtain ⟨_, other, rfl, known, _, body⟩ := props prop member
    cases value
    have same : other = template := Option.some.inj (known.symm.trans found)
    exact same ▸ body

/-- Between going into the frame of a template and going out of it its body is resolved, and then it
is added. -/
theorem liftTemplate_arises (owner : String) (place : Location) {spec : TemplateSpec}
    (work :
      ({ before with scope := before.scope.push .arguments spec.arguments } : Progress).Extends
      inside)
    (arises : Arises setting inside.templates (before.scope.push .arguments spec.arguments) node) :
    let added := inside.templates ++
      [⟨owner, spec.prop, spec.arguments, before.scope.outside spec.arguments, node, place⟩]
    before.Extends { inside with scope := inside.scope.pop, templates := added } ∧
      RenderProp.ArisesIn setting added before.scope
        ⟨spec.prop, .template inside.templates.length⟩ :=
  ⟨⟨work.leave.scope, work.templates.trans (List.prefix_append _ _)⟩,
    _, _, rfl, List.getElem?_concat_length, rfl, arises.mono (List.prefix_append _ _)⟩

end

/-- Whether all that is found arises in the scope in which the work began. -/
def Finding.HasOrigin (setting : Setting) (before after : Progress) : Finding → Prop
  | .node _ _ found => ∀ node ∈ found, Arises setting after.templates before.scope node
  | .inner _ _ _ found => Arises setting after.templates before.scope found
  | .nodes _ found => ∀ node ∈ found, Arises setting after.templates before.scope node
  | .props _ _ lifted => ∀ prop ∈ lifted, prop.ArisesIn setting after.templates before.scope

section

variable {setting : Setting} {before after : Progress}

/-- Whatever is derived arises from what the template says. The induction is on the derivation. -/
theorem Derives.hasOrigin {finding : Finding} (derives : Derives setting finding before after) :
    before.Extends after ∧ finding.HasOrigin setting before after := by
  induction derives with
  | @comment _ value => exact ⟨.refl _, by simpa [Finding.HasOrigin] using .comment value⟩
  | text read => exact ⟨.refl _, textNodes_arise read⟩
  | imported _ declared => exact ⟨declareImport_extends declared, by simp [Finding.HasOrigin]⟩
  | wrapped collected entered _ left ih =>
    have start := elementDirectives_extends collected
    have ⟨whole, arises⟩ := leave_arises entered ih.1 ih.2 left
    rw [start.scope] at arises
    exact ⟨start.trans whole, by simpa [Finding.HasOrigin] using arises⟩
  | group _ _ _ ih => exact ⟨ih.1, .group ih.2⟩
  | element _ headRun _ _ propsIh insideIh =>
    have ⟨read, headWork⟩ := elementHead_ok headRun
    have ⟨liftWork, props⟩ := propsIh
    have ⟨innerWork, inside⟩ := insideIh
    rw [Finding.HasOrigin, headWork.scope] at props
    rw [Finding.HasOrigin, liftWork.scope, headWork.scope] at inside
    have arises :=
      Arises.ofLifted read (fun prop member => (props prop member).mono innerWork.templates) inside
    exact ⟨headWork.trans (liftWork.trans innerWork), arises⟩
  | nil => exact ⟨.refl _, by simp [Finding.HasOrigin]⟩
  | cons _ _ firstIh restIh =>
    have ⟨early, first⟩ := firstIh
    have ⟨late, rest⟩ := restIh
    rw [Finding.HasOrigin, early.scope] at rest
    refine ⟨early.trans late, List.forall_mem_append.mpr ⟨fun node member => ?_, rest⟩⟩
    exact (first node member).mono late.templates
  | noProps => exact ⟨.refl _, by simp [Finding.HasOrigin]⟩
  | @lift owner start _ _ _ _ _ _ _ _ _ _ _ _ _ resolvedIh restIh =>
    have ⟨early, arises⟩ :=
      liftTemplate_arises owner start.location resolvedIh.1 (resolvedIh.2 _ List.mem_cons_self)
    have ⟨late, rest⟩ := restIh
    rw [Finding.HasOrigin, early.scope] at rest
    exact ⟨early.trans late, List.forall_mem_cons.mpr ⟨arises.mono late.templates, rest⟩⟩

/-- A node is resolved in the scope at its place, which is the same afterwards. -/
theorem resolveNode_arises {isRoot : Bool} {found : List RenderNode} (node : Node)
    (run : (resolveNode setting isRoot node).run before = .ok (found, after)) :
    before.Extends after ∧ ∀ node ∈ found, Arises setting after.templates before.scope node :=
  (resolveNode_derives node run).hasOrigin

theorem resolveAll_arises {isRendered : Node → Bool} {found : List RenderNode} (nodes : List Node)
    (run : (resolveAll setting isRendered nodes).run before = .ok (found, after)) :
    before.Extends after ∧ ∀ node ∈ found, Arises setting after.templates before.scope node :=
  (resolveAll_derives nodes run).hasOrigin

/-- The tree that a template resolves to arises in a scope without names. -/
theorem resolve_arises {nodes : List Node} {tree : RenderTree} {warnings : List Warning}
    (run : resolve setting nodes = .ok (tree, warnings)) :
    Arises setting tree.templates {} tree.root := by
  obtain ⟨_, _, root, _, _, surveyed, derives, rfl, _⟩ := resolve_eq_ok_iff.mp run
  have arises := derives.hasOrigin.2 root List.mem_cons_self
  rwa [(surveyRoots_extends surveyed).scope] at arises

end

end RenderTemplate
