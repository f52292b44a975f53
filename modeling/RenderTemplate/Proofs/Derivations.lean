import RenderTemplate.Proofs.Candidates

namespace RenderTemplate

open Markup

/-- A piece of work of the resolution, with what it finds. -/
inductive Finding where
  /-- What a node renders. -/
  | node (isRoot : Bool) (source : Node) (found : List RenderNode)
  /-- What an element renders inside of what its directives put around it. -/
  | inner (start : StartTag) (children : List Node) (directives : Directives) (found : RenderNode)
  /-- What nodes render one after the other. -/
  | nodes (sources : List Node) (found : List RenderNode)
  /-- The props that children of an owner become. -/
  | props (owner : String) (children : List Node) (lifted : List RenderProp)

/-- Whether the resolution comes from one state of its progress to another one with a finding. There
is one rule for each thing that the resolution does. -/
inductive Derives (setting : Setting) : Finding → Progress → Progress → Prop where
  | comment {isRoot : Bool} {value : String} {place : Location} {progress : Progress} :
      Derives setting (.node isRoot (.comment value place) [.comment value]) progress progress
  | text {isRoot : Bool} {parts : List Part} {place : Location} {found : List RenderNode}
      {progress : Progress}
      (read : textNodes setting.host parts place = .ok found) :
      Derives setting (.node isRoot (.text parts place) found) progress progress
  | imported {isRoot : Bool} {start : StartTag} {children : List Node} {before after : Progress}
      (isImport : ReservedTag.isImport start.name)
      (declared : (declareImport setting start).run before = .ok ((), after)) :
      Derives setting (.node isRoot (.element start children) []) before after
  | wrapped {isRoot : Bool} {start : StartTag} {children : List Node} {directives : Directives}
      {wrapping : Wrapping}
      {node result : RenderNode} {before first second third after : Progress}
      (collected : (elementDirectives isRoot start).run before = .ok (directives, first))
      (entered : (Wrapping.enter setting.host directives).run first = .ok (wrapping, second))
      (inside : Derives setting (.inner start children directives node) second third)
      (left : (wrapping.leave node).run third = .ok (result, after)) :
      Derives setting (.node isRoot (.element start children) [result]) before after
  | group {start : StartTag} {children : List Node} {directives : Directives}
      {found : List RenderNode}
      {before after : Progress} (reserved : ReservedTag.ofTag? start.name = some .group)
      (checked : checkGroup start directives = .ok ())
        (inside : Derives setting (.nodes children found) before after) :
      Derives setting (.inner start children directives (.group found)) before after
  | element {start : StartTag} {children : List Node} {directives : Directives} {head : ElementHead}
      {lifted : List RenderProp} {found : List RenderNode} {before first second after : Progress}
      (ordinary : ReservedTag.ofTag? start.name = none)
      (headRun : (elementHead setting start children directives).run before = .ok (head, first))
      (props : Derives setting
        (.props start.name (children.filter (·.isTrigger setting.options start.name)) lifted)
          first second)
      (inside : Derives setting
        (.nodes (children.filter fun child => !child.isTrigger setting.options start.name) found)
          second after) :
      Derives setting
        (.inner start children directives
        (.element { head with props := head.props ++ lifted } found))
        before after
  | nil {progress : Progress} : Derives setting (.nodes [] []) progress progress
  | cons {node : Node} {nodes : List Node} {found more : List RenderNode}
      {before middle after : Progress}
      (first : Derives setting (.node false node found) before middle)
      (rest : Derives setting (.nodes nodes more) middle after) :
      Derives setting (.nodes (node :: nodes) (found ++ more)) before after
  | noProps {owner : String} {progress : Progress} :
      Derives setting (.props owner [] []) progress progress
  /-- The body of a template is resolved inside a frame with its arguments. The template comes after
  those that are lifted out of its body. -/
  | lift {owner : String} {start : StartTag} {children nodes : List Node} {spec : TemplateSpec}
      {body : StartTag × List Node} {node : RenderNode} {lifted : List RenderProp}
        {before inside after : Progress}
      (specified : childSpec? setting.options owner start = some (.ok spec))
        (sole : soleElement? children = some body)
      (resolved : Derives setting (.node false (.element body.1 body.2) [node])
        { before with scope := before.scope.push .arguments spec.arguments } inside)
      (rest : Derives setting (.props owner nodes lifted)
        { inside with
          scope := inside.scope.pop
          templates :=
            inside.templates ++
            [⟨owner, spec.prop, spec.arguments, before.scope.outside spec.arguments, node,
              start.location⟩] } after) :
      Derives setting (.props owner (.element start children :: nodes)
        (⟨spec.prop, .template inside.templates.length⟩ :: lifted)) before after

section

variable {setting : Setting} {before after : Progress}

/-- An element renders one node at most. -/
theorem Derives.element_found {isRoot : Bool} {start : StartTag} {children : List Node}
    {found : List RenderNode}
    (derives : Derives setting (.node isRoot (.element start children) found) before after) :
    found = [] ∨ ∃ node, found = [node] := by
  cases derives with
  | imported _ _ => exact .inl rfl
  | wrapped _ _ _ _ => exact .inr ⟨_, rfl⟩

/-- An import is declared where it stands, and renders nothing. -/
theorem resolveNode_of_isImport (isRoot : Bool) {start : StartTag} (children : List Node)
    (isImport : ReservedTag.isImport start.name) :
    resolveNode setting isRoot (.element start children) = do
      declareImport setting start
      return [] := by
  unfold resolveNode
  rw [ReservedTag.isImport, Bool.or_eq_true, beq_iff_eq, beq_iff_eq] at isImport
  rcases isImport with reserved | reserved
  · rw [reserved]
  · rw [reserved]

mutual

/-- The four functions of the resolution go through the same nodes, so one induction shows that
their runs are derivations. -/
theorem resolveNode_derives {isRoot : Bool} {before after : Progress} {found : List RenderNode}
    (node : Node) (run : (resolveNode setting isRoot node).run before = .ok (found, after)) :
    Derives setting (.node isRoot node found) before after := by
  match node with
  | .comment value _ =>
    unfold resolveNode at run
    cases run
    exact .comment
  | .text parts place =>
    unfold resolveNode at run
    obtain ⟨read, rfl⟩ := Resolve.run_lift_ok.mp run
    exact .text read
  | .element start children =>
    unfold resolveNode at run
    split at run
    · next reserved =>
      obtain ⟨_, _, declared, run⟩ := Resolve.run_bind_ok.mp run
      cases run
      exact .imported (by rw [ReservedTag.isImport, reserved]; rfl) declared
    · next reserved =>
      obtain ⟨_, _, declared, run⟩ := Resolve.run_bind_ok.mp run
      cases run
      exact .imported (by rw [ReservedTag.isImport, reserved]; rfl) declared
    · cases run
    · next reserved =>
      obtain ⟨directives, _, collected, run⟩ := Resolve.run_bind_ok.mp run
      obtain ⟨_, _, lifted, run⟩ := Resolve.run_bind_ok.mp run
      obtain ⟨checked, rfl⟩ := Resolve.run_lift_ok.mp lifted
      obtain ⟨wrapping, _, entered, run⟩ := Resolve.run_bind_ok.mp run
      obtain ⟨inner, _, resolved, run⟩ := Resolve.run_bind_ok.mp run
      obtain ⟨result, _, left, run⟩ := Resolve.run_bind_ok.mp run
      cases run
      have inside := resolveAll_derives children resolved
      rw [List.filter_eq_self.mpr fun _ _ => rfl] at inside
      exact .wrapped collected entered (.group reserved checked inside) left
    · next ordinary =>
      obtain ⟨directives, _, collected, run⟩ := Resolve.run_bind_ok.mp run
      obtain ⟨wrapping, _, entered, run⟩ := Resolve.run_bind_ok.mp run
      obtain ⟨head, _, headRun, run⟩ := Resolve.run_bind_ok.mp run
      obtain ⟨lifted, _, liftRun, run⟩ := Resolve.run_bind_ok.mp run
      obtain ⟨inner, _, resolved, run⟩ := Resolve.run_bind_ok.mp run
      obtain ⟨result, _, left, run⟩ := Resolve.run_bind_ok.mp run
      cases run
      -- The children were taken apart before, so each that becomes a prop wraps one element.
      obtain ⟨extraction, extracted, _⟩ := run_elementHead_ok.mp headRun
      have props :=
        liftTemplates_derive children (Extraction.ofElement_eq_ok_iff.mp extracted).1 liftRun
      have inside := resolveAll_derives children resolved
      rw [funext (staysInline_eq setting.options start.name)] at inside
      exact .wrapped collected entered (.element ordinary headRun props inside) left

theorem resolveAll_derives {isRendered : Node → Bool} {before after : Progress}
    {found : List RenderNode} (nodes : List Node)
    (run : (resolveAll setting isRendered nodes).run before = .ok (found, after)) :
    Derives setting (.nodes (nodes.filter isRendered) found) before after := by
  match nodes with
  | [] =>
    unfold resolveAll at run
    cases run
    exact .nil
  | node :: rest =>
    unfold resolveAll at run
    split at run
    · next rendered =>
      obtain ⟨first, middle, firstRun, run⟩ := Resolve.run_bind_ok.mp run
      obtain ⟨more, _, restRun, run⟩ := Resolve.run_bind_ok.mp run
      cases run
      rw [List.filter_cons_of_pos rendered]
      exact .cons (resolveNode_derives node firstRun) (resolveAll_derives rest restRun)
    · next passed =>
      rw [List.filter_cons_of_neg passed]
      exact resolveAll_derives rest run

/-- The templates of an element are lifted in the order of its children. -/
theorem liftTemplates_derive {owner : String} {before after : Progress} {lifted : List RenderProp}
    (nodes : List Node) {candidates : List Candidate}
    (matched : List.Forall₂ (Candidate.IsFor setting.options owner)
    (nodes.filter (·.isTrigger setting.options owner))
      candidates) (run : (liftTemplates setting owner nodes).run before = .ok (lifted, after)) :
    Derives setting (.props owner (nodes.filter (·.isTrigger setting.options owner)) lifted)
      before after := by
  match nodes with
  | [] =>
    unfold liftTemplates at run
    cases run
    exact .noProps
  | .comment _ _ :: rest =>
    unfold liftTemplates at run
    exact liftTemplates_derive rest matched run
  | .text _ _ :: rest =>
    unfold liftTemplates at run
    exact liftTemplates_derive rest matched run
  | .element start children :: rest =>
    unfold liftTemplates at run
    split at run
    · next unknown =>
      have inline : ¬ (Node.element start children).isTrigger setting.options owner := by
        rw [isTrigger_element, unknown]
        exact Bool.false_ne_true
      rw [List.filter_cons_of_neg inline] at matched ⊢
      exact liftTemplates_derive rest matched run
    · next known =>
      rw [List.filter_cons_of_pos (isTrigger_of_childSpec? known children)] at matched ⊢
      cases matched with
      | @cons _ candidate _ candidates isFor matched =>
        obtain ⟨_, _, same, _, sole, _⟩ := isFor
        cases same
        obtain ⟨spec, _, specRun, run⟩ := Resolve.run_bind_ok.mp run
        obtain ⟨rfl, rfl⟩ := Resolve.run_lift_ok.mp specRun
        obtain ⟨outer, _, entered, run⟩ := Resolve.run_bind_ok.mp run
        cases entered
        obtain ⟨body, _, resolved, run⟩ := Resolve.run_bind_ok.mp run
        obtain ⟨_, _, left, run⟩ := Resolve.run_bind_ok.mp run
        cases left
        obtain ⟨index, _, added, run⟩ := Resolve.run_bind_ok.mp run
        obtain ⟨more, _, restRun, run⟩ := Resolve.run_bind_ok.mp run
        cases run
        have inside := resolveBody_derives children (soleElement?_eq_some_iff.mp sole).1 resolved
        rcases inside.element_found with rfl | ⟨node, rfl⟩
        · cases added
        · cases added
          have lifts := Derives.lift known sole inside (liftTemplates_derive rest matched restRun)
          exact lifts

theorem resolveBody_derives {before after : Progress} {found : List RenderNode} (nodes : List Node)
    {body : StartTag × List Node} (sole : nodes.filterMap Node.element? = [body])
    (run : (resolveBody setting nodes).run before = .ok (found, after)) :
    Derives setting (.node false (.element body.1 body.2) found) before after := by
  match nodes with
  | [] => cases sole
  | .comment _ _ :: rest =>
    unfold resolveBody at run
    exact resolveBody_derives rest sole run
  | .text _ _ :: rest =>
    unfold resolveBody at run
    exact resolveBody_derives rest sole run
  | .element start children :: rest =>
    unfold resolveBody at run
    obtain rfl : (start, children) = body := (List.cons.inj sole).1
    exact resolveNode_derives (.element start children) run

end

end

section

variable (setting : Setting)

/-- Nodes are resolved one after the other, whatever others are passed over. -/
theorem resolveAll_eq_filter (isRendered : Node → Bool) (nodes : List Node) :
    resolveAll setting isRendered nodes =
      resolveAll setting (fun _ => true) (nodes.filter isRendered) := by
  induction nodes with
  | nil =>
    unfold resolveAll
    rfl
  | cons node rest ih =>
    by_cases rendered : isRendered node
    · rw [List.filter_cons_of_pos rendered, resolveAll, resolveAll, if_pos rendered, if_pos rfl, ih]
    · rw [List.filter_cons_of_neg rendered, resolveAll, if_neg rendered, ih]

theorem resolveBody_eq {nodes : List Node} {body : StartTag × List Node}
    (first : (nodes.filterMap Node.element?).head? = some body) :
    resolveBody setting nodes = resolveNode setting false (.element body.1 body.2) := by
  induction nodes with
  | nil => cases first
  | cons node rest ih =>
    unfold resolveBody
    cases node with
    | text parts place => exact ih first
    | comment value place => exact ih first
    | element start children =>
      cases first
      rfl

/-- Of children only those that become props matter to the props. -/
theorem liftTemplates_eq_filter (owner : String) (nodes : List Node) :
    liftTemplates setting owner nodes =
      liftTemplates setting owner (nodes.filter (·.isTrigger setting.options owner)) := by
  induction nodes with
  | nil => rfl
  | cons node rest ih =>
    cases node with
    | comment value place => exact ih
    | text parts place => exact ih
    | element start children =>
      by_cases trigger : (Node.element start children).isTrigger setting.options owner
      · rw [List.filter_cons_of_pos trigger, liftTemplates, liftTemplates, ih]
      · have unknown : childSpec? setting.options owner start = none := by
          rwa [isTrigger_element, Option.not_isSome_iff_eq_none] at trigger
        rw [List.filter_cons_of_neg trigger, liftTemplates, unknown]
        exact ih

end

section

variable {setting : Setting} {before after : Progress}

/-- What a finding says about the run in which it is made. What an element renders inside of its
directives is found in a run for the whole element. -/
def Finding.IsRun (setting : Setting) (before after : Progress) : Finding → Prop
  | .node isRoot source found => (resolveNode setting isRoot source).run before = .ok (found, after)
  | .inner start children directives found => ∀ isRoot wrapping result first second last,
      (elementDirectives isRoot start).run first = .ok (directives, second) →
      (Wrapping.enter setting.host directives).run second = .ok (wrapping, before) →
      (wrapping.leave found).run after = .ok (result, last) →
      (resolveNode setting isRoot (.element start children)).run first = .ok ([result], last)
  | .nodes sources found =>
    (resolveAll setting (fun _ => true) sources).run before = .ok (found, after)
  | .props owner children lifted =>
    (liftTemplates setting owner children).run before = .ok (lifted, after)

/-- A derivation is a run: each rule says what the function in question does. -/
theorem Derives.isRun {finding : Finding} (derives : Derives setting finding before after) :
    finding.IsRun setting before after := by
  induction derives with
  | comment =>
    rw [Finding.IsRun, resolveNode]
    rfl
  | text read =>
    rw [Finding.IsRun, resolveNode]
    exact Resolve.run_lift_ok.mpr ⟨read, rfl⟩
  | imported isImport declared =>
    rw [Finding.IsRun, resolveNode_of_isImport _ _ isImport]
    exact Resolve.run_bind_ok.mpr ⟨(), _, declared, rfl⟩
  | wrapped collected entered _ left ih => exact ih _ _ _ _ _ _ collected entered left
  | group reserved checked _ ih =>
    intro isRoot wrapping result first second last collected entered left
    rw [resolveNode, reserved]
    refine Resolve.run_bind_ok.mpr ⟨_, _, collected, ?_⟩
    refine Resolve.run_bind_ok.mpr ⟨(), _, Resolve.run_lift_ok.mpr ⟨checked, rfl⟩, ?_⟩
    refine Resolve.run_bind_ok.mpr ⟨_, _, entered, Resolve.run_bind_ok.mpr ⟨_, _, ih, ?_⟩⟩
    exact Resolve.run_bind_ok.mpr ⟨_, _, left, rfl⟩
  | @element start children _ _ _ _ _ _ _ _ ordinary headRun _ _ propsIh insideIh =>
    intro isRoot wrapping result first second last collected entered left
    rw [Finding.IsRun, ← liftTemplates_eq_filter] at propsIh
    rw [Finding.IsRun, ← resolveAll_eq_filter, ← funext (staysInline_eq setting.options start.name)]
      at insideIh
    rw [resolveNode, ordinary]
    refine Resolve.run_bind_ok.mpr ⟨_, _, collected, Resolve.run_bind_ok.mpr ⟨_, _, entered, ?_⟩⟩
    refine Resolve.run_bind_ok.mpr ⟨_, _, headRun, Resolve.run_bind_ok.mpr ⟨_, _, propsIh, ?_⟩⟩
    exact Resolve.run_bind_ok.mpr ⟨_, _, insideIh, Resolve.run_bind_ok.mpr ⟨_, _, left, rfl⟩⟩
  | nil =>
    rw [Finding.IsRun, resolveAll]
    rfl
  | cons _ _ firstIh restIh =>
    rw [Finding.IsRun, resolveAll, if_pos rfl]
    exact Resolve.run_bind_ok.mpr ⟨_, _, firstIh, Resolve.run_bind_ok.mpr ⟨_, _, restIh, rfl⟩⟩
  | noProps =>
    rw [Finding.IsRun, liftTemplates]
    rfl
  | @lift _ _ children _ _ body _ _ _ _ _ specified sole _ _ resolvedIh restIh =>
    have first : (children.filterMap Node.element?).head? = some body := by
      rw [(soleElement?_eq_some_iff.mp sole).1]
      rfl
    rw [Finding.IsRun, liftTemplates, specified, resolveBody_eq setting first]
    refine Resolve.run_bind_ok.mpr ⟨_, _, rfl, Resolve.run_bind_ok.mpr ⟨_, _, rfl, ?_⟩⟩
    refine Resolve.run_bind_ok.mpr ⟨_, _, resolvedIh, Resolve.run_bind_ok.mpr ⟨(), _, rfl, ?_⟩⟩
    exact Resolve.run_bind_ok.mpr ⟨_, _, rfl, Resolve.run_bind_ok.mpr ⟨_, _, restIh, rfl⟩⟩

/-- Derivations tell exactly which runs of the resolution succeed, and with what. Facts about these
runs are proved by induction on derivations, and need not go back to the resolution. -/
theorem derives_node_iff {isRoot : Bool} {node : Node} {found : List RenderNode} :
    Derives setting (.node isRoot node found) before after ↔
      (resolveNode setting isRoot node).run before = .ok (found, after) :=
  ⟨Derives.isRun, resolveNode_derives node⟩

/-- What the target needs is declared first, and is never refused. -/
theorem declareAll_dependencies (target : Target) :
    (target.dependencies.forM fun dependency =>
      do let _ ← Resolve.declare dependency {} : Resolve Unit).run {} =
      .ok ((), { imports := ⟨target.dependencies⟩ }) := by
  cases target with
  | factories => rfl
  | addons => rfl
  | web => rfl
  | native => rfl
  | splitNative => rfl

/-- A template is resolved if the imports at its top can be declared besides those of the target,
and its one root renders a node then. -/
theorem resolve_eq_ok_iff {nodes : List Node} {tree : RenderTree} {warnings : List Warning} :
    resolve setting nodes = .ok (tree, warnings) ↔
      ∃ start children root surveyed after,
        (surveyRoots setting nodes).run { imports := ⟨setting.target.dependencies⟩ } =
          .ok ([(start, children)], surveyed) ∧
        Derives setting (.node true (.element start children) [root]) surveyed after ∧
        tree =
          ⟨root, after.imports, after.templates, topComments nodes,
          start.hasAttribute "rt-stateless"⟩ ∧
        warnings = after.warnings := by
  constructor
  · intro resolved
    obtain ⟨⟨⟨stateless, root⟩, after⟩, worked, made⟩ := bind_ok.mp resolved
    cases made
    obtain ⟨_, declared, declaredRun, run⟩ := Resolve.run_bind_ok.mp worked
    cases (declareAll_dependencies setting.target).symm.trans declaredRun
    obtain ⟨roots, surveyed, surveyRun, run⟩ := Resolve.run_bind_ok.mp run
    split at run
    · cases run
    · next start children =>
      obtain ⟨found, _, rootRun, run⟩ := Resolve.run_bind_ok.mp run
      have derives := resolveNode_derives _ rootRun
      rcases derives.element_found with rfl | ⟨node, rfl⟩
      · cases run
      · cases run
        exact ⟨start, children, _, surveyed, _, surveyRun, derives, rfl, rfl⟩
    · cases run
  · rintro ⟨start, children, root, surveyed, after, surveyRun, derives, rfl, rfl⟩
    refine bind_ok.mpr ⟨((_, root), after), ?_, rfl⟩
    refine Resolve.run_bind_ok.mpr ⟨(), _, declareAll_dependencies setting.target, ?_⟩
    exact Resolve.run_bind_ok.mpr ⟨_, _, surveyRun,
      Resolve.run_bind_ok.mpr ⟨_, _, derives_node_iff.mp derives, rfl⟩⟩

end

end RenderTemplate
