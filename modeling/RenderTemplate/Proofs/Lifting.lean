import RenderTemplate.Proofs.Provenance

namespace RenderTemplate

open Markup

/-- The template that a value refers to. -/
def PropValue.reference? : PropValue → Option Nat
  | .template index => some index
  | _ => none

/-- The templates that props refer to. -/
def RenderProp.references (props : List RenderProp) : List Nat :=
  props.filterMap (·.value.reference?)

namespace RenderNode

mutual

/-- The templates that a node refers to, in the order of its code. -/
def references : RenderNode → List Nat
  | element head children => RenderProp.references head.props ++ referencesAll children
  | group children => referencesAll children
  | text _ | expression _ | comment _ => []
  | conditional _ body | iteration _ body | binding _ body => references body

def referencesAll : List RenderNode → List Nat
  | [] => []
  | node :: rest => references node ++ referencesAll rest

end

/-- The references of nodes are listed in the order of the nodes. -/
theorem referencesAll_append (nodes more : List RenderNode) :
    referencesAll (nodes ++ more) = referencesAll nodes ++ referencesAll more := by
  induction nodes with
  | nil => rfl
  | cons node nodes ih => rw [List.cons_append, referencesAll, referencesAll, ih, List.append_assoc]

theorem referencesAll_singleton (node : RenderNode) : referencesAll [node] = node.references := by
  rw [referencesAll, referencesAll, List.append_nil]

end RenderNode

namespace RenderProp

theorem references_append (props more : List RenderProp) :
    references (props ++ more) = references props ++ references more :=
  List.filterMap_append

/-- No prop that an attribute sets refers to a template. -/
theorem references_eq_nil {scope : Scope} {props : List RenderProp}
    (isLocal : ∀ prop ∈ props, prop.value.IsLocal scope) : references props = [] := by
  rw [references, List.filterMap_eq_nil_iff]
  intro prop member
  have here := isLocal prop member
  cases value : prop.value with
  | code code => rfl
  | handler found => rfl
  | template index =>
    rw [value] at here
    exact here.elim

end RenderProp

/-- Whether the options or a child tell the prop and the arguments of a template. -/
def PropTemplate.IsSpecified (options : Options) (template : PropTemplate) : Prop :=
  ∃ start, childSpec? options template.owner start = some (.ok ⟨template.prop, template.arguments⟩)

/-- Templates that were added where there had been `start` of them. Each is referred to once, by one
of `references` or by the body of another one, which comes later. -/
structure Lifted (options : Options) (start : Nat) (references : List Nat)
    (added : List PropTemplate) : Prop where
  linear : (references ++ added.flatMap (·.body.references)).Perm (List.range' start added.length)
  founded : ∀ position template, added[position]? = some template →
    ∀ index ∈ template.body.references, index < start + position
  specified : ∀ template ∈ added, template.IsSpecified options

namespace Lifted

variable {options : Options} {start : Nat}

theorem nil : Lifted options start [] [] where
  linear := .nil
  founded := by simp
  specified := by simp

/-- Two lists of templates that are lifted one after the other. -/
theorem append {early late : List Nat} {first second : List PropTemplate}
    (before : Lifted options start early first)
    (after : Lifted options (start + first.length) late second) :
    Lifted options start (early ++ late) (first ++ second) where
  linear := by
    have both := before.linear.append after.linear
    rw [List.range'_append_1] at both
    refine .trans ?_ (List.length_append ▸ both)
    rw [List.flatMap_append, List.append_assoc, List.append_assoc]
    refine .append_left early ?_
    rw [← List.append_assoc, ← List.append_assoc]
    exact List.perm_append_comm.append_right _
  founded := by
    intro position template found index member
    by_cases early : position < first.length
    · rw [List.getElem?_append_left early] at found
      exact before.founded position template found index member
    · rw [List.getElem?_append_right (Nat.le_of_not_lt early)] at found
      have below := after.founded _ template found index member
      omega
  specified := by
    intro template member
    rcases List.mem_append.mp member with early | late
    · exact before.specified template early
    · exact after.specified template late

/-- A template comes right after those that were lifted out of its body, and is referred to from
outside from now on. -/
theorem lift {added : List PropTemplate} {template : PropTemplate}
    (inside : Lifted options start template.body.references added)
    (specified : template.IsSpecified options) :
    Lifted options start [start + added.length] (added ++ [template]) where
  linear := by
    rw [List.flatMap_append, List.flatMap_singleton, List.length_append, List.length_singleton,
      List.range'_1_concat]
    refine .trans List.perm_append_comm ?_
    exact (List.perm_append_comm.trans inside.linear).append_right _
  founded := by
    intro position other found index member
    by_cases early : position < added.length
    · rw [List.getElem?_append_left early] at found
      exact inside.founded position other found index member
    · have last : position = added.length := by
        have bound := (List.getElem?_eq_some_iff.mp found).1
        rw [List.length_append, List.length_singleton] at bound
        omega
      subst last
      rw [List.getElem?_concat_length, Option.some.injEq] at found
      subst found
      have listed := inside.linear.subset (List.mem_append_left _ member)
      exact (List.mem_range'_1.mp listed).2
  specified := by
    intro other member
    rcases List.mem_append.mp member with early | last
    · exact inside.specified other early
    · rw [List.mem_singleton.mp last]
      exact specified

end Lifted

/-- Templates after some work that found `references`. -/
def Lifting (options : Options) (before after : List PropTemplate) (references : List Nat) : Prop :=
  ∃ added, after = before ++ added ∧ Lifted options before.length references added

namespace Lifting

variable {options : Options}

theorem refl (templates : List PropTemplate) : Lifting options templates templates [] :=
  ⟨[], (List.append_nil _).symm, .nil⟩

/-- What one step lifts is followed by what the next one does. -/
theorem trans {first second third : List PropTemplate} {early late : List Nat}
    (before : Lifting options first second early) (after : Lifting options second third late) :
    Lifting options first third (early ++ late) := by
  obtain ⟨added, rfl, lifted⟩ := before
  obtain ⟨more, rfl, later⟩ := after
  rw [List.length_append] at later
  exact ⟨added ++ more, List.append_assoc _ _ _, lifted.append later⟩

theorem lift {before after : List PropTemplate} {template : PropTemplate}
    (inside : Lifting options before after template.body.references)
    (specified : template.IsSpecified options) :
    Lifting options before (after ++ [template]) [after.length] := by
  obtain ⟨added, rfl, lifted⟩ := inside
  rw [List.length_append]
  exact ⟨added ++ [template], List.append_assoc _ _ _, lifted.lift specified⟩

end Lifting

namespace Resolve

/-- Whether a computation leaves a part of the progress as it is. -/
def Keeps {α γ : Type} (part : Progress → γ) (work : Resolve α) : Prop :=
  ∀ before value after, work.run before = .ok (value, after) → part after = part before

/-- A part of the progress that has nothing to do with the scope and the warnings. -/
def IsLasting {γ : Type} (part : Progress → γ) : Prop :=
  ∀ progress scope warnings,
    part { progress with scope := scope, warnings := warnings } = part progress

namespace Keeps

variable {α β γ : Type} {part : Progress → γ}

theorem pure (value : α) : Keeps part (pure value) := by
  intro before _ after run
  cases run
  rfl

theorem fail (fault : Fault) (place : Location) :
    Keeps part (Resolve.fail fault place : Resolve α) := by
  intro before value after run
  cases run

/-- Two computations in a row keep what both of them keep. -/
theorem bind {work : Resolve α} {next : α → Resolve β} (first : Keeps part work)
    (second : ∀ value, Keeps part (next value)) : Keeps part (work >>= next) := by
  intro before result after run
  obtain ⟨value, middle, earlier, later⟩ := run_bind_ok.mp run
  rw [second value _ _ _ later, first _ _ _ earlier]

theorem lift (work : Except CompileError α) : Keeps part (liftM work : Resolve α) := by
  intro before value after run
  obtain ⟨_, rfl⟩ := run_lift_ok.mp run
  rfl

theorem currentScope : Keeps part Resolve.currentScope := by
  intro before value after run
  cases run
  rfl

section

variable (lasting : IsLasting part)

include lasting

theorem warn (warnings : List Warning) : Keeps part (Resolve.warn warnings) := by
  intro before value after run
  cases run
  exact lasting before _ _

theorem enter (kind : FrameKind) (own : List String) : Keeps part (Resolve.enter kind own) := by
  intro before value after run
  cases run
  exact lasting before _ _

theorem leave : Keeps part Resolve.leave := by
  intro before value after run
  cases run
  exact lasting before _ _

/-- Reading directives changes the scope and the warnings at most. -/
theorem elementDirectives (isRoot : Bool) (start : StartTag) :
    Keeps part (elementDirectives isRoot start) := by
  refine (lift _).bind fun found => (warn lasting _).bind fun _ => ?_
  split
  · exact (warn lasting _).bind fun _ => .pure _
  · exact .pure _

theorem enterWrapping (host : HostLanguage) (found : Directives) :
    Keeps part (Wrapping.enter host found) := by
  have enterLoop : Keeps part (Wrapping.enterLoop host found.iteration) := by
    unfold Wrapping.enterLoop
    split
    · exact .pure _
    · exact (lift _).bind fun clause => (enter lasting _ _).bind fun _ => .pure _
  have enterBlock : Keeps part (Wrapping.enterBlock host found.scope) := by
    unfold Wrapping.enterBlock
    split
    · exact .pure _
    · exact (lift _).bind fun aliases => (enter lasting _ _).bind fun _ => .pure _
  exact enterLoop.bind fun _ => enterBlock.bind fun _ => (lift _).bind fun _ => .pure _

theorem elementHead (setting : Setting) (start : StartTag) (children : List Node)
    (found : Directives) :
    Keeps part (elementHead setting start children found) :=
  (lift _).bind fun _ => (lift _).bind fun _ => (warn lasting _).bind fun _ =>
    currentScope.bind fun _ =>
    (lift _).bind fun _ => (lift _).bind fun _ => .pure _

theorem leaveWrapping (wrapping : Wrapping) (node : RenderNode) :
    Keeps part (wrapping.leave node) := by
  have leaveBlock (inner : RenderNode) : Keeps part (Wrapping.leaveBlock wrapping.block inner) := by
    unfold Wrapping.leaveBlock
    split
    · exact .pure _
    · exact (leave lasting).bind fun _ => .pure _
  refine (leaveBlock _).bind fun inner => ?_
  unfold Wrapping.leaveLoop
  split
  · exact .pure _
  · exact (leave lasting).bind fun _ => .pure _

end

end Keeps

theorem isLasting_templates : IsLasting Progress.templates :=
  fun _ _ _ => rfl

namespace Keeps

theorem declare (dependency : Dependency) (place : Location) :
    Keeps Progress.templates (Resolve.declare dependency place) := by
  intro before value after run
  obtain ⟨imports, _, rfl⟩ := declare_ok run
  rfl

theorem declareImport (setting : Setting) (start : StartTag) :
    Keeps Progress.templates (declareImport setting start) :=
  (lift _).bind fun dependency => (declare dependency _).bind fun _ => warn isLasting_templates _

/-- The survey of the roots declares imports, and lifts nothing. -/
theorem surveyRoots (setting : Setting) (nodes : List Node) :
    Keeps Progress.templates (surveyRoots setting nodes) := by
  induction nodes with
  | nil => exact .pure _
  | cons node rest ih =>
    cases node with
    | comment value place => exact ih
    | text parts place =>
      unfold RenderTemplate.surveyRoots
      split
      · exact ih
      · exact .fail _ _
    | element start children =>
      unfold RenderTemplate.surveyRoots
      split
      · exact (declareImport setting start).bind fun _ => ih
      · exact ih.bind fun _ => .pure _

end Keeps

end Resolve

/-- What stands around a node does not matter to what passes over it. -/
theorem leave_passes {α : Type} {view : RenderNode → α}
    (conditional : ∀ test body, view (.conditional test body) = view body)
    (iteration : ∀ loop body, view (.iteration loop body) = view body)
    (binding : ∀ block body, view (.binding block body) = view body) {wrapping : Wrapping}
    {node result : RenderNode} {before after : Progress}
    (run : (wrapping.leave node).run before = .ok (result, after)) : view result = view node := by
  obtain ⟨loop, block, test⟩ := wrapping
  obtain ⟨inner, middle, left, run⟩ := Resolve.run_bind_ok.mp run
  have tested : view (Wrapping.testNode test node) = view node := by
    cases test with
    | none => rfl
    | some test => exact conditional test node
  have bound : view inner = view node := by
    cases block with
    | none =>
      cases left
      exact tested
    | some block =>
      cases left
      rw [binding]
      exact tested
  cases loop with
  | none =>
    cases run
    exact bound
  | some loop =>
    cases run
    rw [iteration]
    exact bound

/-- What stands around a node refers to no template. -/
theorem leave_references {wrapping : Wrapping} {node result : RenderNode} {before after : Progress}
    (run : (wrapping.leave node).run before = .ok (result, after)) :
    result.references = node.references :=
  leave_passes (fun _ _ => by rw [RenderNode.references]) (fun _ _ => by rw [RenderNode.references])
    (fun _ _ => by rw [RenderNode.references]) run

theorem RenderNode.referencesAll_eq_nil {nodes : List RenderNode}
    (none : ∀ node ∈ nodes, node.references = []) :
    referencesAll nodes = [] := by
  induction nodes with
  | nil => rfl
  | cons node rest ih =>
    rw [List.forall_mem_cons] at none
    rw [referencesAll, none.1, ih none.2, List.append_nil]

/-- Text renders text and expressions. -/
theorem textNodes_leaf {host : HostLanguage} {parts : List Part} {place : Location}
    {nodes : List RenderNode} (read : textNodes host parts place = .ok nodes) {node : RenderNode}
    (member : node ∈ nodes) :
    (∃ text, node = .text text) ∨ ∃ code, node = .expression code := by
  unfold textNodes at read
  split at read
  · cases read
    cases member
  · obtain ⟨lists, mapped, read⟩ := bind_ok.mp read
    cases read
    obtain ⟨list, listed, inside⟩ := List.mem_flatten.mp member
    obtain ⟨part, _, made⟩ := mem_of_mapM_ok mapped listed
    cases part with
    | literal text =>
      cases made
      split at inside
      · cases inside
      · exact .inl ⟨text, List.mem_singleton.mp inside⟩
    | expression code =>
      obtain ⟨_, _, made⟩ := bind_ok.mp made
      cases made
      exact .inr ⟨_, List.mem_singleton.mp inside⟩

theorem textNodes_references {host : HostLanguage} {parts : List Part} {place : Location}
    {nodes : List RenderNode} (read : textNodes host parts place = .ok nodes) :
    RenderNode.referencesAll nodes = [] := by
  refine RenderNode.referencesAll_eq_nil fun node member => ?_
  rcases textNodes_leaf read member with ⟨text, rfl⟩ | ⟨code, rfl⟩
  · rw [RenderNode.references]
  · rw [RenderNode.references]

/-- The templates that a finding refers to. -/
def Finding.references : Finding → List Nat
  | .node _ _ found => RenderNode.referencesAll found
  | .inner _ _ _ found => found.references
  | .nodes _ found => RenderNode.referencesAll found
  | .props _ _ lifted => RenderProp.references lifted

section

variable {setting : Setting}

/-- The templates that are lifted out of a node are referred to by what it renders, or by each
other. -/
theorem Derives.lifts {finding : Finding} {before after : Progress}
    (derives : Derives setting finding before after) :
    Lifting setting.options before.templates after.templates finding.references := by
  induction derives with
  | comment => exact .refl _
  | text read =>
    rw [Finding.references, textNodes_references read]
    exact .refl _
  | imported _ declared =>
    rw [Resolve.Keeps.declareImport setting _ _ _ _ declared]
    exact .refl _
  | wrapped collected entered _ left ih =>
    rw [Resolve.Keeps.enterWrapping Resolve.isLasting_templates _ _ _ _ _ entered,
      Resolve.Keeps.elementDirectives Resolve.isLasting_templates _ _ _ _ _ collected,
      ← Resolve.Keeps.leaveWrapping Resolve.isLasting_templates _ _ _ _ _ left] at ih
    rw [Finding.references, RenderNode.referencesAll_singleton, leave_references left]
    exact ih
  | group _ _ _ ih =>
    rw [Finding.references, RenderNode.references]
    exact ih
  | element _ headRun _ _ propsIh insideIh =>
    have own := RenderProp.references_eq_nil (elementHead_ok headRun).1.isLocal
    have lifting := propsIh.trans insideIh
    rw [Resolve.Keeps.elementHead Resolve.isLasting_templates _ _ _ _ _ _ _ headRun] at lifting
    rw [Finding.references, RenderNode.references, RenderProp.references_append, own,
      List.nil_append]
    exact lifting
  | nil => exact .refl _
  | cons _ _ firstIh restIh =>
    rw [Finding.references, RenderNode.referencesAll_append]
    exact firstIh.trans restIh
  | noProps => exact .refl _
  | @lift owner start _ _ spec _ node _ before _ _ specified _ _ _ resolvedIh restIh =>
    rw [Finding.references, RenderNode.referencesAll_singleton] at resolvedIh
    let template : PropTemplate :=
      ⟨owner, spec.prop, spec.arguments, before.scope.outside spec.arguments, node, start.location⟩
    have known : template.IsSpecified setting.options := ⟨start, specified⟩
    exact (Lifting.lift resolvedIh known).trans restIh

/-- The templates of a resolved tree are all lifted out of it. -/
theorem resolve_lifts {nodes : List Node} {tree : RenderTree} {warnings : List Warning}
    (run : resolve setting nodes = .ok (tree, warnings)) :
    Lifted setting.options 0 tree.root.references tree.templates := by
  obtain ⟨_, _, root, _, _, surveyed, derives, rfl, _⟩ := resolve_eq_ok_iff.mp run
  obtain ⟨added, same, lifted⟩ := derives.lifts
  rw [Resolve.Keeps.surveyRoots setting nodes _ _ _ surveyed] at same lifted
  rw [List.nil_append] at same
  rw [Finding.references, RenderNode.referencesAll_singleton] at lifted
  subst same
  exact lifted

end

end RenderTemplate
