import RenderTemplate.Compile
import RenderTemplate.Proofs.Simulation
import RenderTemplate.Proofs.Visits

namespace RenderTemplate

open Markup

namespace Markup.Node

/-- Whether a node is an import. -/
def isImport : Node → Bool
  | element start _ => ReservedTag.isImport start.name
  | _ => false

mutual

/-- The imports in a node that are in no other import. -/
def imports : Node → List StartTag
  | element start children =>
    if ReservedTag.isImport start.name then [start] else importsAll children
  | _ => []

def importsAll : List Node → List StartTag
  | [] => []
  | node :: rest => imports node ++ importsAll rest

end

mutual

/-- A node without the imports inside of it. -/
def withoutImports : Node → Node
  | element start children => element start (withoutImportsAll children)
  | text parts place => text parts place
  | comment value place => comment value place

/-- A forest without all its imports. -/
def withoutImportsAll : List Node → List Node
  | [] => []
  | node :: rest =>
    if isImport node then withoutImportsAll rest else withoutImports node :: withoutImportsAll rest

end

theorem withoutImportsAll_import {node : Node} {rest : List Node} (isImport : node.isImport) :
    withoutImportsAll (node :: rest) = withoutImportsAll rest := by
  rw [withoutImportsAll, if_pos isImport]

theorem withoutImportsAll_cons {node : Node} {rest : List Node} (other : node.isImport = false) :
    withoutImportsAll (node :: rest) = withoutImports node :: withoutImportsAll rest := by
  rw [withoutImportsAll, other]
  exact if_neg Bool.false_ne_true

/-- Imports are left out wherever they stand, and the other nodes are kept in their order. -/
theorem withoutImportsAll_eq (nodes : List Node) :
    withoutImportsAll nodes = (nodes.filter fun node => !node.isImport).map withoutImports := by
  induction nodes with
  | nil => rfl
  | cons node rest ih =>
    cases isImport : node.isImport with
    | true => simp [withoutImportsAll, isImport, ih]
    | false => simp [withoutImportsAll, isImport, ih]

/-- Whether an element becomes a prop depends on its tag, so leaving out imports in it does not
matter. -/
theorem isTrigger_withoutImports (options : Options) (owner : String) (node : Node) :
    node.withoutImports.isTrigger options owner = node.isTrigger options owner := by
  cases node with
  | element start children =>
    rw [withoutImports]
    rfl
  | text parts place => rw [withoutImports]
  | comment value place => rw [withoutImports]

/-- It does not matter whether imports or other nodes are left out first. -/
theorem withoutImportsAll_filter {keep : Node → Bool}
    (same : ∀ node : Node, keep node.withoutImports = keep node) (nodes : List Node) :
    withoutImportsAll (nodes.filter keep) = (withoutImportsAll nodes).filter keep := by
  have kept : keep ∘ withoutImports = keep := funext same
  rw [withoutImportsAll_eq, withoutImportsAll_eq, List.filter_map, kept, List.filter_filter,
    List.filter_filter]
  congr 1
  exact List.filter_congr fun node _ => Bool.and_comm _ _

/-- The children that become props are the same, if none of them is an import. -/
theorem filter_withoutImportsAll {options : Options} {owner : String} {children : List Node}
    (free : ∀ child ∈ children, child.isTrigger options owner → child.isImport = false) :
    (withoutImportsAll children).filter (·.isTrigger options owner) =
      (children.filter (·.isTrigger options owner)).map withoutImports := by
  have same : ((·.isTrigger options owner) ∘ withoutImports) = (·.isTrigger options owner) :=
    funext (isTrigger_withoutImports options owner)
  rw [withoutImportsAll_eq, List.filter_map, same, List.filter_filter]
  congr 1
  refine List.filter_congr fun child member => ?_
  cases trigger : child.isTrigger options owner with
  | true => simp [free child member trigger]
  | false => rfl

end Markup.Node

/-- Whether an import becomes a prop of an element. -/
def LiftsImport (visits : List Visit) : Prop :=
  ∃ owner start, .lifted owner start ∈ visits ∧ ReservedTag.isImport start.name

/-- An import that becomes a prop stays one among more visits. -/
theorem LiftsImport.mono {visits more : List Visit} (lifts : LiftsImport visits)
    (inside : visits ⊆ more) :
    LiftsImport more := by
  obtain ⟨owner, start, member, isImport⟩ := lifts
  exact ⟨owner, start, inside member, isImport⟩

namespace Markup.Node

variable (options : Options)

mutual

/-- The resolution comes by all imports, unless one becomes a prop. -/
theorem imports_of_visits {owner : Option String} (node : Node)
    (free : ¬ LiftsImport (node.visits options owner)) :
    (node.visits options owner).filterMap Visit.import? = node.imports := by
  match node with
  | .text parts place => rfl
  | .comment value place => rfl
  | .element start children =>
    rw [imports]
    by_cases lifted : ∃ name ∈ owner, (element start children).isTrigger options name
    · obtain ⟨name, rfl, trigger⟩ := lifted
      rw [visits_lifted options trigger] at free ⊢
      have other : ¬ ReservedTag.isImport start.name :=
        fun isImport => free ⟨name, start, List.mem_cons_self, isImport⟩
      rw [if_neg other]
      exact importsAll_of_visits children fun lifts => free (lifts.mono (List.subset_cons_self _ _))
    · rw [visits_inline options lifted] at free ⊢
      by_cases isImport : ReservedTag.isImport start.name
      · rw [if_pos isImport, visits_of_isImport options children isImport]
        rfl
      · rw [if_neg isImport]
        cases known : ReservedTag.ofTag? start.name with
        | none =>
          rw [visits_ordinary options children known] at free ⊢
          exact importsAll_of_visits children fun lifts =>
            free (lifts.mono (List.subset_cons_self _ _))
        | some reserved =>
          rw [visits_group options children known isImport] at free ⊢
          exact importsAll_of_visits children free

/-- All imports of a forest are visited, if none of them becomes a prop. -/
theorem importsAll_of_visits {owner : Option String} (nodes : List Node)
    (free : ¬ LiftsImport (visitsAll options owner nodes)) :
    (visitsAll options owner nodes).filterMap Visit.import? = importsAll nodes := by
  match nodes with
  | [] => rfl
  | node :: rest =>
    rw [visitsAll] at free ⊢
    rw [importsAll, List.filterMap_append,
      imports_of_visits node fun lifts => free (lifts.mono (List.subset_append_left _ _)),
      importsAll_of_visits rest fun lifts => free (lifts.mono (List.subset_append_right _ _))]

end

mutual

/-- Without imports, fewer children become props if an import was one. -/
theorem props_withoutImports (owner : Option String) (node : Node) (other : node.isImport = false) :
    ((node.withoutImports.visits options owner).filterMap Visit.prop?).Sublist
      (((node.visits options owner).filterMap Visit.prop?).filter fun child =>
        !ReservedTag.isImport child.2.name) := by
  match node with
  | .text parts place =>
    rw [withoutImports]
    exact List.Sublist.refl _
  | .comment value place =>
    rw [withoutImports]
    exact List.Sublist.refl _
  | .element start children =>
    have same (name : String) := isTrigger_withoutImports options name (element start children)
    have ordinary : ReservedTag.isImport start.name = false := other
    rw [withoutImports] at same ⊢
    by_cases lifted : ∃ name ∈ owner, (element start children).isTrigger options name
    · obtain ⟨name, rfl, trigger⟩ := lifted
      rw [visits_lifted options trigger, visits_lifted options ((same name).trans trigger)]
      have below := props_withoutImportsAll none children
      have child : Visit.prop? (.lifted name start) = some (name, start) := rfl
      rw [List.filterMap_cons_some child, List.filterMap_cons_some child,
        List.filter_cons_of_pos (by simp [ordinary])]
      exact below.cons_cons _
    · have stays :
          ¬ ∃ name ∈ owner,
          (element start (withoutImportsAll children)).isTrigger options name := by
        simpa only [same] using lifted
      rw [visits_inline options lifted, visits_inline options stays]
      cases known : ReservedTag.ofTag? start.name with
      | none =>
        rw [visits_ordinary options _ known, visits_ordinary options _ known]
        exact props_withoutImportsAll (some start.name) children
      | some reserved =>
        have group : ¬ ReservedTag.isImport start.name := by simp [ordinary]
        rw [visits_group options _ known group, visits_group options _ known group]
        exact props_withoutImportsAll none children

theorem props_withoutImportsAll (owner : Option String) (nodes : List Node) :
    ((visitsAll options owner (withoutImportsAll nodes)).filterMap Visit.prop?).Sublist
      (((visitsAll options owner nodes).filterMap Visit.prop?).filter fun child =>
        !ReservedTag.isImport child.2.name) := by
  match nodes with
  | [] =>
    rw [withoutImportsAll]
    exact List.Sublist.refl _
  | node :: rest =>
    rw [withoutImportsAll, visitsAll, List.filterMap_append, List.filter_append]
    have later := props_withoutImportsAll owner rest
    cases isImport : node.isImport with
    | true => exact later.trans (List.sublist_append_right _ _)
    | false =>
      rw [if_neg Bool.false_ne_true, visitsAll, List.filterMap_append]
      exact (props_withoutImports owner node isImport).append later

end

end Markup.Node

/-- An element that is wrapped, without the imports inside of it. -/
def Candidate.withoutImports (candidate : Candidate) : Candidate :=
  { candidate with body := (candidate.body.1, Node.withoutImportsAll candidate.body.2) }

theorem filterMap_element?_withoutImportsAll (nodes : List Node) :
    (Node.withoutImportsAll nodes).filterMap Node.element? =
      ((nodes.filterMap Node.element?).filter fun body => !ReservedTag.isImport body.1.name).map
        fun body => (body.1, Node.withoutImportsAll body.2) := by
  induction nodes with
  | nil => rfl
  | cons node rest ih =>
    rw [Node.withoutImportsAll]
    cases node with
    | text parts place => exact ih
    | comment value place => exact ih
    | element start children =>
      cases isImport : ReservedTag.isImport start.name with
      | true => simp [Node.isImport, Node.element?, isImport, ih]
      | false => simp [Node.isImport, Node.element?, Node.withoutImports, isImport, ih]

/-- A child that wraps one element does so without imports, unless the element is one. -/
theorem soleElement?_withoutImportsAll {nodes : List Node} {body : StartTag × List Node}
    (sole : soleElement? nodes = some body) (other : ReservedTag.isImport body.1.name = false) :
    soleElement? (Node.withoutImportsAll nodes) = some (body.1, Node.withoutImportsAll body.2) := by
  rw [soleElement?_eq_some_iff] at sole ⊢
  refine ⟨?_, ?_⟩
  · rw [filterMap_element?_withoutImportsAll, sole.1]
    simp [other]
  · rw [Node.withoutImportsAll_eq, List.all_map, List.all_eq_true]
    intro node member
    have filler := List.all_eq_true.mp sole.2 node (List.mem_filter.mp member).1
    cases node with
    | text parts place => exact filler
    | comment value place => rfl
    | element start children => rfl

theorem Candidate.IsFor.withoutImports {options : Options} {owner : String} {child : Node}
    {candidate : Candidate} (isFor : candidate.IsFor options owner child)
    (other : ReservedTag.isImport candidate.body.1.name = false) :
    candidate.withoutImports.IsFor options owner child.withoutImports := by
  obtain ⟨start, children, rfl, specified, sole, place⟩ := isFor
  exact ⟨start, Node.withoutImportsAll children, by rw [Node.withoutImports], specified,
    soleElement?_withoutImportsAll sole other, place⟩

/-- The children of an element can be taken apart without the imports among them and inside of
them. -/
theorem Extraction.ofElement_withoutImports {options : Options} {start : StartTag}
    {children : List Node} {found : Extraction}
    (extracted : ofElement options start children = .ok found)
    (free : ∀ child ∈ children, child.isTrigger options start.name → child.isImport = false)
    (bodies : ∀ candidate ∈ found.candidates, ReservedTag.isImport candidate.body.1.name = false) :
    ∃ pruned, ofElement options start (Node.withoutImportsAll children) = .ok pruned := by
  obtain ⟨matched, distinct, apart, _, _⟩ := ofElement_eq_ok_iff.mp extracted
  refine ⟨⟨found.candidates.map Candidate.withoutImports, _, _⟩,
    ofElement_eq_ok_iff.mpr ⟨?_, ?_, ?_, rfl, rfl⟩⟩
  · rw [Node.filter_withoutImportsAll free, List.forall₂_map_left_iff, List.forall₂_map_right_iff]
    have checked := (List.forall₂_and_left _ _).mpr ⟨bodies, matched.flip⟩
    exact checked.flip.imp fun child candidate known =>
      Candidate.IsFor.withoutImports known.2 known.1
  · rw [List.map_map]
    exact distinct
  · intro candidate member
    obtain ⟨source, listed, rfl⟩ := List.mem_map.mp member
    exact apart source listed

/-- Whether two runs are at places with the same scope, and with the same templates so far. -/
structure Progress.Agrees (before other : Progress) : Prop where
  scope : other.scope = before.scope
  templates : other.templates = before.templates

theorem Progress.Agrees.trans {first second third : Progress} (early : first.Agrees second)
    (late : second.Agrees third) :
    first.Agrees third :=
  ⟨late.scope.trans early.scope, late.templates.trans early.templates⟩

theorem Resolve.carried_agrees : Carried Progress.Agrees where
  warn _ _ _ same := .ok ⟨rfl, same.scope, same.templates⟩
  currentScope _ _ same := .ok ⟨same.scope.symm, same⟩
  enter kind own _ _ same :=
    .ok ⟨congrArg (·.outside own) same.scope.symm, congrArg (·.push kind own) same.scope,
      same.templates⟩
  leave _ _ same := .ok ⟨rfl, congrArg Scope.pop same.scope, same.templates⟩
  add template _ _ same :=
    .ok ⟨congrArg List.length same.templates.symm, same.scope,
      congrArg (· ++ [template]) same.templates⟩

section

variable {setting : Setting}

/-- To declare an import changes the table and the warnings only. -/
theorem declareImport_agrees {start : StartTag} {before after : Progress} {result : Unit}
    (run : (declareImport setting start).run before = .ok (result, after)) : after.Agrees before :=
  ⟨(declareImport_extends run).scope.symm,
    (Resolve.Keeps.declareImport setting start _ _ _ run).symm⟩

/-- An import renders nothing, and leaves the scope and the templates alone. -/
theorem Derives.import_ok {isRoot : Bool} {node : Node} {found : List RenderNode}
    {before after : Progress} (derives : Derives setting (.node isRoot node found) before after)
    (isImport : node.isImport) :
    found = [] ∧ after.Agrees before := by
  cases derives with
  | comment => cases isImport
  | text read => cases isImport
  | imported _ declared => exact ⟨rfl, declareImport_agrees declared⟩
  | wrapped _ _ inside _ =>
    rw [Node.isImport, ReservedTag.isImport] at isImport
    cases inside with
    | group reserved _ _ =>
      rw [reserved] at isImport
      cases isImport
    | element ordinary _ _ _ =>
      rw [ordinary] at isImport
      cases isImport

/-- What becomes a prop renders something, and an import does not. -/
theorem Candidate.LiftsTo.isImport_eq_false {owner : String} {scope : Scope}
    {templates : List PropTemplate} {candidate : Candidate} {prop : RenderProp}
    (lifts : candidate.LiftsTo setting owner scope templates prop) :
    ReservedTag.isImport candidate.body.1.name = false := by
  obtain ⟨_, _, _, _, _, _, _, run⟩ := lifts
  by_contra isImport
  rw [Bool.not_eq_false] at isImport
  have none := ((resolveNode_derives _ run).import_ok isImport).1
  cases none

/-- What is done for an element before its children is the same without imports, once its children
can become props. -/
theorem elementHead_withoutImports {start : StartTag} {children : List Node}
    {directives : Directives} {head : ElementHead} {lifted : List RenderProp}
    {before middle after other : Progress}
    (free : ¬ LiftsImport (Node.visitsAll setting.options (some start.name) children))
    (same : before.Agrees other)
    (headRun : (elementHead setting start children directives).run before = .ok (head, middle))
    (liftRun : (liftTemplates setting start.name children).run middle = .ok (lifted, after)) :
    ∃ final, (elementHead setting start (Node.withoutImportsAll children) directives).run other =
      .ok (head, final) ∧
      middle.Agrees final := by
  obtain ⟨extraction, extracted, classified, read, spread, place, rfl⟩ :=
    run_elementHead_ok.mp headRun
  rw [liftTemplates_eq setting (Extraction.ofElement_eq_ok_iff.mp extracted).1] at liftRun
  have bodies : ∀ candidate ∈ extraction.candidates,
      ReservedTag.isImport candidate.body.1.name = false := by
    intro candidate member
    obtain ⟨prop, _, lifts⟩ := exists_partner (liftCandidates_ok liftRun).2 member
    exact lifts.isImport_eq_false
  have ordinary : ∀ child ∈ children, child.isTrigger setting.options start.name →
      child.isImport = false := by
    intro child member trigger
    by_contra isImport
    rw [Bool.not_eq_false] at isImport
    cases child with
    | text parts place => cases trigger
    | comment value place => cases trigger
    | element childStart inner =>
      refine free ⟨start.name, childStart, ?_, isImport⟩
      rw [Node.visitsAll_eq]
      refine List.mem_flatMap.mpr ⟨_, member, ?_⟩
      rw [Node.visits_lifted setting.options trigger]
      exact List.mem_cons_self
  obtain ⟨pruned, prunedExtracted⟩ := Extraction.ofElement_withoutImports extracted ordinary bodies
  refine ⟨_, run_elementHead_ok.mpr ⟨pruned, prunedExtracted, classified, ?_, spread, place, rfl⟩,
    same.scope, same.templates⟩
  rwa [same.scope]

/-- Whether a finding is made also in each run that agrees before, and agrees after it then. -/
def Finding.IsBeside (setting : Setting) (before after : Progress) (finding : Finding) : Prop :=
  ∀ other, before.Agrees other → ∃ final, Derives setting finding other final ∧ after.Agrees final

/-- An element runs beside itself without imports if what is inside of its directives does. -/
theorem Finding.IsBeside.wrapped {isRoot : Bool} {start : StartTag} {children : List Node}
    {directives : Directives} {wrapping : Wrapping} {node result : RenderNode}
    {before first second third after : Progress}
    (collected : (elementDirectives isRoot start).run before = .ok (directives, first))
    (entered : (Wrapping.enter setting.host directives).run first = .ok (wrapping, second))
    (inside : IsBeside setting second third (.inner start children directives node))
    (left : (wrapping.leave node).run third = .ok (result, after)) :
    IsBeside setting before after (.node isRoot (.element start children) [result]) := by
  intro other same
  obtain ⟨_, collectBeside, same⟩ :=
    (Resolve.carried_agrees.elementDirectives _ _).run_ok same collected
  obtain ⟨_, enterBeside, same⟩ := (Resolve.carried_agrees.enterWrapping _ _).run_ok same entered
  obtain ⟨_, innerBeside, same⟩ := inside _ same
  obtain ⟨final, leaveBeside, same⟩ := (Resolve.carried_agrees.leaveWrapping _ _).run_ok same left
  exact ⟨final, .wrapped collectBeside enterBeside innerBeside leaveBeside, same⟩

/-- A child that becomes a prop runs beside itself if its body does. -/
theorem Finding.IsBeside.lift {owner : String} {start : StartTag} {children nodes : List Node}
    {spec : TemplateSpec} {body : StartTag × List Node} {node : RenderNode}
    {lifted : List RenderProp} {before inside after : Progress}
    (specified : childSpec? setting.options owner start = some (.ok spec))
    (sole : soleElement? children = some body)
    (resolved :
      IsBeside setting { before with scope := before.scope.push .arguments spec.arguments } inside
      (.node false (.element body.1 body.2) [node]))
    (rest : IsBeside setting
      { inside with
        scope := inside.scope.pop
        templates :=
          inside.templates ++
          [⟨owner, spec.prop, spec.arguments, before.scope.outside spec.arguments, node,
            start.location⟩] } after (.props owner nodes lifted)) :
    IsBeside setting before after (.props owner (.element start children :: nodes)
      (⟨spec.prop, .template inside.templates.length⟩ :: lifted)) := by
  intro other same
  obtain ⟨within, bodyBeside, withinSame⟩ :=
    resolved { other with scope := other.scope.push .arguments spec.arguments }
    ⟨congrArg (·.push .arguments spec.arguments) same.scope, same.templates⟩
  obtain ⟨final, restBeside, finalSame⟩ := rest
    { within with
      scope := within.scope.pop
      templates :=
        within.templates ++
        [⟨owner, spec.prop, spec.arguments, other.scope.outside spec.arguments, node,
          start.location⟩] }
    ⟨congrArg Scope.pop withinSame.scope, by rw [withinSame.templates, same.scope]⟩
  have lifts := Derives.lift specified sole bodyBeside restBeside
  rw [withinSame.templates] at lifts
  exact ⟨final, lifts, finalSame⟩

/-- If no child of an element that becomes a prop is an import, and no node inside of one, this
holds of both kinds of its children. -/
theorem not_liftsImport_children {options : Options} {owner : String} {children : List Node}
    (free : ¬ LiftsImport (Node.visitsAll options (some owner) children)) :
    ¬ LiftsImport
      (Node.visitsAll options (some owner) (children.filter (·.isTrigger options owner))) ∧
      ¬ LiftsImport
        (Node.visitsAll options none (children.filter fun child =>
        !child.isTrigger options owner)) := by
  have parts := Node.visitsAll_perm options owner children
  refine ⟨fun lifts => free (lifts.mono fun _ member => ?_), fun lifts =>
    free (lifts.mono fun _ member => ?_)⟩
  · exact parts.mem_iff.mpr (List.mem_append_left _ member)
  · exact parts.mem_iff.mpr (List.mem_append_right _ member)

/-- If no import becomes a prop, then a child that does is none, and no import inside of it does. -/
theorem not_liftsImport_lifted {options : Options} {owner : String} {start : StartTag}
    {children nodes : List Node} {body : StartTag × List Node}
    (trigger : (Node.element start children).isTrigger options owner)
    (sole : soleElement? children = some body)
    (free :
      ¬ LiftsImport (Node.visitsAll options (some owner) (.element start children :: nodes))) :
    (Node.element start children).isImport = false ∧
      ¬ LiftsImport ((Node.element body.1 body.2).visits options none) ∧
      ¬ LiftsImport (Node.visitsAll options (some owner) nodes) := by
  rw [Node.visitsAll, Node.visits_lifted options trigger, Node.visitsAll_elements,
    (soleElement?_eq_some_iff.mp sole).1, List.flatMap_singleton] at free
  refine ⟨?_, fun lifts => free (lifts.mono ?_), fun lifts =>
    free (lifts.mono (List.subset_append_right _ _))⟩
  · by_contra isImport
    rw [Bool.not_eq_false] at isImport
    exact free ⟨owner, start, List.mem_append_left _ List.mem_cons_self, isImport⟩
  · exact List.subset_append_of_subset_left _ (List.subset_cons_self _ _)

/-- Whether the same is found without the imports, unless one of them becomes a prop. -/
def Finding.OutlastsImports (setting : Setting) (before after : Progress) : Finding → Prop
  | .node isRoot source found =>
    source.isImport = false → ¬ LiftsImport (source.visits setting.options none) →
      IsBeside setting before after (.node isRoot source.withoutImports found)
  | .inner start children directives found =>
    ¬ LiftsImport ((Node.element start children).visits setting.options none) →
      IsBeside setting before after
        (.inner start (Node.withoutImportsAll children) directives found)
  | .nodes sources found =>
    ¬ LiftsImport (Node.visitsAll setting.options none sources) →
      IsBeside setting before after (.nodes (Node.withoutImportsAll sources) found)
  | .props owner children lifted =>
    ¬ LiftsImport (Node.visitsAll setting.options (some owner) children) →
      IsBeside setting before after (.props owner (Node.withoutImportsAll children) lifted)

/-- Each run of the resolution has a run beside it on the nodes without imports, as long as
no import becomes a prop. -/
theorem Derives.outlastsImports {finding : Finding} {before after : Progress}
    (derives : Derives setting finding before after) :
    finding.OutlastsImports setting before after := by
  induction derives with
  | comment =>
    intro _ _ other same
    rw [Node.withoutImports]
    exact ⟨other, .comment, same⟩
  | text read =>
    intro _ _ other same
    rw [Node.withoutImports]
    exact ⟨other, .text read, same⟩
  | imported isImport _ =>
    intro plain
    exact absurd isImport (by simpa [Node.isImport] using plain)
  | wrapped collected entered _ left ih =>
    intro _ free
    rw [Node.withoutImports]
    exact .wrapped collected entered (ih free) left
  | @group _ children _ _ _ _ reserved checked _ ih =>
    intro free other same
    rw [Node.visits_group setting.options children reserved
      (by rw [ReservedTag.isImport, reserved]; decide)] at free
    obtain ⟨final, beside, same⟩ := ih free other same
    exact ⟨final, .group reserved checked beside, same⟩
  | @element start children _ _ _ _ _ _ _ _ ordinary headRun props _ propsIh insideIh =>
    intro free other same
    rw [Node.visits_ordinary setting.options children ordinary] at free
    have freeChildren := fun lifts => free (LiftsImport.mono lifts (List.subset_cons_self _ _))
    obtain ⟨freeProps, freeInside⟩ := not_liftsImport_children freeChildren
    have liftRun := props.isRun
    rw [Finding.IsRun, ← liftTemplates_eq_filter] at liftRun
    obtain ⟨_, headBeside, same⟩ := elementHead_withoutImports freeChildren same headRun liftRun
    obtain ⟨_, propsBeside, same⟩ := propsIh freeProps _ same
    obtain ⟨final, innerBeside, same⟩ := insideIh freeInside _ same
    rw [Node.withoutImportsAll_filter (Node.isTrigger_withoutImports setting.options start.name)]
      at propsBeside
    rw [Node.withoutImportsAll_filter fun node => by rw [Node.isTrigger_withoutImports]]
      at innerBeside
    exact ⟨final, .element ordinary headBeside propsBeside innerBeside, same⟩
  | nil => exact fun _ other same => ⟨other, .nil, same⟩
  | @cons node _ _ _ _ _ _ first _ firstIh restIh =>
    intro free other same
    rw [Node.visitsAll] at free
    have freeFirst := fun lifts => free (LiftsImport.mono lifts (List.subset_append_left _ _))
    have freeRest := fun lifts => free (LiftsImport.mono lifts (List.subset_append_right _ _))
    cases isImport : node.isImport with
    | true =>
      obtain ⟨rfl, unchanged⟩ := first.import_ok isImport
      rw [Node.withoutImportsAll_import isImport]
      exact restIh freeRest other (unchanged.trans same)
    | false =>
      obtain ⟨_, firstBeside, same⟩ := firstIh isImport freeFirst other same
      obtain ⟨final, restBeside, same⟩ := restIh freeRest _ same
      rw [Node.withoutImportsAll_cons isImport]
      exact ⟨final, .cons firstBeside restBeside, same⟩
  | noProps => exact fun _ other same => ⟨other, .noProps, same⟩
  | @lift _ start children _ _ body _ _ _ _ _ specified sole resolved _ resolvedIh restIh =>
    intro free
    obtain ⟨plain, freeBody, freeRest⟩ :=
      not_liftsImport_lifted (isTrigger_of_childSpec? specified children) sole free
    -- An import would render nothing, and there is no template without a body.
    have plainBody : (Node.element body.1 body.2).isImport = false := by
      by_contra isImport
      rw [Bool.not_eq_false] at isImport
      cases (resolved.import_ok isImport).1
    have bodyBeside := resolvedIh plainBody freeBody
    rw [Node.withoutImports] at bodyBeside
    rw [Node.withoutImportsAll_cons plain, Node.withoutImports]
    exact .lift specified (soleElement?_withoutImportsAll sole plainBody) bodyBeside
      (restIh freeRest)

/-- Without imports, there are the same roots at the top of a template. -/
theorem surveyRoots_withoutImports {before after other : Progress} {nodes : List Node}
    {roots : List (StartTag × List Node)} (same : before.Agrees other)
    (run : (surveyRoots setting nodes).run before = .ok (roots, after)) :
    (∀ root ∈ roots, ReservedTag.isImport root.1.name = false) ∧
      ∃ final, (surveyRoots setting (Node.withoutImportsAll nodes)).run other =
        .ok (roots.map fun root => (root.1, Node.withoutImportsAll root.2), final) ∧
          after.Agrees final := by
  induction nodes generalizing before other roots with
  | nil =>
    cases run
    exact ⟨fun _ none => absurd none List.not_mem_nil, other, rfl, same⟩
  | cons node rest ih =>
    cases node with
    | comment value place => exact ih same run
    | text parts place =>
      unfold surveyRoots at run
      rw [Node.withoutImportsAll_cons rfl, Node.withoutImports]
      unfold surveyRoots
      split at run
      · next blank =>
        rw [if_pos blank]
        exact ih same run
      · cases run
    | element start children =>
      unfold surveyRoots at run
      split at run
      · next isImport =>
        obtain ⟨_, _, declared, later⟩ := Resolve.run_bind_ok.mp run
        have taken : (Node.element start children).isImport := isImport
        rw [Node.withoutImportsAll_import taken]
        exact ih ((declareImport_agrees declared).trans same) later
      · next root =>
        obtain ⟨more, _, later, run⟩ := Resolve.run_bind_ok.mp run
        cases run
        rw [Bool.not_eq_true] at root
        have kept : (Node.element start children).isImport = false := root
        obtain ⟨others, final, beside, finalSame⟩ := ih same later
        refine ⟨List.forall_mem_cons.mpr ⟨root, others⟩, final, ?_, finalSame⟩
        rw [Node.withoutImportsAll_cons kept, Node.withoutImports]
        unfold surveyRoots
        rw [root]
        exact Resolve.run_bind_ok.mpr ⟨_, final, beside, rfl⟩

/-- A template renders the same without its imports. -/
theorem resolve_withoutImports {nodes : List Node} {tree : RenderTree} {warnings : List Warning}
    (resolved : resolve setting nodes = .ok (tree, warnings))
    (free : ¬ LiftsImport (Node.visitsAll setting.options none nodes)) :
    ∃ other more, resolve setting (Node.withoutImportsAll nodes) = .ok (other, more) ∧
      other.root = tree.root ∧
      other.templates = tree.templates := by
  obtain ⟨start, children, root, _, _, surveyed, derives, rfl, _⟩ := resolve_eq_ok_iff.mp resolved
  obtain ⟨ordinary, _, surveyBeside, same⟩ := surveyRoots_withoutImports ⟨rfl, rfl⟩ surveyed
  obtain ⟨visits, _, listed⟩ := surveyRoots_account surveyed
  rw [List.flatMap_singleton] at listed
  have plain : (Node.element start children).isImport = false :=
    ordinary _ (List.mem_singleton.mpr rfl)
  have freeRoot := fun lifts => free (LiftsImport.mono lifts fun visit member =>
    listed.mem_iff.mp (List.mem_append_right _ member))
  obtain ⟨final, rootBeside, finalSame⟩ := derives.outlastsImports plain freeRoot _ same
  rw [Node.withoutImports] at rootBeside
  exact ⟨_, _, resolve_eq_ok_iff.mpr ⟨start, _, root, _, final, surveyBeside, rootBeside, rfl, rfl⟩,
    rfl, finalSame.templates⟩

/-- There is one template for each child that becomes a prop. -/
theorem length_templates {nodes : List Node} {tree : RenderTree} {warnings : List Warning}
    (resolved : resolve setting nodes = .ok (tree, warnings)) :
    tree.templates.length =
      ((Node.visitsAll setting.options none nodes).filterMap Visit.prop?).length := by
  simpa only [Multiset.coe_card]
    using (Multiset.card_eq_card_of_rel (resolve_templates resolved)).symm

/-- A template that an import becomes is missing without the imports. -/
theorem length_templates_withoutImports_lt {nodes : List Node} {tree other : RenderTree}
    {warnings more : List Warning} (resolved : resolve setting nodes = .ok (tree, warnings))
    (pruned : resolve setting (Node.withoutImportsAll nodes) = .ok (other, more))
    (lifts : LiftsImport (Node.visitsAll setting.options none nodes)) :
    other.templates.length < tree.templates.length := by
  rw [length_templates resolved, length_templates pruned]
  obtain ⟨owner, start, visited, isImport⟩ := lifts
  have fewer := (Node.props_withoutImportsAll setting.options none nodes).length_le
  refine Nat.lt_of_le_of_lt fewer
    (List.length_filter_lt_length_iff_exists.mpr ⟨_, Visit.mem_props_iff.mpr visited, ?_⟩)
  simp [isImport]

/-- Only the options can tell that an import becomes a prop. -/
theorem LiftsImport.configured {nodes : List Node} {tree : RenderTree} {warnings : List Warning}
    (resolved : resolve setting nodes = .ok (tree, warnings))
    (lifts : LiftsImport (Node.visitsAll setting.options none nodes)) :
    ∃ owner child spec, ReservedTag.isImport child ∧
      setting.options.templates.spec? owner child = some spec := by
  obtain ⟨owner, start, visited, isImport⟩ := lifts
  obtain ⟨template, _, _, specified⟩ :=
    Multiset.exists_mem_of_rel_of_mem (resolve_templates resolved)
    (Multiset.mem_coe.mpr (Visit.mem_props_iff.mpr visited))
  unfold childSpec? at specified
  rw [declaresTemplate_eq] at specified
  split at specified
  · next template =>
    rw [beq_iff_eq.mp template] at isImport
    cases isImport
  · obtain ⟨spec, known, _⟩ := Option.map_eq_some_iff.mp specified
    rcases Options.spec?_eq_some_iff.mp known with configured | ⟨_, _, _, native⟩
    · exact ⟨owner, start.name, spec, isImport, configured⟩
    · have others : ∀ entry ∈ listTemplates, ReservedTag.isImport entry.1 = false := by decide
      have other := others (start.name, spec) (mem_of_lookup native)
      rw [isImport] at other
      cases other

end

/-- Imports are hoisted. The table of a tree starts with what its target needs, has each local name
once, and holds besides exactly what is described by the imports that the resolution comes by, all
of which describe something. If no import becomes a prop, these are all imports that are in no
other import, and the tree is the same without them; if one does, then it is not. Only options that
configure an import as the child of an owner make a prop of it. -/
theorem imports_hoisted_iff {setting : Setting} {nodes : List Node} {tree : RenderTree}
    {warnings : List Warning} (resolved : resolve setting nodes = .ok (tree, warnings)) :
    setting.target.dependencies <+: tree.imports.entries ∧
    (tree.imports.entries.map (·.localName)).Nodup ∧
    (∀ dependency, dependency ∈ tree.imports.entries ↔ dependency ∈ setting.target.dependencies ∨
      ∃ start ∈ (Node.visitsAll setting.options none nodes).filterMap Visit.import?,
        Dependency.ofElement start = .ok dependency) ∧
    (∀ start ∈ (Node.visitsAll setting.options none nodes).filterMap Visit.import?,
      ∃ dependency, Dependency.ofElement start = .ok dependency) ∧
    (¬ LiftsImport (Node.visitsAll setting.options none nodes) →
      (Node.visitsAll setting.options none nodes).filterMap Visit.import? = Node.importsAll nodes) ∧
    ((∃ other more, resolve setting (Node.withoutImportsAll nodes) = .ok (other, more) ∧
      other.root = tree.root ∧
      other.templates = tree.templates) ↔
        ¬ LiftsImport (Node.visitsAll setting.options none nodes)) ∧
    (LiftsImport (Node.visitsAll setting.options none nodes) →
      ∃ owner child spec, ReservedTag.isImport child ∧
      setting.options.templates.spec? owner child = some spec) := by
  have gains := (resolve_accounts resolved).imports
  have distinct : (setting.target.dependencies.map (·.localName)).Nodup := by
    cases setting.target with
    | factories => decide
    | addons => decide
    | web => decide
    | native => decide
    | splitNative => decide
  refine ⟨gains.kept, gains.distinct distinct, gains.members, gains.described,
    Node.importsAll_of_visits _ nodes, ?_, LiftsImport.configured resolved⟩
  constructor
  · rintro ⟨other, more, pruned, _, same⟩ lifts
    have fewer := length_templates_withoutImports_lt resolved pruned lifts
    rw [same] at fewer
    exact Nat.lt_irrefl _ fewer
  · exact resolve_withoutImports resolved

/-- Imports at the top of a template, without an element around them, and in the body of a prop. -/
def scatteredImports : List Node := [
  .element
    { name := "rt-require", attributes := [⟨"dependency", some "a", {}⟩, ⟨"as", some "A", {}⟩] } [],
  .element { name := "div" } [
    .element { name := "rt-virtual" } [
      .element
        { name := "rt-import", attributes := [⟨"name", some "b", {}⟩, ⟨"from", some "m", {}⟩] } [],
      .element { name := "p" } []],
    .element { name := "rt-template", attributes := [⟨"prop", some "row", {}⟩] } [
      .element { name := "i" } [
        .element
          { name := "rt-require", attributes := [⟨"dependency", some "c", {}⟩,
          ⟨"as", some "C", {}⟩] } []]]]]

theorem scatteredImports_hoisted :
    ∃ tree warnings, resolve ⟨.standard, {}, .web⟩ scatteredImports = .ok (tree, warnings) ∧
      tree.imports.entries.map (·.localName) = ["React", "_", "A", "C", "b"] ∧
      (tree.imports.entries.map (·.localName)).Nodup ∧
      ∃ other more, resolve ⟨.standard, {}, .web⟩ (Node.withoutImportsAll scatteredImports) =
        .ok (other, more) ∧
        other.root = tree.root ∧ other.templates = tree.templates := by
  have evaluated : ((resolve ⟨.standard, {}, .web⟩ scatteredImports).toOption.map fun pair =>
      pair.1.imports.entries.map (·.localName)) = some ["React", "_", "A", "C", "b"] := by
    decide +kernel
  obtain ⟨⟨tree, warnings⟩, resolved, names⟩ := exists_ok_of_toOption evaluated
  obtain ⟨_, distinct, _, _, _, unchanged, configured⟩ := imports_hoisted_iff resolved
  refine ⟨tree, warnings, resolved, names, distinct, unchanged.mpr fun lifts => ?_⟩
  obtain ⟨owner, child, spec, _, known⟩ := configured lifts
  cases known

/-- Options by which a list gets its imports as a prop. -/
def importOptions : Options where
  templates := ⟨[("List", ⟨[("rt-require", ⟨"row", []⟩)], by simp⟩)], by simp⟩

/-- An import that becomes a prop is not declared, and a template takes its place. -/
theorem liftedImport_undeclared :
    ∃ tree warnings, importOptions.validate = .ok () ∧
      renderTree .standard importOptions
        "<List><rt-require dependency=\"a\" as=\"A\"><p/></rt-require></List>" =
        .ok (tree, warnings) ∧
      tree.imports.entries.map (·.localName) = ["React", "_"] ∧
        tree.templates.map (·.prop) = ["row"] := by
  have evaluated : ((renderTree .standard importOptions
      "<List><rt-require dependency=\"a\" as=\"A\"><p/></rt-require></List>").toOption.map
        fun pair =>
      (pair.1.imports.entries.map (·.localName), pair.1.templates.map (·.prop))) =
        some (["React", "_"], ["row"]) := by
    decide +kernel
  obtain ⟨⟨tree, warnings⟩, rendered, seen⟩ := exists_ok_of_toOption evaluated
  exact ⟨tree, warnings, rfl, rendered, (Prod.mk.inj seen).1, (Prod.mk.inj seen).2⟩

end RenderTemplate
