import Mathlib.Data.List.TakeWhile
import RenderTemplate.Proofs.HelperParameters

namespace RenderTemplate

open Markup

open scoped List

/-- The names by which the generated code refers to what every module imports. The import table
keeps these names for it, but nothing keeps them from being bound. -/
def Target.runtimeNames (target : Target) : List String :=
  target.dependencies.map (·.localName)

/-- The names of a loop, as it is written. -/
def RepeatClause.names (value : String) : List String :=
  match pieces? value.toList with
  | some (item, index, _) =>
    [String.ofList item, (index.map String.ofList).getD (String.ofList item ++ "Index")]
  | none => []

def ScopeClause.name? (piece : String) : Option String :=
  Option.map (fun entry => String.ofList entry.2) <| entry? piece.toList

/-- The names of a scope, as it is written. -/
def ScopeClause.names (value : String) : List String :=
  (TopLevel.split ';' value).filterMap name?

def Directives.names (found : Directives) : List String :=
  (found.iteration.elim [] fun directive => RepeatClause.names directive.value) ++
    found.scope.elim [] fun directive => ScopeClause.names directive.value

namespace Markup

/-- The names that an element binds by its directives. -/
def StartTag.names (start : StartTag) : List String :=
  match Directives.collect start with
  | .ok found => found.names
  | .error _ => []

namespace Node

mutual

/-- All names that are bound in a node, which may be the child of an owner. -/
def names (options : Options) (owner : Option String) : Node → List String
  | .element start children =>
    match owner.bind fun owner => childSpec? options owner start with
    | some (.ok spec) => spec.arguments ++ namesAll options none children
    | some (.error _) => []
    | none =>
      match ReservedTag.ofTag? start.name with
      | some .require | some .importMember => []
      | some _ => start.names ++ namesAll options none children
      | none => start.names ++ namesAll options (some start.name) children
  | _ => []

def namesAll (options : Options) (owner : Option String) : List Node → List String
  | [] => []
  | node :: rest => names options owner node ++ namesAll options owner rest

end

section

variable (options : Options)

theorem namesAll_eq (owner : Option String) (nodes : List Node) :
    namesAll options owner nodes = nodes.flatMap (names options owner) := by
  induction nodes with
  | nil => rfl
  | cons node rest ih => rw [namesAll, ih, List.flatMap_cons]

/-- A child that stays where it is binds the same as without an owner. -/
theorem names_inline {owner : String} {node : Node}
    (inline : node.isTrigger options owner = false) :
    names options (some owner) node = names options none node := by
  cases node with
  | element start children =>
    rw [isTrigger_element, Option.isSome_eq_false_iff, Option.isNone_iff_eq_none] at inline
    rw [names, names, Option.bind_some, inline, Option.bind_none]
  | text parts place => rfl
  | comment value place => rfl

/-- A child that becomes a prop binds the arguments of its template. -/
theorem names_lifted {owner : String} {start : StartTag} {spec : TemplateSpec}
    (children : List Node) (known : childSpec? options owner start = some (.ok spec)) :
    names options (some owner) (element start children) =
      spec.arguments ++ namesAll options none children := by
  rw [names, Option.bind_some, known]

theorem names_of_isImport {start : StartTag} (children : List Node)
    (isImport : ReservedTag.isImport start.name) :
    names options none (element start children) = [] := by
  rw [names, Option.bind_none]
  rw [ReservedTag.isImport, Bool.or_eq_true, beq_iff_eq, beq_iff_eq] at isImport
  rcases isImport with reserved | reserved
  · rw [reserved]
  · rw [reserved]

theorem names_group {start : StartTag} (children : List Node)
    (known : ReservedTag.ofTag? start.name = some .group) :
    names options none (element start children) =
      start.names ++ namesAll options none children := by
  rw [names, Option.bind_none, known]

theorem names_ordinary {start : StartTag} (children : List Node)
    (ordinary : ReservedTag.ofTag? start.name = none) :
    names options none (element start children) =
      start.names ++ namesAll options (some start.name) children := by
  rw [names, Option.bind_none, ordinary]

/-- The children of an element, those that become props first. -/
theorem namesAll_perm (owner : String) (children : List Node) :
    (namesAll options (some owner) children).Perm
      (namesAll options (some owner) (children.filter (·.isTrigger options owner)) ++
        namesAll options none (children.filter fun child => !child.isTrigger options owner)) := by
  rw [namesAll_eq, namesAll_eq, namesAll_eq]
  exact flatMap_children_perm (fun _ => names_inline options) children

theorem namesAll_elements (owner : Option String) (nodes : List Node) :
    namesAll options owner nodes =
      (nodes.filterMap Node.element?).flatMap fun body =>
        names options owner (element body.1 body.2) := by
  rw [namesAll_eq]
  exact flatMap_elements (fun _ _ => rfl) (fun _ _ => rfl) nodes

end

end Node

end Markup

namespace RenderNode

/-- The names that a node binds for what is inside of it. -/
def own : RenderNode → List String
  | iteration loop _ => [loop.item, loop.index]
  | binding block _ => block.aliases.map (·.name)
  | _ => []

/-- All names that are bound in nodes. -/
def names (nodes : List RenderNode) : List String :=
  (nodesAll nodes).flatMap own

theorem names_append (nodes more : List RenderNode) :
    names (nodes ++ more) = names nodes ++ names more := by
  rw [names, nodesAll_append, List.flatMap_append]
  rfl

theorem names_eq_nil {nodes : List RenderNode} (none : ∀ node ∈ nodes, names [node] = []) :
    names nodes = [] := by
  induction nodes with
  | nil => rfl
  | cons node rest ih =>
    rw [List.forall_mem_cons] at none
    rw [← List.singleton_append, names_append, none.1, ih none.2, List.append_nil]

theorem names_element (head : ElementHead) (children : List RenderNode) :
    names [element head children] = names children := by
  rw [names, nodesAll_singleton, nodes, List.flatMap_cons]
  rfl

theorem names_group (children : List RenderNode) : names [group children] = names children := by
  rw [names, nodesAll_singleton, nodes, List.flatMap_cons]
  rfl

theorem names_around {node body : RenderNode} (around : node.nodes = node :: body.nodes) :
    names [node] = node.own ++ names [body] := by
  rw [names, nodesAll_singleton, around, List.flatMap_cons, names, nodesAll_singleton]

end RenderNode

/-- The names that a template binds, and those that are bound in its body. -/
def PropTemplate.names (template : PropTemplate) : List String :=
  template.arguments ++ RenderNode.names [template.body]

/-- All names that a tree binds by its loops, scopes and templates. -/
def RenderTree.names (tree : RenderTree) : List String :=
  tree.nodes.flatMap RenderNode.own ++ tree.templates.flatMap (·.arguments)

/-- The names of a tree are those of the root and those of its templates. -/
theorem RenderTree.names_perm (tree : RenderTree) :
    tree.names.Perm (RenderNode.names [tree.root] ++
      tree.templates.flatMap PropTemplate.names) := by
  have bodies : tree.nodes.flatMap RenderNode.own =
      RenderNode.names [tree.root] ++ tree.templates.flatMap fun template =>
        RenderNode.names [template.body] := by
    simp only [nodes, List.flatMap_append, List.flatMap_assoc, RenderNode.names,
      RenderNode.nodesAll_singleton]
  rw [names, bodies, List.append_assoc]
  exact (List.perm_append_comm.trans (List.flatMap_append_perm _ _ _)).append_left _

/-- While nodes are found, each name that is written is bound in them, or in a template that is
added. -/
def Binds (written : List String) (found : List RenderNode) (before after : List PropTemplate) :
    Prop :=
  (RenderNode.names found ++ after.flatMap PropTemplate.names).Perm
    (written ++ before.flatMap PropTemplate.names)

namespace Binds

variable {written more : List String} {found other : List RenderNode}
  {before middle after : List PropTemplate}

theorem refl (templates : List PropTemplate) (plain : RenderNode.names found = []) :
    Binds [] found templates templates := by
  rw [Binds, plain]

theorem perm (binds : Binds written found before after) (same : written.Perm more) :
    Binds more found before after :=
  List.Perm.trans binds (same.append_right _)

theorem append (early : Binds written found before middle) (late : Binds more other middle after) :
    Binds (written ++ more) (found ++ other) before after := by
  unfold Binds at early late ⊢
  rw [RenderNode.names_append, List.append_assoc, List.append_assoc]
  calc
    _ ~ RenderNode.names found ++ (more ++ middle.flatMap PropTemplate.names) := late.append_left _
    _ ~ more ++ (RenderNode.names found ++ middle.flatMap PropTemplate.names) :=
    List.perm_append_comm_assoc _ _ _
    _ ~ more ++ (written ++ before.flatMap PropTemplate.names) := early.append_left _
    _ ~ written ++ (more ++ before.flatMap PropTemplate.names) := List.perm_append_comm_assoc _ _ _

/-- Names around nodes come in front. -/
theorem around {own : List String} {outer : RenderNode} (inside : Binds written found before after)
    (same : RenderNode.names [outer] = own ++ RenderNode.names found) :
    Binds (own ++ written) [outer] before after := by
  rw [Binds, same, List.append_assoc, List.append_assoc]
  exact List.Perm.append_left own inside

theorem lift (template : PropTemplate) (inside : Binds written [template.body] before after) :
    Binds (template.arguments ++ written) [] before (after ++ [template]) := by
  unfold Binds at inside ⊢
  rw [List.flatMap_append, List.flatMap_singleton, PropTemplate.names, List.append_assoc]
  calc
    _ ~ template.arguments ++
      (after.flatMap PropTemplate.names ++ RenderNode.names [template.body]) :=
      List.perm_append_comm_assoc _ _ _
    _ ~ template.arguments ++
      (RenderNode.names [template.body] ++ after.flatMap PropTemplate.names) :=
      List.perm_append_comm.append_left _
    _ ~ template.arguments ++ (written ++ before.flatMap PropTemplate.names) := inside.append_left _

end Binds

theorem RepeatClause.names_of_read {host : HostLanguage} {directive : DirectiveValue}
    {clause : RepeatClause} (read : read host directive = .ok clause) :
    names directive.value = [clause.item, clause.index] := by
  obtain ⟨item, index, code, found, rfl, _⟩ := read_ok read
  rw [names, found]

namespace ScopeClause

theorem name?_of_isBlank {piece : String} (blank : Text.isBlank piece) : name? piece = none := by
  have empty : Text.trimRight piece.toList = [] := by
    rw [Text.trimRight, List.reverse_eq_nil_iff, List.dropWhile_eq_nil_iff]
    intro c member
    exact List.all_eq_true.mp blank c (List.mem_reverse.mp member)
  have word : lastWord piece.toList = ([], []) := by
    rw [lastWord, empty]
    rfl
  unfold name? entry?
  rw [word]
  rfl

theorem names_of_readEntries {host : HostLanguage} {place : Location} {pieces : List String}
    {known aliases : List ScopeAlias}
    (read : pieces.foldlM (readEntry host place) known = .ok aliases) :
    aliases.map (·.name) = known.map (·.name) ++ pieces.filterMap name? := by
  induction pieces generalizing known with
  | nil =>
    cases read
    exact (List.append_nil _).symm
  | cons piece rest ih =>
    obtain ⟨next, first, later⟩ := bind_ok.mp read
    rw [ih later]
    rcases readEntry_ok first with ⟨blank, rfl⟩ | ⟨code, word, entry, _, _, _, rfl⟩
    · rw [List.filterMap_cons_none (name?_of_isBlank blank)]
    · have named : name? piece = some (String.ofList word) := by
        rw [name?, entry]
        rfl
      rw [List.filterMap_cons_some named, List.map_append, List.append_assoc]
      rfl

theorem names_of_read {host : HostLanguage} {directive : DirectiveValue} {aliases : List ScopeAlias}
    (read : read host directive = .ok aliases) : names directive.value = aliases.map (·.name) := by
  obtain ⟨found, entries, rest⟩ := bind_ok.mp read
  split at rest
  · cases rest
  · cases rest
    exact (names_of_readEntries entries).symm

end ScopeClause

namespace Wrapping

/-- The names that are bound around an element. -/
def names (wrapping : Wrapping) : List String :=
  (wrapping.loop.elim [] fun loop => [loop.item, loop.index]) ++
    wrapping.block.elim [] fun block => block.aliases.map (·.name)

/-- The directives of an element bind what their values name. -/
theorem names_of_enter {host : HostLanguage} {found : Directives} {wrapping : Wrapping}
    {before after : Progress} (run : (enter host found).run before = .ok (wrapping, after)) :
    wrapping.names = found.names := by
  obtain ⟨loop, _, loopRun, run⟩ := Resolve.run_bind_ok.mp run
  obtain ⟨block, _, blockRun, run⟩ := Resolve.run_bind_ok.mp run
  obtain ⟨test, _, _, run⟩ := Resolve.run_bind_ok.mp run
  cases run
  unfold names Directives.names
  congr 1
  · cases iteration : found.iteration with
    | none =>
      rw [iteration] at loopRun
      cases loopRun
      rfl
    | some directive =>
      rw [iteration] at loopRun
      obtain ⟨clause, _, lifted, loopRun⟩ := Resolve.run_bind_ok.mp loopRun
      obtain ⟨_, _, _, loopRun⟩ := Resolve.run_bind_ok.mp loopRun
      cases loopRun
      exact (RepeatClause.names_of_read (Resolve.run_lift_ok.mp lifted).1).symm
  · cases scope : found.scope with
    | none =>
      rw [scope] at blockRun
      cases blockRun
      rfl
    | some directive =>
      rw [scope] at blockRun
      obtain ⟨aliases, _, lifted, blockRun⟩ := Resolve.run_bind_ok.mp blockRun
      obtain ⟨_, _, _, blockRun⟩ := Resolve.run_bind_ok.mp blockRun
      cases blockRun
      exact (ScopeClause.names_of_read (Resolve.run_lift_ok.mp lifted).1).symm

/-- The directives around a node add their names to those of the node. -/
theorem names_of_leave {wrapping : Wrapping} {node result : RenderNode} {before after : Progress}
    (run : (wrapping.leave node).run before = .ok (result, after)) :
    RenderNode.names [result] = wrapping.names ++ RenderNode.names [node] := by
  obtain ⟨loop, block, test⟩ := wrapping
  obtain ⟨inner, _, left, run⟩ := Resolve.run_bind_ok.mp run
  have tested : RenderNode.names [testNode test node] = RenderNode.names [node] := by
    cases test with
    | none => rfl
    | some test =>
      rw [testNode]
      exact RenderNode.names_around (by rw [RenderNode.nodes])
  have blocked : RenderNode.names [inner] =
      (block.elim [] fun block => block.aliases.map (·.name)) ++ RenderNode.names [node] := by
    rw [← tested]
    cases block with
    | none =>
      cases left
      rfl
    | some block =>
      obtain ⟨_, _, _, left⟩ := Resolve.run_bind_ok.mp left
      cases left
      exact RenderNode.names_around (by rw [RenderNode.nodes])
  rw [names, List.append_assoc, ← blocked]
  cases loop with
  | none =>
    cases run
    rfl
  | some loop =>
    obtain ⟨_, _, _, run⟩ := Resolve.run_bind_ok.mp run
    cases run
    exact RenderNode.names_around (by rw [RenderNode.nodes])

end Wrapping

/-- The names around an element are those of its directives. -/
theorem Markup.StartTag.names_of_runs {host : HostLanguage} {isRoot : Bool} {start : StartTag}
    {found : Directives} {wrapping : Wrapping} {first second third fourth : Progress}
    (collected : (elementDirectives isRoot start).run first = .ok (found, second))
    (entered : (Wrapping.enter host found).run third = .ok (wrapping, fourth)) :
    start.names = wrapping.names := by
  obtain ⟨directives, read, same⟩ := elementDirectives_ok collected
  rw [Wrapping.names_of_enter entered, StartTag.names, read, same]
  rfl

theorem textNodes_names {host : HostLanguage} {parts : List Part} {place : Location}
    {nodes : List RenderNode} (read : textNodes host parts place = .ok nodes) :
    RenderNode.names nodes = [] := by
  refine RenderNode.names_eq_nil fun node member => ?_
  rcases textNodes_leaf read member with ⟨text, rfl⟩ | ⟨code, rfl⟩
  · rfl
  · rfl

section

variable {setting : Setting}

/-- Whether the names of a finding are, one to one, those that its source is written with. -/
def Finding.IsBound (options : Options) (before after : List PropTemplate) : Finding → Prop
  | .node _ source found => Binds (source.names options none) found before after
  | .inner start children _ found =>
    ∃ written, (Node.element start children).names options none = start.names ++ written ∧
      Binds written [found] before after
  | .nodes sources found => Binds (Node.namesAll options none sources) found before after
  | .props owner children _ => Binds (Node.namesAll options (some owner) children) [] before after

/-- What is bound in a tree is what the nodes of the template bind. The induction is on the
derivation. -/
theorem Derives.isBound {finding : Finding} {before after : Progress}
    (derives : Derives setting finding before after) :
    finding.IsBound setting.options before.templates after.templates := by
  induction derives with
  | comment => exact .refl _ rfl
  | text read => exact .refl _ (textNodes_names read)
  | imported isImport declared =>
    rw [Finding.IsBound, Node.names_of_isImport setting.options _ isImport,
      Resolve.Keeps.declareImport setting _ _ _ _ declared]
    exact .refl _ rfl
  | wrapped collected entered _ left ih =>
    obtain ⟨written, same, inside⟩ := ih
    rw [Resolve.Keeps.enterWrapping Resolve.isLasting_templates _ _ _ _ _ entered,
      Resolve.Keeps.elementDirectives Resolve.isLasting_templates _ _ _ _ _ collected,
      ← Resolve.Keeps.leaveWrapping Resolve.isLasting_templates _ _ _ _ _ left] at inside
    rw [Finding.IsBound, same, StartTag.names_of_runs collected entered]
    exact inside.around (Wrapping.names_of_leave left)
  | group reserved _ _ ih =>
    refine ⟨_, Node.names_group setting.options _ reserved, ?_⟩
    rw [Binds, RenderNode.names_group]
    exact ih
  | @element start children _ _ _ _ _ _ _ _ ordinary headRun _ _ propsIh insideIh =>
    rw [Resolve.Keeps.elementHead Resolve.isLasting_templates _ _ _ _ _ _ _ headRun] at propsIh
    refine ⟨_, Node.names_ordinary setting.options children ordinary, ?_⟩
    -- Props are resolved before the other children, wherever they stand.
    have both :=
      (Binds.append propsIh insideIh).perm
      (Node.namesAll_perm setting.options start.name children).symm
    rw [Binds, RenderNode.names_element]
    exact both
  | nil => exact .refl _ rfl
  | cons _ _ firstIh restIh =>
    rw [Finding.IsBound, Node.namesAll]
    exact Binds.append firstIh restIh
  | noProps => exact .refl _ rfl
  | @lift owner start children _ spec _ node _ before _ _ specified sole _ _ resolvedIh restIh =>
    let template : PropTemplate :=
      ⟨owner, spec.prop, spec.arguments, before.scope.outside spec.arguments, node, start.location⟩
    -- Only one element is resolved: names of another one would be lost.
    rw [Finding.IsBound, Node.namesAll, Node.names_lifted setting.options children specified,
      Node.namesAll_elements, (soleElement?_eq_some_iff.mp sole).1, List.flatMap_singleton]
    exact (Binds.lift template resolvedIh).append restIh

/-- Texts, comments and imports bind no names, so nothing is lost with them. -/
theorem surveyRoots_names {before after : Progress} {nodes : List Node}
    {roots : List (StartTag × List Node)}
    (run : (surveyRoots setting nodes).run before = .ok (roots, after)) :
    Node.namesAll setting.options none nodes =
      roots.flatMap fun root => (Node.element root.1 root.2).names setting.options none := by
  induction nodes generalizing before roots with
  | nil =>
    cases run
    rfl
  | cons node rest ih =>
    cases node with
    | comment value place => exact ih run
    | text parts place =>
      unfold surveyRoots at run
      split at run
      · exact ih run
      · cases run
    | element start children =>
      unfold surveyRoots at run
      split at run
      · next isImport =>
        obtain ⟨_, _, _, later⟩ := Resolve.run_bind_ok.mp run
        rw [Node.namesAll, Node.names_of_isImport setting.options children isImport]
        exact ih later
      · obtain ⟨more, _, later, run⟩ := Resolve.run_bind_ok.mp run
        cases run
        rw [Node.namesAll, List.flatMap_cons, ih later]

/-- The names that a tree binds are, one to one, those that its forest is written with. -/
theorem resolve_binds {nodes : List Node} {tree : RenderTree} {warnings : List Warning}
    (resolved : resolve setting nodes = .ok (tree, warnings)) :
    tree.names.Perm (Node.namesAll setting.options none nodes) := by
  obtain ⟨_, _, root, _, _, surveyed, derives, rfl, _⟩ := resolve_eq_ok_iff.mp resolved
  have binds := derives.isBound
  rw [Finding.IsBound, Binds, Resolve.Keeps.surveyRoots setting nodes _ _ _ surveyed,
    List.flatMap_nil, List.append_nil] at binds
  rw [surveyRoots_names surveyed, List.flatMap_singleton]
  exact (RenderTree.names_perm _).trans binds

end

namespace RenderTree

variable {setting : Setting} {nodes : List Node} {tree : RenderTree} {warnings : List Warning}
  {environment : List String} {scope : Scope}

theorem mem_names_iff {name : String} :
    name ∈ tree.names ↔
      (∃ node ∈ tree.nodes, name ∈ node.own) ∨
        ∃ template ∈ tree.templates, name ∈ template.arguments := by
  rw [names, List.mem_append, List.mem_flatMap, List.mem_flatMap]

/-- In the function of a construct its own names are bound, and those that are bound around it. -/
theorem Meets.mem_bound_iff {construct : Construct} (met : tree.Meets environment scope construct)
    (resolved : resolve setting nodes = .ok (tree, warnings)) {name : String} :
    name ∈ construct.bound ↔ name ∈ environment ∨ name ∈ construct.own := by
  obtain ⟨outer, visible⟩ := met.outer_eq (resolve_arises resolved)
  rw [Construct.bound_eq, outer, visible]
  exact Scope.mem_outside_append

/-- In each place only names are bound that the tree binds. -/
theorem Reaches.environment_subset_names {node : RenderNode}
    (here : tree.Reaches environment scope node)
    (resolved : resolve setting nodes = .ok (tree, warnings)) : environment ⊆ tree.names := by
  induction here with
  | root => exact List.nil_subset _
  | child _ _ ih => exact ih
  | grouped _ _ ih => exact ih
  | tested _ ih => exact ih
  | repeated here ih =>
    intro name bound
    rcases ((Meets.loop here).mem_bound_iff resolved).mp bound with outer | own
    · exact ih outer
    · exact mem_names_iff.mpr (.inl ⟨_, here.mem_nodes, own⟩)
  | bound here ih =>
    intro name bound
    rcases ((Meets.block here).mem_bound_iff resolved).mp bound with outer | own
    · exact ih outer
    · exact mem_names_iff.mpr (.inl ⟨_, here.mem_nodes, own⟩)
  | lifted here member known ih =>
    intro name bound
    rcases ((Meets.template here member known).mem_bound_iff resolved).mp bound with outer | own
    · exact ih outer
    · exact mem_names_iff.mpr (.inr ⟨_, List.mem_of_getElem? known, own⟩)

/-- Each name that a tree binds is bound in some place. -/
theorem exists_reaches_of_mem_names (resolved : resolve setting nodes = .ok (tree, warnings))
    {name : String} (member : name ∈ tree.names) :
    ∃ environment scope node, tree.Reaches environment scope node ∧ name ∈ environment := by
  have lifted := resolve_lifts resolved
  rcases mem_names_iff.mp member with ⟨node, listed, own⟩ | ⟨template, listed, own⟩
  · obtain ⟨_, _, here⟩ := exists_reaches_of_mem_nodes lifted listed
    cases node with
    | iteration loop body =>
      exact ⟨_, _, _, here.repeated, ((Meets.loop here).mem_bound_iff resolved).mpr (.inr own)⟩
    | binding block body =>
      exact ⟨_, _, _, here.bound, ((Meets.block here).mem_bound_iff resolved).mpr (.inr own)⟩
    | element head children => cases own
    | group children => cases own
    | text value => cases own
    | expression code => cases own
    | comment value => cases own
    | conditional test body => cases own
  · obtain ⟨_, _, met⟩ := isMet_of_mem (template_mem_constructs lifted listed)
    have bound := (met.mem_bound_iff resolved).mpr (.inr own)
    cases met with
    | template here referred known => exact ⟨_, _, _, here.lifted referred known, bound⟩

end RenderTree

theorem Target.nodup_runtimeNames : ∀ target : Target, target.runtimeNames.Nodup :=
  forall_iff.mpr (by decide)

/-- Imports take no name from the runtime. -/
theorem runtime_of_mem_imports {setting : Setting} {nodes : List Node} {tree : RenderTree}
    {warnings : List Warning} (resolved : resolve setting nodes = .ok (tree, warnings))
    {dependency : Dependency} (member : dependency ∈ tree.imports.entries)
    (named : dependency.localName ∈ setting.target.runtimeNames) :
    dependency ∈ setting.target.dependencies := by
  have gains := (resolve_accounts resolved).imports
  obtain ⟨runtime, listed, same⟩ := List.mem_map.mp named
  have distinct := gains.distinct setting.target.nodup_runtimeNames
  rw [← List.inj_on_of_nodup_map distinct (gains.kept.subset listed) member same]
  exact listed

/-- The names that a tree binds are, one to one, those that its forest is written with, and they are
the names that are bound in some place of the code. So the runtime is captured nowhere exactly if
none of its names is written, and only imports are kept from having one. -/
theorem runtime_uncaptured_iff {setting : Setting} {nodes : List Node} {tree : RenderTree}
    {warnings : List Warning} (resolved : resolve setting nodes = .ok (tree, warnings)) :
    tree.names.Perm (Node.namesAll setting.options none nodes) ∧
    (∀ name, name ∈ tree.names ↔ ∃ environment scope node, tree.Reaches environment scope node ∧
      name ∈ environment) ∧
    ((∀ name ∈ tree.names, name ∉ setting.target.runtimeNames) ↔
      ∀ name ∈ Node.namesAll setting.options none nodes, name ∉ setting.target.runtimeNames) ∧
    ∀ dependency ∈ tree.imports.entries, dependency.localName ∈ setting.target.runtimeNames →
      dependency ∈ setting.target.dependencies := by
  have binds := resolve_binds resolved
  refine ⟨binds, ?_, ?_, fun _ => runtime_of_mem_imports resolved⟩
  · intro name
    constructor
    · exact RenderTree.exists_reaches_of_mem_names resolved
    · rintro ⟨environment, scope, node, here, bound⟩
      exact here.environment_subset_names resolved bound
  · exact forall_congr' fun name => by rw [binds.mem_iff]

theorem loopedList_uncaptured :
    ∃ tree warnings, resolve rowSetting loopedList = .ok (tree, warnings) ∧
      tree.names.Perm ["item", "itemIndex", "id", "item"] ∧
      ∀ name ∈ tree.names, name ∉ rowSetting.target.runtimeNames := by
  have resolves : ((resolve rowSetting loopedList).toOption.map fun _ => ()) = some () := by
    decide +kernel
  have written : Node.namesAll rowSetting.options none loopedList =
      ["item", "itemIndex", "id", "item"] := by
    decide +kernel
  obtain ⟨⟨tree, warnings⟩, resolved, _⟩ := exists_ok_of_toOption resolves
  obtain ⟨binds, _, uncaptured, _⟩ := runtime_uncaptured_iff resolved
  rw [written] at binds uncaptured
  exact ⟨tree, warnings, resolved, binds, uncaptured.mpr (by decide)⟩

/-- A loop with a class set. -/
def capturingLoop : String :=
  "<li rt-repeat=\"_ in xs\" rt-class=\"\x7ba: _\x7d\"/>"

/-- A loop can bind a name of the runtime: the code of its class set refers to the runtime by the
name of the item. -/
theorem capturingLoop_captures :
    ∃ tree warnings, Options.validate {} = .ok () ∧
      renderTree .standard {} capturingLoop = .ok (tree, warnings) ∧
      tree.names = ["_", "_Index"] ∧ "_" ∈ (Target.ofOptions {}).runtimeNames ∧
      (tree.emit (Target.ofOptions {})).2 = [{
        name := "repeat_1"
        parameters := ["_", "_Index"]
        result :=
          "React.createElement(\"li\", \x7b className: " ++
            "_.keys(_.pick(\x7ba: _\x7d, _.identity)).join(\" \") \x7d)" }] := by
  have evaluated : ((renderTree .standard {} capturingLoop).toOption.map fun pair =>
      (pair.1.names, (pair.1.emit (Target.ofOptions {})).2)) = some (["_", "_Index"], [{
        name := "repeat_1"
        parameters := ["_", "_Index"]
        result :=
          "React.createElement(\"li\", \x7b className: " ++
            "_.keys(_.pick(\x7ba: _\x7d, _.identity)).join(\" \") \x7d)" }]) := by
    decide +kernel
  obtain ⟨⟨tree, warnings⟩, rendered, seen⟩ := exists_ok_of_toOption evaluated
  obtain ⟨names, helpers⟩ := Prod.mk.inj seen
  exact ⟨tree, warnings, rfl, rendered, names, by decide, helpers⟩

end RenderTemplate
