import Mathlib.Algebra.Order.Group.Multiset
import RenderTemplate.Proofs.Inventory
import RenderTemplate.Proofs.Isolation
import RenderTemplate.Proofs.Stateless

namespace RenderTemplate

open Markup

/-- An element that the resolution comes by. It comes by each import, by each child that its owner
gets as a prop, and by each element that is rendered. -/
inductive Visit where
  /-- An import in its place. -/
  | declared (start : StartTag)
  /-- A child that its owner gets as a prop. -/
  | lifted (owner : String) (start : StartTag)
  /-- An element that is rendered. -/
  | rendered (start : StartTag) (children : List Node)

namespace Visit

def import? : Visit → Option StartTag
  | declared start => some start
  | _ => none

def prop? : Visit → Option (String × StartTag)
  | lifted owner start => some (owner, start)
  | _ => none

def element? : Visit → Option (StartTag × List Node)
  | rendered start children => some (start, children)
  | _ => none

variable {visits : List Visit}

theorem mem_props_iff {owner : String} {start : StartTag} :
    (owner, start) ∈ visits.filterMap prop? ↔ .lifted owner start ∈ visits := by
  rw [List.mem_filterMap]
  constructor
  · rintro ⟨visit, visited, same⟩
    cases visit with
    | lifted owner start =>
      cases same
      exact visited
    | declared start => cases same
    | rendered start children => cases same
  · intro visited
    exact ⟨_, visited, rfl⟩

theorem mem_elements_iff {start : StartTag} {children : List Node} :
    (start, children) ∈ visits.filterMap element? ↔ .rendered start children ∈ visits := by
  rw [List.mem_filterMap]
  constructor
  · rintro ⟨visit, visited, same⟩
    cases visit with
    | rendered start children =>
      cases same
      exact visited
    | declared start => cases same
    | lifted owner start => cases same
  · intro visited
    exact ⟨_, visited, rfl⟩

end Visit

/-- Of two properties that correspond, one holds of all on its side exactly if the other does. -/
theorem forall_mem_iff_of_rel {α β : Type} {related : α → β → Prop} {holds : α → Prop}
    {follows : β → Prop} {items : List α} {partners : List β}
    (matched : Multiset.Rel related ↑items ↑partners)
    (same : ∀ item partner, related item partner → (holds item ↔ follows partner)) :
    (∀ item ∈ items, holds item) ↔ ∀ partner ∈ partners, follows partner := by
  constructor
  · intro all partner member
    obtain ⟨item, listed, known⟩ :=
      Multiset.exists_mem_of_rel_of_mem (Multiset.rel_flip.mpr matched)
        (Multiset.mem_coe.mpr member)
    exact (same item partner known).mp (all item (Multiset.mem_coe.mp listed))
  · intro all item member
    obtain ⟨partner, listed, known⟩ :=
      Multiset.exists_mem_of_rel_of_mem matched (Multiset.mem_coe.mpr member)
    exact (same item partner known).mpr (all partner (Multiset.mem_coe.mp listed))

namespace Markup.Node

/-- What is collected from the children of an element, from those first that become props. The
others have no use for their owner. -/
theorem flatMap_children_perm {α : Type} {options : Options} {owner : String}
    {collect : Option String → Node → List α}
    (inline : ∀ node, node.isTrigger options owner = false →
      collect (some owner) node = collect none node)
    (children : List Node) :
    (children.flatMap (collect (some owner))).Perm
      ((children.filter (·.isTrigger options owner)).flatMap (collect (some owner)) ++
        (children.filter fun child => !child.isTrigger options owner).flatMap (collect none)) := by
  have apart :
      (children.filter fun child => !child.isTrigger options owner).flatMap (collect none) =
      (children.filter fun child => !child.isTrigger options owner).flatMap
        (collect (some owner)) := by
    refine List.flatMap_congr fun child member => (inline child ?_).symm
    rw [← Bool.not_eq_true']
    exact (List.mem_filter.mp member).2
  rw [apart, ← List.flatMap_append]
  exact (List.filter_append_perm _ children).symm.flatMap_right _

/-- What is collected from elements only does not depend on text and comments. -/
theorem flatMap_elements {α : Type} {collect : Node → List α}
    (text : ∀ parts place, collect (.text parts place) = [])
    (comment : ∀ value place, collect (.comment value place) = []) (nodes : List Node) :
    nodes.flatMap collect = (nodes.filterMap Node.element?).flatMap fun body =>
      collect (element body.1 body.2) := by
  induction nodes with
  | nil => rfl
  | cons node rest ih =>
    rw [List.flatMap_cons, ih]
    cases node with
    | element start children => rfl
    | text parts place => exact congrArg (· ++ _) (text parts place)
    | comment value place => exact congrArg (· ++ _) (comment value place)

mutual

/-- What the resolution comes by in a node, which may be the child of an owner. It does not look
into imports. -/
def visits (options : Options) (owner : Option String) : Node → List Visit
  | .element start children =>
    match owner.filter ((element start children).isTrigger options) with
    | some owner => .lifted owner start :: visitsAll options none children
    | none =>
      match ReservedTag.ofTag? start.name with
      | some .require | some .importMember => [.declared start]
      | some _ => visitsAll options none children
      | none => .rendered start children :: visitsAll options (some start.name) children
  | _ => []

def visitsAll (options : Options) (owner : Option String) : List Node → List Visit
  | [] => []
  | node :: rest => visits options owner node ++ visitsAll options owner rest

end

section

variable (options : Options)

theorem visitsAll_eq (owner : Option String) (nodes : List Node) :
    visitsAll options owner nodes = nodes.flatMap (visits options owner) := by
  induction nodes with
  | nil => rfl
  | cons node rest ih => rw [visitsAll, ih, List.flatMap_cons]

/-- A child that stays in its place has no use for its owner. -/
theorem visits_inline {owner : Option String} {node : Node}
    (inline : ¬ ∃ name ∈ owner, node.isTrigger options name) :
    visits options owner node = visits options none node := by
  cases node with
  | element start children =>
    have passed : owner.filter ((element start children).isTrigger options ·) = none := by
      rw [Option.filter_eq_none_iff]
      exact fun name known trigger => inline ⟨name, known, trigger⟩
    rw [visits, visits, passed, Option.filter_none]
  | text parts place => rfl
  | comment value place => rfl

/-- An element without an owner is declared, passed through or rendered. -/
theorem visits_none (start : StartTag) (children : List Node) :
    visits options none (element start children) =
      match ReservedTag.ofTag? start.name with
      | some .require | some .importMember => [.declared start]
      | some _ => visitsAll options none children
      | none => .rendered start children :: visitsAll options (some start.name) children := by
  rw [visits, Option.filter_none]

theorem visits_of_isImport {start : StartTag} (children : List Node)
    (isImport : ReservedTag.isImport start.name) :
    visits options none (element start children) = [.declared start] := by
  rw [visits_none]
  rw [ReservedTag.isImport, Bool.or_eq_true, beq_iff_eq, beq_iff_eq] at isImport
  rcases isImport with reserved | reserved
  · rw [reserved]
  · rw [reserved]

theorem visits_group {start : StartTag} {reserved : ReservedTag} (children : List Node)
    (known : ReservedTag.ofTag? start.name = some reserved)
    (other : ¬ ReservedTag.isImport start.name) :
    visits options none (element start children) = visitsAll options none children := by
  rw [visits_none, known]
  rw [ReservedTag.isImport, known] at other
  cases reserved with
  | require => exact absurd rfl other
  | importMember => exact absurd rfl other
  | template => rfl
  | group => rfl

theorem visits_ordinary {start : StartTag} (children : List Node)
    (ordinary : ReservedTag.ofTag? start.name = none) :
    visits options none (element start children) =
      .rendered start children :: visitsAll options (some start.name) children := by
  rw [visits_none, ordinary]

/-- A child that becomes a prop is visited as such, and then its children are. -/
theorem visits_lifted {owner : String} {start : StartTag} {children : List Node}
    (trigger : (element start children).isTrigger options owner) :
    visits options (some owner) (element start children) =
      .lifted owner start :: visitsAll options none children := by
  rw [visits, Option.filter_some, if_pos trigger]

/-- The children of an element, those that become props first. -/
theorem visitsAll_perm (owner : String) (children : List Node) :
    (visitsAll options (some owner) children).Perm
      (visitsAll options (some owner) (children.filter (·.isTrigger options owner)) ++
        visitsAll options none (children.filter fun child => !child.isTrigger options owner)) := by
  rw [visitsAll_eq, visitsAll_eq, visitsAll_eq]
  refine flatMap_children_perm (fun node inline => visits_inline options ?_) children
  rintro ⟨name, known, trigger⟩
  cases known
  exact Bool.false_ne_true (inline.symm.trans trigger)

theorem visitsAll_elements (owner : Option String) (nodes : List Node) :
    visitsAll options owner nodes =
      (nodes.filterMap Node.element?).flatMap fun body =>
        visits options owner (element body.1 body.2) := by
  rw [visitsAll_eq]
  exact flatMap_elements (fun _ _ => rfl) (fun _ _ => rfl) nodes

end

end Markup.Node

namespace ImportTable

variable {before middle after : ImportTable} {wanted more : List StartTag}

/-- Imports after elements declared theirs: nothing is lost or repeated, and nothing else comes
in. -/
structure Gains (before : ImportTable) (wanted : List StartTag) (after : ImportTable) : Prop where
  kept : before.entries <+: after.entries
  members : ∀ dependency, dependency ∈ after.entries ↔
    dependency ∈ before.entries ∨ ∃ start ∈ wanted, Dependency.ofElement start = .ok dependency
  described : ∀ start ∈ wanted, ∃ dependency, Dependency.ofElement start = .ok dependency
  distinct : (before.entries.map (·.localName)).Nodup → (after.entries.map (·.localName)).Nodup

namespace Gains

theorem refl (table : ImportTable) : table.Gains [] table where
  kept := List.prefix_rfl
  members := by simp
  described := by simp
  distinct := id

theorem trans (early : before.Gains wanted middle) (late : middle.Gains more after) :
    before.Gains (wanted ++ more) after where
  kept := early.kept.trans late.kept
  members := by
    intro dependency
    rw [late.members, early.members, or_assoc]
    simp only [List.mem_append, or_and_right, exists_or]
  described := by
    intro start member
    rcases List.mem_append.mp member with first | second
    · exact early.described start first
    · exact late.described start second
  distinct := fun distinct => late.distinct (early.distinct distinct)

theorem perm (gains : before.Gains wanted after) (same : wanted.Perm more) :
    before.Gains more after where
  kept := gains.kept
  members := by
    intro dependency
    simp only [gains.members, same.mem_iff]
  described := by
    intro start member
    exact gains.described start (same.mem_iff.mpr member)
  distinct := gains.distinct

end Gains

/-- A declaration finds the import in the table, or adds it there under a new name. -/
theorem localName_not_mem {table : ImportTable} {name : String} (unknown : table.get? name = none) :
    name ∉ table.entries.map (·.localName) := by
  rw [get?, List.find?_eq_none] at unknown
  rw [List.mem_map]
  rintro ⟨other, member, same⟩
  exact unknown other member (beq_iff_eq.mpr same)

/-- An import is declared if it is known already, or if its name is free. -/
theorem declare_eq_ok {table next : ImportTable} {dependency : Dependency} {place : Location}
    {added : Bool} (run : table.declare dependency place = .ok (added, next)) :
    next = table ∧ dependency ∈ table.entries ∨
      next = ⟨table.entries ++ [dependency]⟩ ∧
        dependency.localName ∉ table.entries.map (·.localName) := by
  unfold declare at run
  rcases submit_cases table dependency place with ⟨unknown, added⟩ | ⟨found, kept⟩
    | ⟨_, _, _, refused⟩
  · rw [added] at run
    cases run
    exact .inr ⟨rfl, localName_not_mem unknown⟩
  · rw [kept] at run
    cases run
    exact .inl ⟨rfl, List.mem_of_find?_eq_some found⟩
  · rw [refused] at run
    cases run

theorem gains_of_declare {table next : ImportTable} {start : StartTag} {dependency : Dependency}
    {place : Location} {added : Bool} (read : Dependency.ofElement start = .ok dependency)
    (run : table.declare dependency place = .ok (added, next)) : table.Gains [start] next := by
  have described : ∀ element ∈ [start], ∃ dependency,
      Dependency.ofElement element = .ok dependency :=
    fun element member => ⟨dependency, List.mem_singleton.mp member ▸ read⟩
  rcases declare_eq_ok run with ⟨rfl, known⟩ | ⟨rfl, fresh⟩
  · refine ⟨List.prefix_rfl, fun other => ?_, described, id⟩
    simp only [List.mem_singleton, exists_eq_left, read, Except.ok.injEq]
    constructor
    · exact .inl
    · rintro (member | rfl)
      · exact member
      · exact known
  · refine ⟨List.prefix_append _ _, fun other => ?_, described, fun distinct => ?_⟩
    · simp [read, eq_comm]
    · rw [List.map_append, List.map_singleton, ← List.concat_eq_append, List.nodup_concat]
      exact ⟨fresh, distinct⟩

end ImportTable

namespace RenderNode

/-- The head of a node that is an element. -/
def head? : RenderNode → Option ElementHead
  | element head _ => some head
  | _ => none

/-- The heads of all elements in a node. -/
def heads (node : RenderNode) : List ElementHead :=
  node.nodes.filterMap head?

def headsAll (nodes : List RenderNode) : List ElementHead :=
  (nodesAll nodes).filterMap head?

theorem headsAll_cons (node : RenderNode) (rest : List RenderNode) :
    headsAll (node :: rest) = node.heads ++ headsAll rest := by
  rw [headsAll, nodesAll, List.filterMap_append, heads, headsAll]

theorem headsAll_nil : headsAll [] = [] := rfl

theorem headsAll_singleton (node : RenderNode) : headsAll [node] = node.heads := by
  rw [headsAll, nodesAll_singleton, heads]

theorem headsAll_eq_nil {nodes : List RenderNode} (none : ∀ node ∈ nodes, node.heads = []) :
    headsAll nodes = [] := by
  induction nodes with
  | nil => rfl
  | cons node rest ih =>
    rw [List.forall_mem_cons] at none
    rw [headsAll_cons, none.1, ih none.2, List.append_nil]

theorem headsAll_append (nodes more : List RenderNode) :
    headsAll (nodes ++ more) = headsAll nodes ++ headsAll more := by
  rw [headsAll, nodesAll_append, List.filterMap_append]
  rfl

theorem heads_element (head : ElementHead) (children : List RenderNode) :
    (element head children).heads = head :: headsAll children := by
  rw [heads, nodes, headsAll]
  rfl

theorem heads_group (children : List RenderNode) : (group children).heads = headsAll children := by
  rw [heads, nodes, headsAll]
  rfl

end RenderNode

/-- The heads of all elements of a tree. -/
def RenderTree.heads (tree : RenderTree) : List ElementHead :=
  tree.nodes.filterMap RenderNode.head?

theorem RenderTree.heads_eq (tree : RenderTree) :
    tree.heads = tree.root.heads ++ tree.templates.flatMap (·.body.heads) := by
  rw [heads, nodes, List.filterMap_append, List.filterMap_flatMap]
  rfl

/-- What the resolution collects for the whole tree. -/
def Progress.gathered (progress : Progress) : ImportTable × List PropTemplate :=
  (progress.imports, progress.templates)

theorem Resolve.isLasting_gathered : IsLasting Progress.gathered :=
  fun _ _ _ => rfl

/-- The template that a child of an owner becomes has the prop and the arguments that the child
declares, or that the options tell. -/
def PropTemplate.IsMade (options : Options) (child : String × StartTag) (template : PropTemplate) :
    Prop :=
  template.owner = child.1 ∧
    childSpec? options child.1 child.2 = some (.ok ⟨template.prop, template.arguments⟩)

/-- The head of an element that stands in a template: first come the props that its attributes set,
and then those that its children became. -/
def ElementHead.IsBuilt (setting : Setting) (source : StartTag × List Node) (head : ElementHead) :
    Prop :=
  ∃ scope directives found written lifted, Directives.collect source.1 = .ok directives ∧
    Extraction.ofElement setting.options source.1 source.2 = .ok found ∧
    attributeProps setting scope directives = .ok written ∧
    lifted.map (·.key) = found.candidates.map (·.spec.prop) ∧ head.props = written ++ lifted

/-- What became of all that the resolution came by while it found nodes. The imports are in the
table, there is one template for each prop, and one element of the tree for each element. -/
structure Accounts (setting : Setting) (visits : List Visit) (found : List RenderNode)
    (before after : ImportTable × List PropTemplate) : Prop where
  imports : before.1.Gains (visits.filterMap Visit.import?) after.1
  templates : ∃ added, after.2 = before.2 ++ added ∧
    Multiset.Rel (PropTemplate.IsMade setting.options) ↑(visits.filterMap Visit.prop?) ↑added ∧
    Multiset.Rel (ElementHead.IsBuilt setting) ↑(visits.filterMap Visit.element?)
      (↑(RenderNode.headsAll found) + ↑(added.flatMap (·.body.heads)))

namespace Accounts

variable {setting : Setting} {visits more : List Visit} {found other : List RenderNode}
  {before middle after : ImportTable × List PropTemplate}

theorem refl (gathered : ImportTable × List PropTemplate) (plain : RenderNode.headsAll found = []) :
    Accounts setting [] found gathered gathered where
  imports := .refl _
  templates := ⟨[], (List.append_nil _).symm, .zero, by rw [plain]; exact .zero⟩

theorem congr (accounts : Accounts setting visits found before after)
    (same : RenderNode.headsAll other = RenderNode.headsAll found) :
    Accounts setting visits other before after where
  imports := accounts.imports
  templates := same ▸ accounts.templates

theorem perm (accounts : Accounts setting visits found before after) (same : visits.Perm more) :
    Accounts setting more found before after where
  imports := accounts.imports.perm (same.filterMap _)
  templates := by
    rw [← Multiset.coe_eq_coe.mpr (same.filterMap Visit.element?),
      ← Multiset.coe_eq_coe.mpr (same.filterMap Visit.prop?)]
    exact accounts.templates

theorem append (early : Accounts setting visits found before middle)
    (late : Accounts setting more other middle after) :
    Accounts setting (visits ++ more) (found ++ other) before after where
  imports := by
    rw [List.filterMap_append]
    exact early.imports.trans late.imports
  templates := by
    obtain ⟨added, known, made, built⟩ := early.templates
    obtain ⟨later, knownLater, madeLater, builtLater⟩ := late.templates
    refine ⟨added ++ later, by rw [knownLater, known, List.append_assoc], ?_, ?_⟩
    · rw [List.filterMap_append, ← Multiset.coe_add, ← Multiset.coe_add]
      exact made.add madeLater
    · rw [List.filterMap_append, RenderNode.headsAll_append, List.flatMap_append,
        ← Multiset.coe_add, ← Multiset.coe_add, ← Multiset.coe_add, add_add_add_comm]
      exact built.add builtLater

/-- An element renders one head more than its children. -/
theorem element {start : StartTag} {children : List Node} {head : ElementHead}
    (inside : Accounts setting visits found before after)
    (built : head.IsBuilt setting (start, children)) :
    Accounts setting (.rendered start children :: visits) [.element head found] before after where
  imports := inside.imports
  templates := by
    obtain ⟨added, known, made, builtInside⟩ := inside.templates
    refine ⟨added, known, made, ?_⟩
    rw [RenderNode.headsAll_singleton, RenderNode.heads_element]
    rw [← Multiset.cons_coe, Multiset.cons_add]
    exact .cons built builtInside

/-- A child that becomes a prop renders nothing in its place: its body is that of one more
template. -/
theorem lift {owner : String} {start : StartTag} {template : PropTemplate}
    (inside : Accounts setting visits [template.body] before after)
    (isMade : template.IsMade setting.options (owner, start)) :
    Accounts setting (.lifted owner start :: visits) [] before (after.1, after.2 ++ [template])
      where
  imports := inside.imports
  templates := by
    obtain ⟨added, known, made, built⟩ := inside.templates
    refine ⟨added ++ [template], by rw [known, List.append_assoc], ?_, ?_⟩
    · rw [← Multiset.coe_add, add_comm]
      exact .cons isMade made
    · rw [RenderNode.headsAll_singleton] at built
      rw [List.flatMap_append, List.flatMap_singleton, ← Multiset.coe_add, RenderNode.headsAll_nil,
        Multiset.coe_nil, zero_add, add_comm]
      exact built

end Accounts

section

variable {setting : Setting}

theorem declareImport_accounts {start : StartTag} {before after : Progress} {result : Unit}
    (run : (declareImport setting start).run before = .ok (result, after)) :
    Accounts setting [.declared start] [] before.gathered after.gathered := by
  obtain ⟨dependency, _, lifted, run⟩ := Resolve.run_bind_ok.mp run
  obtain ⟨read, rfl⟩ := Resolve.run_lift_ok.mp lifted
  obtain ⟨added, _, declared, run⟩ := Resolve.run_bind_ok.mp run
  obtain ⟨imports, listed, rfl⟩ := Resolve.declare_ok declared
  cases run
  exact ⟨ImportTable.gains_of_declare read listed, [], (List.append_nil _).symm, .zero, .zero⟩

theorem textNodes_headsAll {parts : List Part} {place : Location} {nodes : List RenderNode}
    (read : textNodes setting.host parts place = .ok nodes) : RenderNode.headsAll nodes = [] := by
  refine RenderNode.headsAll_eq_nil fun node member => ?_
  rcases textNodes_leaf read member with ⟨text, rfl⟩ | ⟨code, rfl⟩
  · rw [RenderNode.heads, RenderNode.nodes]
    rfl
  · rw [RenderNode.heads, RenderNode.nodes]
    rfl

/-- What stands around a node is no element. -/
theorem leave_heads {wrapping : Wrapping} {node result : RenderNode} {before after : Progress}
    (run : (wrapping.leave node).run before = .ok (result, after)) : result.heads = node.heads := by
  have inner (node body : RenderNode) (same : node.nodes = node :: body.nodes)
      (other : node.head? = none) :
      node.heads = body.heads := by
    rw [RenderNode.heads, same, List.filterMap_cons_none other, RenderNode.heads]
  exact leave_passes (fun _ _ => inner _ _ (by rw [RenderNode.nodes]) rfl)
    (fun _ _ => inner _ _ (by rw [RenderNode.nodes]) rfl) (fun _ _ =>
      inner _ _ (by rw [RenderNode.nodes]) rfl) run

/-- The head of an element with the props that its children became. -/
theorem isBuilt_of_runs {start : StartTag} {children : List Node} {directives written : Directives}
    {head : ElementHead} {lifted : List RenderProp} {first second third : Progress}
    (read : Directives.collect start = .ok written)
    (same : directives = { written with stateless := directives.stateless })
    (headRun : (elementHead setting start children directives).run first = .ok (head, second))
    (liftRun : (liftTemplates setting start.name children).run second = .ok (lifted, third)) :
    ElementHead.IsBuilt setting (start, children) { head with props := head.props ++ lifted } := by
  obtain ⟨found, extracted, _, props, _⟩ := run_elementHead_ok.mp headRun
  rw [liftTemplates_eq setting (Extraction.ofElement_eq_ok_iff.mp extracted).1] at liftRun
  have lifts := (liftCandidates_ok liftRun).2
  refine ⟨first.scope, written, found, head.props, lifted, read, extracted, ?_, ?_, rfl⟩
  · rw [same] at props
    exact props
  · rw [← List.forall₂_eq_eq_eq, List.forall₂_map_left_iff, List.forall₂_map_right_iff]
    refine lifts.flip.imp fun prop candidate known => ?_
    obtain ⟨index, _, _, _, rfl, _⟩ := known
    rfl

/-- Whether all that the resolution came by for a finding is accounted for. -/
def Finding.IsAccounted (setting : Setting) (before after : ImportTable × List PropTemplate) :
    Finding → Prop
  | .node _ source found => Accounts setting (source.visits setting.options none) found before after
  | .inner start children directives found =>
    (∃ written, Directives.collect start = .ok written ∧
      directives = { written with stateless := directives.stateless }) →
    Accounts setting ((Node.element start children).visits setting.options none) [found]
      before after
  | .nodes sources found =>
    Accounts setting (Node.visitsAll setting.options none sources) found before after
  | .props owner children _ =>
    Accounts setting (Node.visitsAll setting.options (some owner) children) [] before after

/-- A derivation accounts for all visits of its nodes. The induction is on the derivation. -/
theorem Derives.isAccounted {finding : Finding} {before after : Progress}
    (derives : Derives setting finding before after) :
    finding.IsAccounted setting before.gathered after.gathered := by
  induction derives with
  | comment => exact .refl _ rfl
  | text read => exact .refl _ (textNodes_headsAll read)
  | imported isImport declared =>
    rw [Finding.IsAccounted, Node.visits_of_isImport setting.options _ isImport]
    exact declareImport_accounts declared
  | wrapped collected entered _ left ih =>
    have accounts := ih (elementDirectives_ok collected)
    rw [Resolve.Keeps.enterWrapping Resolve.isLasting_gathered _ _ _ _ _ entered,
      Resolve.Keeps.elementDirectives Resolve.isLasting_gathered _ _ _ _ _ collected,
      ← Resolve.Keeps.leaveWrapping Resolve.isLasting_gathered _ _ _ _ _ left] at accounts
    refine accounts.congr ?_
    rw [RenderNode.headsAll_singleton, leave_heads left, RenderNode.headsAll_singleton]
  | @group _ children _ _ _ _ reserved _ _ ih =>
    intro _
    rw [Node.visits_group setting.options children reserved
      (by rw [ReservedTag.isImport, reserved]; decide)]
    refine Accounts.congr ih ?_
    rw [RenderNode.headsAll_singleton, RenderNode.heads_group]
  | @element start children _ _ _ _ _ _ _ _ ordinary headRun props _ propsIh insideIh =>
    rintro ⟨written, read, same⟩
    have liftRun := props.isRun
    rw [Finding.IsRun, ← liftTemplates_eq_filter] at liftRun
    have built := isBuilt_of_runs read same headRun liftRun
    rw [Resolve.Keeps.elementHead Resolve.isLasting_gathered _ _ _ _ _ _ _ headRun] at propsIh
    rw [Node.visits_ordinary setting.options children ordinary]
    -- Props are resolved before the other children, wherever they stand.
    have both :=
      (Accounts.append propsIh insideIh).perm
      (Node.visitsAll_perm setting.options start.name children).symm
    exact both.element built
  | nil => exact .refl _ rfl
  | cons _ _ firstIh restIh =>
    rw [Finding.IsAccounted, Node.visitsAll]
    exact Accounts.append firstIh restIh
  | noProps => exact .refl _ rfl
  | @lift owner start children _ spec _ node _ before _ _ specified sole _ _ resolvedIh restIh =>
    let template : PropTemplate :=
      ⟨owner, spec.prop, spec.arguments, before.scope.outside spec.arguments, node, start.location⟩
    have isMade : template.IsMade setting.options (owner, start) := ⟨rfl, specified⟩
    have inside : Accounts setting _ [template.body] _ _ := resolvedIh
    rw [Finding.IsAccounted, Node.visitsAll,
      Node.visits_lifted setting.options (isTrigger_of_childSpec? specified children),
      Node.visitsAll_elements, (soleElement?_eq_some_iff.mp sole).1, List.flatMap_singleton]
    exact (inside.lift isMade).append restIh

/-- Of what stands at the top of a template the imports are accounted for first. -/
theorem surveyRoots_account {before after : Progress} {nodes : List Node}
    {roots : List (StartTag × List Node)}
    (run : (surveyRoots setting nodes).run before = .ok (roots, after)) :
    ∃ visits, Accounts setting visits [] before.gathered after.gathered ∧
      (visits ++ roots.flatMap fun root =>
        (Node.element root.1 root.2).visits setting.options none).Perm
        (Node.visitsAll setting.options none nodes) := by
  induction nodes generalizing before roots with
  | nil =>
    cases run
    exact ⟨[], .refl _ rfl, .nil⟩
  | cons node rest ih =>
    cases node with
    | comment value place => exact ih run
    | text parts place =>
      unfold surveyRoots at run
      split at run
      · exact ih run
      · cases run
    | element start children =>
      unfold surveyRoots at run
      split at run
      · next isImport =>
        obtain ⟨_, _, declared, later⟩ := Resolve.run_bind_ok.mp run
        obtain ⟨visits, accounts, same⟩ := ih later
        refine ⟨.declared start :: visits, (declareImport_accounts declared).append accounts, ?_⟩
        rw [Node.visitsAll, Node.visits_of_isImport setting.options children isImport]
        exact same.cons _
      · obtain ⟨more, _, later, run⟩ := Resolve.run_bind_ok.mp run
        cases run
        obtain ⟨visits, accounts, same⟩ := ih later
        refine ⟨visits, accounts, ?_⟩
        rw [Node.visitsAll, List.flatMap_cons]
        exact (List.perm_append_comm_assoc _ _ _).trans (same.append_left _)

/-- All that a template holds is accounted for in its tree. -/
theorem resolve_accounts {nodes : List Node} {tree : RenderTree} {warnings : List Warning}
    (resolved : resolve setting nodes = .ok (tree, warnings)) :
    Accounts setting (Node.visitsAll setting.options none nodes) [tree.root]
      (⟨setting.target.dependencies⟩, [])
      (tree.imports, tree.templates) := by
  obtain ⟨_, _, root, _, _, surveyed, derives, rfl, _⟩ := resolve_eq_ok_iff.mp resolved
  obtain ⟨visits, early, same⟩ := surveyRoots_account surveyed
  rw [List.flatMap_singleton] at same
  exact (early.append derives.isAccounted).perm same

/-- The templates of a tree are, one to one, the children that become props. -/
theorem resolve_templates {nodes : List Node} {tree : RenderTree} {warnings : List Warning}
    (resolved : resolve setting nodes = .ok (tree, warnings)) :
    Multiset.Rel (PropTemplate.IsMade setting.options)
      ↑((Node.visitsAll setting.options none nodes).filterMap Visit.prop?) ↑tree.templates := by
  obtain ⟨added, known, made, _⟩ := (resolve_accounts resolved).templates
  rw [List.nil_append] at known
  subst known
  exact made

/-- The elements of a tree are, one to one, those that the resolution comes by. -/
theorem resolve_heads {nodes : List Node} {tree : RenderTree} {warnings : List Warning}
    (resolved : resolve setting nodes = .ok (tree, warnings)) :
    Multiset.Rel (ElementHead.IsBuilt setting)
      ↑((Node.visitsAll setting.options none nodes).filterMap Visit.element?)
      ↑tree.heads := by
  obtain ⟨added, known, _, built⟩ := (resolve_accounts resolved).templates
  rw [List.nil_append] at known
  subst known
  rw [RenderTree.heads_eq]
  rwa [RenderNode.headsAll_singleton, Multiset.coe_add] at built

end

end RenderTemplate
