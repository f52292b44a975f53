import RenderTemplate.Proofs.Sites

namespace RenderTemplate

namespace Construct

/-- The code that stands for a construct where it is met, if its helper has this name. -/
def reference (name : String) : Construct → String
  | loop found => boundReference name found.outer
  | block found => name ++ ".apply(this, [" ++ ", ".intercalate found.outer ++ "])"
  | template found => boundReference name found.outer
  | handler found => boundReference name found.outer

/-- The helper for a construct. It returns the code of the body, except that a handler has its own
code. -/
def helper (name : String) (code : Option String) : Construct → Helper
  | loop found => { name := name, parameters := found.helperParameters, result := code }
  | block found =>
    let statements :=
      found.aliases.map fun entry => "var " ++ entry.name ++ " = " ++ entry.value ++ ";"
    { name := name, parameters := found.helperParameters, statements := statements, result := code }
  | template found => { name := name, parameters := found.helperParameters, result := code }
  | handler found =>
    match found.body with
    | .expression own =>
      { name := name, parameters := found.helperParameters, result := some (Text.trim own) }
    | .block own =>
      let statement := Text.trim own
      { name := name, parameters := found.helperParameters,
        statements := if statement.isEmpty then [] else [statement] }

end Construct

namespace Site

/-- The name of the helper for a site with a number. -/
def name (entry : Nat × Site) : String :=
  entry.2.construct.base ++ toString entry.1

/-- The code for the outermost sites. -/
def references (start : Nat) (sites : List Site) : List String :=
  (outermost start sites).map fun entry => entry.2.construct.reference (name entry)

theorem references_append (start : Nat) (sites more : List Site) :
    references start (sites ++ more) =
      references start sites ++ references (start + countAll sites) more := by
  rw [references, outermost_append, List.map_append]
  rfl

end Site

/-- The next of some references. -/
def nextReference : StateM (List String) String :=
  modifyGet fun references => (references.headD "", references.tail)

/-- The code for the value of a prop. A reference stands for a construct. -/
def PropValue.outline : PropValue → StateM (List String) String
  | .code value => return value
  | .handler _ | .template _ => nextReference

/-- The entries for props. -/
def RenderProp.outlines (props : List RenderProp) : StateM (List String) (List String) :=
  props.mapM fun prop => do return propertyKey prop.key ++ ": " ++ (← prop.value.outline)

namespace RenderNode

mutual

/-- The code of a node, in which references stand for its outermost constructs. -/
def outline (target : Target) : RenderNode → StateM (List String) String
  | element head children => do
    let entries ← RenderProp.outlines head.props
    let arguments ← outlineAll target children
    return target.call head.tag (Emit.propsCode entries head.spread) (ChildCode.arguments arguments)
  | group children => do
    let arguments ← outlineAll target children
    return "[" ++ ", ".intercalate (ChildCode.arguments arguments) ++ "]"
  | text value => return quote value
  | expression code => return parenthesize code
  | comment value => return blockComment value
  | conditional test body => do
    let code ← outline target body
    return "(" ++ test ++ ") ? (" ++ code ++ ") : null"
  | iteration loop _ => do
    let reference ← nextReference
    return "_.map(" ++ parenthesize loop.collection ++ ", " ++ reference ++ ")"
  | binding _ _ => nextReference

def outlineAll (target : Target) : List RenderNode → StateM (List String) (List ChildCode)
  | [] => return []
  | child :: rest => do
    let code ← outline target child
    return (if child.isComment then .comment code else .argument code) :: (← outlineAll target rest)

end

/-- The code of a node with these references. -/
def codeWith (target : Target) (node : RenderNode) (references : List String) : String :=
  ((node.outline target).run references).1

end RenderNode

/-- The helper for a site with a number. The references in it are those to the outermost sites
inside. It is added when the code of the body is known, that is after the helpers of all constructs
in the body. -/
def Site.helper (target : Target) (entry : Nat × Site) : Helper :=
  let code := entry.2.body.map fun body => body.codeWith target (references entry.1 entry.2.inside)
  entry.2.construct.helper (name entry) code

/-- Whether a computation adds the helpers for some sites as they are left, and gives what `outline`
gives with references to the outermost ones. -/
def Emit.Declares (target : Target) {α : Type} (work : Emit α) (outline : StateM (List String) α)
    (sites : List Site) :
    Prop :=
  ∀ emitted, (work.run emitted).2.counter = emitted.counter + Site.countAll sites ∧
    (work.run emitted).2.helpers =
      emitted.helpers ++ (Site.leftAll emitted.counter sites).map (Site.helper target) ∧
    ∀ more, outline.run (Site.references emitted.counter sites ++ more) =
      ((work.run emitted).1, more)

namespace Emit.Declares

section

variable {target : Target} {α β : Type} {work : Emit α} {outline : StateM (List String) α}
  {sites : List Site}

theorem pure (value : α) : Declares target (Pure.pure value) (Pure.pure value) [] := by
  intro emitted
  refine ⟨rfl, ?_, fun more => rfl⟩
  rw [Site.leftAll]
  exact (List.append_nil _).symm

/-- Two computations in a row declare the sites of the first and then those of the second. -/
theorem bind {next : α → Emit β} {nextOutline : α → StateM (List String) β} {more : List Site}
    (first : Declares target work outline sites)
    (second : ∀ value, Declares target (next value) (nextOutline value) more) :
    Declares target (work >>= next) (outline >>= nextOutline) (sites ++ more) := by
  intro emitted
  obtain ⟨counted, helpers, given⟩ := first emitted
  obtain ⟨countedMore, helpersMore, givenMore⟩ := second (work.run emitted).1 (work.run emitted).2
  rw [counted] at countedMore helpersMore givenMore
  refine ⟨?_, ?_, fun others => ?_⟩
  · rw [Site.countAll_append, ← Nat.add_assoc]
    exact countedMore
  · rw [Site.leftAll_append, List.map_append, ← List.append_assoc, ← helpers]
    exact helpersMore
  · rw [Site.references_append, List.append_assoc, StateT.run_bind, given]
    exact givenMore others

theorem map (declares : Declares target work outline sites) (make : α → β) :
    Declares target (work >>= fun value => Pure.pure (make value)) (outline >>= fun value =>
      Pure.pure (make value))
      sites := by
  have both := declares.bind fun value => pure (make value)
  rwa [List.append_nil] at both

/-- A reference stands for a construct. Its helper is numbered first and added last. -/
theorem helper (construct : Construct) (body : Option RenderNode)
    (declares : Declares target work outline sites) (result : α → Option String)
    (returned : ∀ references, result (outline.run references).1 =
      body.map (·.codeWith target references))
    (wrap : String → String) :
    Declares target
      (do
        let name ← freshName construct.base
        let value ← work
        addHelper (construct.helper name (result value))
        return wrap (construct.reference name))
      (do
        let reference ← nextReference
        return wrap reference)
      [.mk construct body sites] := by
  intro emitted
  obtain ⟨counted, helpers, given⟩ := declares { emitted with counter := emitted.counter + 1 }
  let value := (work.run { emitted with counter := emitted.counter + 1 }).1
  let name := construct.base ++ toString (emitted.counter + 1)
  -- The code of the body is what the helper would have with references to the sites inside.
  have own : Site.helper target (emitted.counter + 1, .mk construct body sites) =
      construct.helper name (result value) := by
    have same := congrArg Prod.fst (given [])
    rw [List.append_nil] at same
    rw [← show _ = value from same, returned]
    rfl
  refine ⟨?_, ?_, fun more => rfl⟩
  · rw [Site.countAll, Site.count, Site.countAll, Nat.add_zero, Nat.add_comm (Site.countAll sites),
      ← Nat.add_assoc]
    exact counted
  · rw [Site.leftAll, Site.left, Site.leftAll, List.append_nil, List.map_append, List.map_singleton,
      own, ← List.append_assoc]
    exact congrArg (· ++ [construct.helper name (result value)]) helpers

theorem handler (found : Handler) :
    Declares target (Emit.handler found) nextReference [.mk (.handler found) none []] := by
  obtain ⟨event, outer, parameters, body⟩ := found
  cases body with
  | expression code => exact helper (.handler _) none (pure ()) (fun _ => none) (fun _ => rfl) id
  | block code => exact helper (.handler _) none (pure ()) (fun _ => none) (fun _ => rfl) id

end

section

variable {target : Target} {enter : Nat → Emit String} {inside : Nat → List Site}

theorem propValue (value : PropValue)
    (declares : ∀ index, value.reference? = some index →
      Declares target (enter index) nextReference (inside index)) :
    Declares target (Emit.propValue enter value) value.outline (value.sites inside) := by
  cases value with
  | code code => exact pure code
  | handler found => exact handler found
  | template index => exact declares index rfl

theorem entries (props : List RenderProp)
    (declares : ∀ prop ∈ props, ∀ index, prop.value.reference? = some index →
      Declares target (enter index) nextReference (inside index)) :
    Declares target (Emit.entries enter props) (RenderProp.outlines props)
      (props.flatMap (·.value.sites inside)) := by
  induction props with
  | nil => exact pure []
  | cons prop props ih =>
    rw [List.forall_mem_cons] at declares
    have rest := ih declares.2
    unfold Emit.entries RenderProp.outlines at rest ⊢
    rw [List.mapM_cons, List.mapM_cons, List.flatMap_cons]
    exact ((propValue prop.value declares.1).map _).bind fun entry => rest.map _

mutual

/-- The helpers of a node are those for its sites, if this holds of the templates that it refers
to. -/
theorem node (found : RenderNode)
    (declares : ∀ index ∈ found.references,
      Declares target (enter index) nextReference (inside index)) :
    Declares target (Emit.node target enter found) (found.outline target) (found.sites inside) := by
  match found with
  | .element head children =>
    rw [RenderNode.references, List.forall_mem_append] at declares
    unfold Emit.node RenderNode.outline RenderNode.sites
    exact (entries head.props (List.forall_mem_filterMap.mp declares.1)).bind fun _ =>
      (all children declares.2).map _
  | .group children =>
    rw [RenderNode.references] at declares
    unfold Emit.node RenderNode.outline RenderNode.sites
    exact (all children declares).map _
  | .text value => unfold Emit.node RenderNode.outline RenderNode.sites; exact pure _
  | .expression code => unfold Emit.node RenderNode.outline RenderNode.sites; exact pure _
  | .comment value => unfold Emit.node RenderNode.outline RenderNode.sites; exact pure _
  | .conditional test body =>
    rw [RenderNode.references] at declares
    unfold Emit.node RenderNode.outline RenderNode.sites
    exact (node body declares).map _
  | .iteration loop body =>
    rw [RenderNode.references] at declares
    unfold Emit.node RenderNode.outline RenderNode.sites
    exact helper (.loop loop) (some body) (node body declares) some (fun _ => rfl)
      fun reference => "_.map(" ++ parenthesize loop.collection ++ ", " ++ reference ++ ")"
  | .binding block body =>
    rw [RenderNode.references] at declares
    unfold Emit.node RenderNode.outline RenderNode.sites
    exact helper (.block block) (some body) (node body declares) some (fun _ => rfl) id

theorem all (nodes : List RenderNode)
    (declares : ∀ index ∈ RenderNode.referencesAll nodes,
      Declares target (enter index) nextReference (inside index)) :
    Declares target (Emit.all target enter nodes) (RenderNode.outlineAll target nodes)
      (RenderNode.sitesAll inside nodes) := by
  match nodes with
  | [] => unfold Emit.all RenderNode.outlineAll RenderNode.sitesAll; exact pure _
  | child :: rest =>
    rw [RenderNode.referencesAll, List.forall_mem_append] at declares
    unfold Emit.all RenderNode.outlineAll RenderNode.sitesAll
    exact (node child declares.1).bind fun _ => (all rest declares.2).map _

end

end

/-- Each template has a helper of its own, since the bound is not reached. -/
theorem template (target : Target) {templates : List PropTemplate} (founded : IsFounded templates)
    {depth index : Nat} (below : index < depth) (known : index < templates.length) :
    Declares target (Emit.template target templates depth index) nextReference
      (RenderTree.templateSites templates depth index) := by
  induction index using Nat.strongRecOn generalizing depth with
  | ind index ih =>
    obtain ⟨depth, rfl⟩ := Nat.exists_eq_add_one_of_ne_zero (Nat.ne_zero_of_lt below)
    have found : templates[index]? = some (templates.get ⟨index, known⟩) :=
      List.getElem?_eq_getElem known
    rw [template_eq_lifted found, RenderTree.templateSites.eq_def, found]
    -- The body refers to earlier templates only, for which the bound is still large enough.
    refine helper (.template _) (some _) (node _ fun inner member => ?_) some (fun _ => rfl) id
    have earlier := founded index _ found inner member
    exact ih inner earlier (by omega) (by omega)

end Emit.Declares

/-- The code of a tree is made of its sites: the helpers stand in the order in which sites are left,
and refer to those inside of them. -/
theorem RenderTree.emit_eq_sites {tree : RenderTree} (founded : Emit.IsFounded tree.templates)
    (inRange : ∀ index ∈ tree.root.references, index < tree.templates.length) (target : Target) :
    tree.emit target = (tree.root.codeWith target (Site.references 0 tree.sites),
      (Site.leftAll 0 tree.sites).map (Site.helper target)) := by
  have declares := Emit.Declares.node tree.root fun index member =>
    Emit.Declares.template target founded (inRange index member) (inRange index member)
  obtain ⟨_, helpers, given⟩ := declares {}
  have expression := congrArg Prod.fst (given [])
  rw [List.append_nil] at expression
  exact Prod.ext expression.symm helpers

theorem Site.name_helper (target : Target) (entry : Nat × Site) :
    (Site.helper target entry).name = Site.name entry := by
  obtain ⟨number, construct, body, inside⟩ := entry
  cases construct with
  | loop found => rfl
  | block found => rfl
  | template found => rfl
  | handler found =>
    obtain ⟨event, outer, parameters, code⟩ := found
    cases code with
    | expression code => rfl
    | block code => rfl

/-- Helpers stand inside out. The constructs that are met in a resolved tree are those of its sites,
where the site of a template is met at each reference to it. Sites are numbered from 1 on in the
order in which they are entered, and there is one helper for each, with its number in its name, in
the order in which they are left. So all helpers for what is inside of a construct stand before the
helper for the construct, and with them those that its code refers to. -/
theorem helpers_stand_inside_out {setting : Setting} {nodes : List Markup.Node} {tree : RenderTree}
    {warnings : List Warning} (resolved : resolve setting nodes = .ok (tree, warnings))
    (target : Target) :
    (∀ construct, (∃ entry ∈ Site.enteredAll 0 tree.sites, entry.2.construct = construct) ↔
      tree.IsMet construct) ∧
    (∀ index found, tree.templates[index]? = some found →
      RenderTree.templateSites tree.templates tree.templates.length index =
        [found.site (RenderTree.templateSites tree.templates tree.templates.length)]) ∧
    (Site.enteredAll 0 tree.sites).map (·.1) = List.range' 1 (tree.emit target).2.length ∧
    (Site.leftAll 0 tree.sites).Perm (Site.enteredAll 0 tree.sites) ∧
    tree.emit target = (tree.root.codeWith target (Site.references 0 tree.sites),
      (Site.leftAll 0 tree.sites).map (Site.helper target)) ∧
    tree.helperNames target = (Site.leftAll 0 tree.sites).map Site.name ∧
    ∀ front entry rest, Site.leftAll 0 tree.sites = front ++ entry :: rest →
      Site.outermost entry.1 entry.2.inside ⊆ Site.within entry ∧ Site.within entry ⊆ front := by
  have lifted := resolve_lifts resolved
  have founded : Emit.IsFounded tree.templates := by
    intro position template found index member
    have below := lifted.founded position template found index member
    rwa [Nat.zero_add] at below
  have inRange : ∀ index ∈ tree.root.references, index < tree.templates.length := by
    intro index member
    have listed := lifted.linear.subset (List.mem_append_left _ member)
    rw [← List.range_eq_range'] at listed
    exact List.mem_range.mp listed
  have emitted := RenderTree.emit_eq_sites founded inRange target
  have perm := Site.leftAll_perm 0 tree.sites
  refine ⟨RenderTree.exists_site_iff founded, fun _ _ => RenderTree.templateSites_eq founded, ?_,
    perm, emitted, ?_, ?_⟩
  · have numbers := Site.map_fst_enteredAll 0 tree.sites
    have count := congrArg List.length numbers
    rw [List.length_map, List.length_range', ← perm.length_eq] at count
    rw [numbers, emitted, List.length_map, count]
  · rw [RenderTree.helperNames, emitted, List.map_map]
    exact List.map_congr_left fun entry _ => Site.name_helper target entry
  · intro front entry rest split
    exact ⟨Site.outermost_subset_enteredAll _ _,
      Site.isInsideOut_leftAll 0 tree.sites front entry rest split⟩

/-- A list in a loop, with a handler and a template, in which there is a scope. -/
def pickableList : List Markup.Node :=
  [.element
    { name := "List", attributes := [⟨"rt-repeat", some "item in items", {}⟩,
    ⟨"onClick", some "() => pick(item)", {}⟩] }
    [templateChild "row"
      (.element { name := "li", attributes := [⟨"rt-scope", some "item.id as id", {}⟩] } [])]]

theorem pickableList_inside_out :
    ∃ tree warnings, resolve ⟨.standard, {}, .web⟩ pickableList = .ok (tree, warnings) ∧
      (Site.enteredAll 0 tree.sites).map Site.name =
        ["repeatItem1", "onClick2", "row3", "scopeId4"] ∧
      tree.helperNames .web = ["onClick2", "scopeId4", "row3", "repeatItem1"] ∧
      tree.helperNames .web = (Site.leftAll 0 tree.sites).map Site.name ∧
      (Site.enteredAll 0 tree.sites).map (·.1) = List.range' 1 (tree.emit .web).2.length ∧
      ∀ front entry rest, Site.leftAll 0 tree.sites = front ++ entry :: rest →
        Site.outermost entry.1 entry.2.inside ⊆ Site.within entry ∧ Site.within entry ⊆ front := by
  have evaluated : ((resolve ⟨.standard, {}, .web⟩ pickableList).toOption.map fun pair =>
      ((Site.enteredAll 0 pair.1.sites).map Site.name, pair.1.helperNames .web)) =
      some (["repeatItem1", "onClick2", "row3", "scopeId4"],
        ["onClick2", "scopeId4", "row3", "repeatItem1"]) := by
    decide +kernel
  obtain ⟨⟨tree, warnings⟩, resolved, seen⟩ := exists_ok_of_toOption evaluated
  obtain ⟨_, _, numbers, _, _, names, before⟩ := helpers_stand_inside_out resolved .web
  exact ⟨tree, warnings, resolved, (Prod.mk.inj seen).1, (Prod.mk.inj seen).2, names, numbers,
    before⟩

end RenderTemplate
