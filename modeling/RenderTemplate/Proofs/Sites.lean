import RenderTemplate.Proofs.HelperNames
import RenderTemplate.Proofs.References

namespace RenderTemplate

/-- A construct where it is met, with its body and what is met there. A traversal enters a site
before those inside of it and leaves it after them. -/
inductive Site where
  | mk (construct : Construct) (body : Option RenderNode) (inside : List Site)

namespace Site

def construct : Site → Construct
  | mk construct _ _ => construct

def body : Site → Option RenderNode
  | mk _ body _ => body

def inside : Site → List Site
  | mk _ _ inside => inside

mutual

/-- The number of constructs that are met at a site. -/
def count : Site → Nat
  | mk _ _ inside => countAll inside + 1

def countAll : List Site → Nat
  | [] => 0
  | site :: rest => site.count + countAll rest

end

mutual

/-- The sites with the numbers after `start`, in the order in which they are entered. -/
def entered (start : Nat) : Site → List (Nat × Site)
  | mk construct body inside =>
    (start + 1, mk construct body inside) :: enteredAll (start + 1) inside

def enteredAll (start : Nat) : List Site → List (Nat × Site)
  | [] => []
  | site :: rest => site.entered start ++ enteredAll (start + site.count) rest

end

mutual

/-- The sites with the same numbers, in the order in which they are left. -/
def left (start : Nat) : Site → List (Nat × Site)
  | mk construct body inside =>
    leftAll (start + 1) inside ++ [(start + 1, mk construct body inside)]

def leftAll (start : Nat) : List Site → List (Nat × Site)
  | [] => []
  | site :: rest => site.left start ++ leftAll (start + site.count) rest

end

/-- The outermost sites with their numbers. -/
def outermost (start : Nat) : List Site → List (Nat × Site)
  | [] => []
  | site :: rest => (start + 1, site) :: outermost (start + site.count) rest

mutual

/-- The constructs that are met at a site. -/
def constructs : Site → List Construct
  | mk construct _ inside => construct :: constructsAll inside

def constructsAll : List Site → List Construct
  | [] => []
  | site :: rest => site.constructs ++ constructsAll rest

end

/-- The sites inside of another one, with their numbers. -/
def within (entry : Nat × Site) : List (Nat × Site) :=
  enteredAll entry.1 entry.2.inside

theorem countAll_append (sites more : List Site) :
    countAll (sites ++ more) = countAll sites + countAll more := by
  induction sites with
  | nil => rw [List.nil_append, countAll, Nat.zero_add]
  | cons site rest ih => rw [List.cons_append, countAll, countAll, ih, Nat.add_assoc]

theorem leftAll_append (start : Nat) (sites more : List Site) :
    leftAll start (sites ++ more) =
      leftAll start sites ++ leftAll (start + countAll sites) more := by
  induction sites generalizing start with
  | nil => rw [List.nil_append, leftAll, countAll, List.nil_append, Nat.add_zero]
  | cons site rest ih =>
    rw [List.cons_append, leftAll, leftAll, countAll, ih, List.append_assoc, Nat.add_assoc]

theorem outermost_append (start : Nat) (sites more : List Site) :
    outermost start (sites ++ more) =
      outermost start sites ++ outermost (start + countAll sites) more := by
  induction sites generalizing start with
  | nil => rw [List.nil_append, outermost, countAll, List.nil_append, Nat.add_zero]
  | cons site rest ih =>
    rw [List.cons_append, outermost, outermost, countAll, ih, List.cons_append, Nat.add_assoc]

/-- The constructs of sites are listed in the order of the sites. -/
theorem constructsAll_append (sites more : List Site) :
    constructsAll (sites ++ more) = constructsAll sites ++ constructsAll more := by
  induction sites with
  | nil => rw [List.nil_append, constructsAll, List.nil_append]
  | cons site rest ih => rw [List.cons_append, constructsAll, constructsAll, ih, List.append_assoc]

theorem constructsAll_singleton (construct : Construct) (body : Option RenderNode)
    (inside : List Site) :
    constructsAll [mk construct body inside] = construct :: constructsAll inside := by
  rw [constructsAll, constructs, constructsAll, List.append_nil]

mutual

/-- Sites have consecutive numbers in the order in which they are entered. -/
theorem map_fst_entered (start : Nat) (site : Site) :
    (site.entered start).map (·.1) = List.range' (start + 1) site.count := by
  match site with
  | mk construct body inside =>
    rw [entered, List.map_cons, map_fst_enteredAll, count, List.range'_succ]

theorem map_fst_enteredAll (start : Nat) (sites : List Site) :
    (enteredAll start sites).map (·.1) = List.range' (start + 1) (countAll sites) := by
  match sites with
  | [] => rw [enteredAll, countAll]; rfl
  | site :: rest =>
    rw [enteredAll, List.map_append, map_fst_entered, map_fst_enteredAll, countAll,
      Nat.add_right_comm, List.range'_append_1]

end

mutual

/-- The constructs of a site are met in the order in which they are entered. -/
theorem map_construct_entered (start : Nat) (site : Site) :
    (site.entered start).map (·.2.construct) = site.constructs := by
  match site with
  | mk construct body inside =>
    rw [entered, List.map_cons, map_construct_enteredAll, constructs]; rfl

theorem map_construct_enteredAll (start : Nat) (sites : List Site) :
    (enteredAll start sites).map (·.2.construct) = constructsAll sites := by
  match sites with
  | [] => rw [enteredAll, constructsAll]; rfl
  | site :: rest =>
    rw [enteredAll, List.map_append, map_construct_entered, map_construct_enteredAll, constructsAll]

end

mutual

/-- Each site that is entered is left once. -/
theorem left_perm (start : Nat) (site : Site) : (site.left start).Perm (site.entered start) := by
  match site with
  | mk construct body inside =>
    rw [left, entered]
    exact (List.perm_append_singleton _ _).trans ((leftAll_perm (start + 1) inside).cons _)

theorem leftAll_perm (start : Nat) (sites : List Site) :
    (leftAll start sites).Perm (enteredAll start sites) := by
  match sites with
  | [] => rw [leftAll, enteredAll]
  | site :: rest =>
    rw [leftAll, enteredAll]
    exact (left_perm start site).append (leftAll_perm _ rest)

end

theorem outermost_subset_enteredAll (start : Nat) (sites : List Site) :
    outermost start sites ⊆ enteredAll start sites := by
  induction sites generalizing start with
  | nil => exact List.nil_subset _
  | cons site rest ih =>
    cases site with
    | mk construct body inside =>
      rw [outermost, enteredAll, entered, List.cons_append]
      exact List.cons_subset_cons _ (List.subset_append_of_subset_right _ (ih _))

/-- Whether all sites inside of another one stand before it. -/
def IsInsideOut (entries : List (Nat × Site)) : Prop :=
  ∀ front entry rest, entries = front ++ entry :: rest → within entry ⊆ front

namespace IsInsideOut

theorem nil : IsInsideOut [] := by
  intro front entry rest split
  cases List.append_ne_nil_of_right_ne_nil front (List.cons_ne_nil entry rest) split.symm

/-- A list goes on inside out if what is within each new entry comes before it. -/
theorem append_of {entries more : List (Nat × Site)} (first : IsInsideOut entries)
    (second : ∀ front entry rest, more = front ++ entry :: rest → within entry ⊆ entries ++ front) :
    IsInsideOut (entries ++ more) := by
  intro front entry rest split
  rcases List.append_eq_append_iff.mp split with ⟨middle, rfl, later⟩ | ⟨middle, rfl, later⟩
  · exact second middle entry rest later
  · cases middle with
    | nil =>
      -- The entry is the first of `more`.
      have member := second [] entry rest later.symm
      rwa [List.append_nil, List.append_nil] at member
    | cons head middle =>
      obtain ⟨rfl, -⟩ := List.cons.inj later
      exact first front entry middle rfl

theorem append {entries more : List (Nat × Site)} (first : IsInsideOut entries)
    (second : IsInsideOut more) :
    IsInsideOut (entries ++ more) :=
  first.append_of fun front entry rest split =>
    List.subset_append_of_subset_right _ (second front entry rest split)

theorem concat {entries : List (Nat × Site)} (first : IsInsideOut entries) {last : Nat × Site}
    (before : within last ⊆ entries) : IsInsideOut (entries ++ [last]) := by
  refine first.append_of fun front entry rest split => ?_
  obtain ⟨rfl, same⟩ | ⟨-, absent⟩ := List.singleton_eq_append_iff.mp split
  · cases same
    rwa [List.append_nil]
  · cases absent

end IsInsideOut

mutual

/-- A site is left after those inside of it. -/
theorem isInsideOut_left (start : Nat) (site : Site) : IsInsideOut (site.left start) := by
  match site with
  | mk construct body inside =>
    rw [left]
    exact (isInsideOut_leftAll (start + 1) inside).concat
      (leftAll_perm (start + 1) inside).symm.subset

theorem isInsideOut_leftAll (start : Nat) (sites : List Site) :
    IsInsideOut (leftAll start sites) := by
  match sites with
  | [] => rw [leftAll]; exact .nil
  | site :: rest =>
    rw [leftAll]
    exact (isInsideOut_left start site).append (isInsideOut_leftAll _ rest)

end

end Site

/-- The sites of the value of a prop. `enter` gives those of the template with an index. -/
def PropValue.sites (enter : Nat → List Site) : PropValue → List Site
  | .code _ => []
  | .handler found => [.mk (.handler found) none []]
  | .template index => enter index

namespace RenderNode

mutual

/-- The sites of a node: those of its props come before those of its children. -/
def sites (enter : Nat → List Site) : RenderNode → List Site
  | element head children => head.props.flatMap (·.value.sites enter) ++ sitesAll enter children
  | group children => sitesAll enter children
  | text _ | expression _ | comment _ => []
  | conditional _ body => sites enter body
  | iteration loop body => [.mk (.loop loop) (some body) (sites enter body)]
  | binding block body => [.mk (.block block) (some body) (sites enter body)]

def sitesAll (enter : Nat → List Site) : List RenderNode → List Site
  | [] => []
  | node :: rest => sites enter node ++ sitesAll enter rest

end

end RenderNode

namespace PropValue

variable {enter other : Nat → List Site}

theorem sites_congr (value : PropValue)
    (same : ∀ index, value.reference? = some index → enter index = other index) :
    value.sites enter = value.sites other := by
  cases value with
  | code code => rfl
  | handler found => rfl
  | template index => exact same index rfl

theorem constructsAll_sites (value : PropValue) :
    Site.constructsAll (value.sites enter) = value.constructs fun index =>
      Site.constructsAll (enter index) := by
  cases value with
  | code code => rfl
  | handler found => rfl
  | template index => rfl

end PropValue

theorem Site.constructsAll_flatMap {α : Type} (items : List α) (sites : α → List Site) :
    constructsAll (items.flatMap sites) = items.flatMap fun item => constructsAll (sites item) := by
  induction items with
  | nil => rw [List.flatMap_nil, constructsAll, List.flatMap_nil]
  | cons item rest ih => rw [List.flatMap_cons, constructsAll_append, ih, List.flatMap_cons]

namespace RenderNode

variable {enter other : Nat → List Site}

mutual

/-- The sites of a node depend on those of the templates only that it refers to. -/
theorem sites_congr (node : RenderNode)
    (same : ∀ index ∈ node.references, enter index = other index) :
    node.sites enter = node.sites other := by
  match node with
  | .element head children =>
    rw [references, List.forall_mem_append] at same
    have props := List.forall_mem_filterMap.mp same.1
    rw [sites, sites, sitesAll_congr children same.2]
    rw [List.flatMap_congr fun prop member => prop.value.sites_congr (props prop member)]
  | .group children =>
    rw [references] at same
    rw [sites, sites, sitesAll_congr children same]
  | .text value => rw [sites, sites]
  | .expression code => rw [sites, sites]
  | .comment value => rw [sites, sites]
  | .conditional test body =>
    rw [references] at same
    rw [sites, sites, sites_congr body same]
  | .iteration loop body =>
    rw [references] at same
    rw [sites, sites, sites_congr body same]
  | .binding block body =>
    rw [references] at same
    rw [sites, sites, sites_congr body same]

theorem sitesAll_congr (nodes : List RenderNode)
    (same : ∀ index ∈ referencesAll nodes, enter index = other index) :
    sitesAll enter nodes = sitesAll other nodes := by
  match nodes with
  | [] => rw [sitesAll, sitesAll]
  | node :: rest =>
    rw [referencesAll, List.forall_mem_append] at same
    rw [sitesAll, sitesAll, sites_congr node same.1, sitesAll_congr rest same.2]

end

mutual

theorem constructsAll_sites (node : RenderNode) :
    Site.constructsAll (node.sites enter) = node.constructs fun index =>
      Site.constructsAll (enter index) := by
  match node with
  | .element head children =>
    rw [sites, constructs, Site.constructsAll_append, constructsAll_sitesAll children,
      Site.constructsAll_flatMap]
    rw [List.flatMap_congr fun prop _ => prop.value.constructsAll_sites]
  | .group children => rw [sites, constructs, constructsAll_sitesAll children]
  | .text value => rw [sites, constructs, Site.constructsAll]
  | .expression code => rw [sites, constructs, Site.constructsAll]
  | .comment value => rw [sites, constructs, Site.constructsAll]
  | .conditional test body => rw [sites, constructs, constructsAll_sites body]
  | .iteration loop body =>
    rw [sites, constructs, Site.constructsAll_singleton, constructsAll_sites body]
  | .binding block body =>
    rw [sites, constructs, Site.constructsAll_singleton, constructsAll_sites body]

theorem constructsAll_sitesAll (nodes : List RenderNode) :
    Site.constructsAll (sitesAll enter nodes) =
      constructsAll (fun index => Site.constructsAll (enter index)) nodes := by
  match nodes with
  | [] => rw [sitesAll, constructsAll, Site.constructsAll]
  | node :: rest =>
    rw [sitesAll, constructsAll, Site.constructsAll_append, constructsAll_sites node,
      constructsAll_sitesAll rest]

end

theorem constructs_subset_constructsAll {inside : Nat → List Construct} {nodes : List RenderNode}
    {node : RenderNode} (member : node ∈ nodes) :
    node.constructs inside ⊆ constructsAll inside nodes := by
  induction nodes with
  | nil => cases member
  | cons first rest ih =>
    rw [constructsAll]
    rcases List.mem_cons.mp member with rfl | later
    · exact List.subset_append_left _ _
    · exact List.subset_append_of_subset_right _ (ih later)

end RenderNode

/-- The site of a template where it is referred to. -/
def PropTemplate.site (enter : Nat → List Site) (template : PropTemplate) : Site :=
  .mk (.template template) (some template.body) (template.body.sites enter)

namespace RenderTree

/-- The sites of the template with an index, which refers to others at most `depth` deep. -/
def templateSites (templates : List PropTemplate) (depth index : Nat) : List Site :=
  match depth, templates[index]? with
  | depth + 1, some found => [found.site (templateSites templates depth)]
  | _, _ => []

/-- The sites of a tree. -/
def sites (tree : RenderTree) : List Site :=
  tree.root.sites (templateSites tree.templates tree.templates.length)

/-- The sites of a template have the constructs of the template. -/
theorem constructsAll_templateSites (templates : List PropTemplate) (depth index : Nat) :
    Site.constructsAll (templateSites templates depth index) =
      templateConstructs templates depth index := by
  induction depth generalizing index with
  | zero =>
    rw [templateSites.eq_def, templateConstructs.eq_def]
    exact Site.constructsAll.eq_1
  | succ depth ih =>
    rw [templateSites.eq_def, templateConstructs.eq_def]
    cases templates[index]? with
    | none => exact Site.constructsAll.eq_1
    | some found =>
      dsimp only
      rw [PropTemplate.site, Site.constructsAll_singleton, RenderNode.constructsAll_sites,
        funext ih]

theorem constructsAll_sites (tree : RenderTree) :
    Site.constructsAll tree.sites = tree.constructs := by
  rw [sites, RenderNode.constructsAll_sites, funext (constructsAll_templateSites _ _)]
  rfl

/-- Any two bounds give the same sites for a template with an index below them. -/
theorem templateSites_depth {templates : List PropTemplate} (founded : Emit.IsFounded templates)
    {index depth more : Nat} (below : index < depth) (larger : index < more) :
    templateSites templates depth index = templateSites templates more index := by
  induction index using Nat.strongRecOn generalizing depth more with
  | ind index ih =>
    obtain ⟨depth, rfl⟩ := Nat.exists_eq_add_one_of_ne_zero (Nat.ne_zero_of_lt below)
    obtain ⟨more, rfl⟩ := Nat.exists_eq_add_one_of_ne_zero (Nat.ne_zero_of_lt larger)
    rw [templateSites.eq_def, templateSites.eq_def]
    cases known : templates[index]? with
    | none => rfl
    | some found =>
      dsimp only
      rw [PropTemplate.site, PropTemplate.site, found.body.sites_congr fun inner member => ?_]
      have earlier := founded index found known inner member
      exact ih inner earlier (by omega) (by omega)

/-- The sites of templates, without a bound on how deep they refer to each other. -/
theorem templateSites_eq {templates : List PropTemplate} (founded : Emit.IsFounded templates)
    {index : Nat} {found : PropTemplate} (known : templates[index]? = some found) :
    templateSites templates templates.length index =
      [found.site (templateSites templates templates.length)] := by
  have bound : index < templates.length := (List.getElem?_eq_some_iff.mp known).1
  rw [templateSites_depth founded bound (Nat.lt_succ_of_lt bound), templateSites.eq_def, known]

/-- The constructs of templates, without a bound on how deep they refer to each other. -/
theorem templateConstructs_eq {templates : List PropTemplate} (founded : Emit.IsFounded templates)
    {index : Nat} {found : PropTemplate} (known : templates[index]? = some found) :
    templateConstructs templates templates.length index =
      .template found :: found.body.constructs (templateConstructs templates templates.length) := by
  rw [← constructsAll_templateSites, templateSites_eq founded known, PropTemplate.site,
    Site.constructsAll_singleton, RenderNode.constructsAll_sites,
    funext (constructsAll_templateSites _ _)]

section

variable {tree : RenderTree} {environment : List String} {scope : Scope}

/-- What is reached has no constructs but those of the tree. -/
theorem Reaches.constructs_subset (founded : Emit.IsFounded tree.templates) {node : RenderNode}
    (here : tree.Reaches environment scope node) :
    node.constructs (templateConstructs tree.templates tree.templates.length)
      ⊆ tree.constructs := by
  induction here with
  | root => exact fun _ member => member
  | child _ member ih =>
    rw [RenderNode.constructs] at ih
    exact fun _ below =>
      ih (List.mem_append_right _ (RenderNode.constructs_subset_constructsAll member below))
  | grouped _ member ih =>
    rw [RenderNode.constructs] at ih
    exact fun _ below => ih (RenderNode.constructs_subset_constructsAll member below)
  | tested _ ih =>
    rw [RenderNode.constructs] at ih
    exact ih
  | repeated _ ih =>
    rw [RenderNode.constructs] at ih
    exact fun _ below => ih (List.mem_cons_of_mem _ below)
  | bound _ ih =>
    rw [RenderNode.constructs] at ih
    exact fun _ below => ih (List.mem_cons_of_mem _ below)
  | lifted _ member known ih =>
    rw [RenderNode.constructs] at ih
    intro construct below
    refine ih (List.mem_append_left _ (List.mem_flatMap.mpr ⟨_, member, ?_⟩))
    rw [PropValue.constructs, templateConstructs_eq founded known]
    exact List.mem_cons_of_mem _ below

theorem Meets.mem_constructs (founded : Emit.IsFounded tree.templates) {construct : Construct}
    (met : tree.Meets environment scope construct) : construct ∈ tree.constructs := by
  cases met with
  | loop here =>
    refine here.constructs_subset founded ?_
    rw [RenderNode.constructs]
    exact List.mem_cons_self
  | block here =>
    refine here.constructs_subset founded ?_
    rw [RenderNode.constructs]
    exact List.mem_cons_self
  | template here member known =>
    refine here.constructs_subset founded ?_
    rw [RenderNode.constructs]
    refine List.mem_append_left _ (List.mem_flatMap.mpr ⟨_, member, ?_⟩)
    rw [PropValue.constructs, templateConstructs_eq founded known]
    exact List.mem_cons_self
  | handler here member =>
    refine here.constructs_subset founded ?_
    rw [RenderNode.constructs]
    exact List.mem_append_left _ (List.mem_flatMap.mpr ⟨_, member, List.mem_singleton_self _⟩)

end

/-- The sites of a tree are those of the constructs that are met in it. -/
theorem exists_site_iff {tree : RenderTree} (founded : Emit.IsFounded tree.templates)
    (construct : Construct) :
    (∃ entry ∈ Site.enteredAll 0 tree.sites, entry.2.construct = construct) ↔
      tree.IsMet construct := by
  rw [← List.mem_map, Site.map_construct_enteredAll, constructsAll_sites]
  exact ⟨isMet_of_mem, fun ⟨_, _, met⟩ => met.mem_constructs founded⟩

end RenderTree

end RenderTemplate
