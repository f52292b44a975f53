import RenderTemplate.Proofs.Closure

namespace RenderTemplate

/-- The code that a lambda runs. -/
def LambdaBody.code : LambdaBody → String
  | expression code | block code => code

/-- The code that the value of a prop is. -/
def PropValue.code? : PropValue → Option String
  | .code text => some text
  | _ => none

/-- The handler that the value of a prop is. -/
def PropValue.handler? : PropValue → Option Construct
  | .handler found => some (.handler found)
  | _ => none

/-- The name of a tag. -/
def TagRef.name : TagRef → String
  | document name | native name | component name => name

namespace Construct

/-- The names that stand in the code of a construct. -/
def words : Construct → List String
  | loop found => found.item :: found.index :: found.outer
  | block found => found.aliases.map (·.name) ++ found.outer
  | template found => found.prop :: (found.arguments ++ found.outer)
  | handler found => found.event :: found.outer

/-- What a template wrote that stands inside the helper for a construct. -/
def codes : Construct → List String
  | block found => found.aliases.map (·.value)
  | handler found => found.body.code :: found.parameters
  | loop _ | template _ => []

end Construct

namespace RenderNode

/-- What a template wrote for a node itself. -/
def codes : RenderNode → List String
  | element head _ => head.props.filterMap (·.value.code?) ++ head.spread.toList
  | expression code => [code]
  | conditional test _ => [test]
  | iteration loop _ => [loop.collection]
  | group _ | text _ | comment _ | binding _ _ => []

/-- The constructs of a node itself. -/
def ownConstructs : RenderNode → List Construct
  | element head _ => head.props.filterMap (·.value.handler?)
  | iteration loop _ => [.loop loop]
  | binding block _ => [.block block]
  | _ => []

/-- The tag of a node. -/
def tag? : RenderNode → Option TagRef
  | element head _ => some head.tag
  | _ => none

mutual

/-- A node and all nodes inside of it. -/
def nodes : RenderNode → List RenderNode
  | element head children => element head children :: nodesAll children
  | group children => group children :: nodesAll children
  | text value => [text value]
  | expression code => [expression code]
  | comment value => [comment value]
  | conditional test body => conditional test body :: nodes body
  | iteration loop body => iteration loop body :: nodes body
  | binding block body => binding block body :: nodes body

def nodesAll : List RenderNode → List RenderNode
  | [] => []
  | node :: rest => nodes node ++ nodesAll rest

end

theorem nodesAll_singleton (node : RenderNode) : nodesAll [node] = node.nodes := by
  rw [nodesAll, nodesAll, List.append_nil]

theorem nodesAll_append (nodes more : List RenderNode) :
    nodesAll (nodes ++ more) = nodesAll nodes ++ nodesAll more := by
  induction nodes with
  | nil => rfl
  | cons node nodes ih => rw [List.cons_append, nodesAll, nodesAll, ih, List.append_assoc]

theorem mem_nodes_self (node : RenderNode) : node ∈ node.nodes := by
  cases node <;> simp [nodes]

theorem nodes_subset_nodesAll {children : List RenderNode} {child : RenderNode}
    (member : child ∈ children) :
    child.nodes ⊆ nodesAll children := by
  induction children with
  | nil => cases member
  | cons first rest ih =>
    rw [nodesAll]
    rcases List.mem_cons.mp member with rfl | member
    · exact List.subset_append_left _ _
    · exact List.Subset.trans (ih member) (List.subset_append_right _ _)

/-- A node and those below it contain all that is in one of them. -/
theorem subset_of_mem_cons {node inner : RenderNode} {below : List RenderNode}
    (same : node.nodes = node :: below) (member : inner ∈ node.nodes)
    (closed : inner ∈ below → inner.nodes ⊆ below) : inner.nodes ⊆ node.nodes := by
  rw [same] at member
  rcases List.mem_cons.mp member with rfl | inside
  · exact List.Subset.refl _
  · rw [same]
    exact List.Subset.trans (closed inside) (List.subset_cons_self _ _)

mutual

/-- What is inside a node that is inside another one is inside that. -/
theorem nodes_subset (node : RenderNode) {inner : RenderNode} (member : inner ∈ node.nodes) :
    inner.nodes ⊆ node.nodes := by
  match node with
  | .element head children =>
    exact subset_of_mem_cons (by rw [nodes]) member (nodesAll_subset children)
  | .group children => exact subset_of_mem_cons (by rw [nodes]) member (nodesAll_subset children)
  | .text value =>
    exact subset_of_mem_cons (by rw [nodes]) member fun none => absurd none List.not_mem_nil
  | .expression code =>
    exact subset_of_mem_cons (by rw [nodes]) member fun none => absurd none List.not_mem_nil
  | .comment value =>
    exact subset_of_mem_cons (by rw [nodes]) member fun none => absurd none List.not_mem_nil
  | .conditional test body => exact subset_of_mem_cons (by rw [nodes]) member (nodes_subset body)
  | .iteration loop body => exact subset_of_mem_cons (by rw [nodes]) member (nodes_subset body)
  | .binding block body => exact subset_of_mem_cons (by rw [nodes]) member (nodes_subset body)

theorem nodesAll_subset (children : List RenderNode) {inner : RenderNode}
    (member : inner ∈ nodesAll children) :
    inner.nodes ⊆ nodesAll children := by
  match children with
  | [] =>
    rw [nodesAll] at member
    cases member
  | child :: rest =>
    rw [nodesAll] at member ⊢
    rcases List.mem_append.mp member with first | later
    · exact List.Subset.trans (nodes_subset child first) (List.subset_append_left _ _)
    · exact List.Subset.trans (nodesAll_subset rest later) (List.subset_append_right _ _)

end

end RenderNode

namespace RenderTree

/-- All nodes of a tree. -/
def nodes (tree : RenderTree) : List RenderNode :=
  tree.root.nodes ++ tree.templates.flatMap (·.body.nodes)

theorem nodes_subset {tree : RenderTree} {node : RenderNode} (member : node ∈ tree.nodes) :
    node.nodes ⊆ tree.nodes := by
  rcases List.mem_append.mp member with inRoot | inTemplate
  · exact List.Subset.trans (tree.root.nodes_subset inRoot) (List.subset_append_left _ _)
  · obtain ⟨template, listed, inside⟩ := List.mem_flatMap.mp inTemplate
    intro inner below
    exact List.mem_append_right _
      (List.mem_flatMap.mpr ⟨template, listed, template.body.nodes_subset inside below⟩)

theorem Reaches.mem_nodes {tree : RenderTree} {environment : List String} {scope : Scope}
    {node : RenderNode} (here : tree.Reaches environment scope node) : node ∈ tree.nodes := by
  induction here with
  | root => exact List.mem_append_left _ tree.root.mem_nodes_self
  | @child _ _ head children child _ member ih =>
    refine nodes_subset ih ?_
    rw [RenderNode.nodes]
    exact List.mem_cons_of_mem _ (RenderNode.nodes_subset_nodesAll member child.mem_nodes_self)
  | @grouped _ _ children child _ member ih =>
    refine nodes_subset ih ?_
    rw [RenderNode.nodes]
    exact List.mem_cons_of_mem _ (RenderNode.nodes_subset_nodesAll member child.mem_nodes_self)
  | tested _ ih | repeated _ ih | bound _ ih =>
    refine nodes_subset ih ?_
    rw [RenderNode.nodes]
    exact List.mem_cons_of_mem _ (RenderNode.mem_nodes_self _)
  | lifted _ _ known _ =>
    exact List.mem_append_right _
      (List.mem_flatMap.mpr ⟨_, List.mem_of_getElem? known, RenderNode.mem_nodes_self _⟩)

section

variable {tree : RenderTree}

theorem Reaches.exists_of_mem_cons {environment : List String} {scope : Scope}
    {node inner : RenderNode} {below : List RenderNode} (here : tree.Reaches environment scope node)
    (same : node.nodes = node :: below) (member : inner ∈ node.nodes)
    (inside : inner ∈ below → ∃ environment scope, tree.Reaches environment scope inner) :
    ∃ environment scope, tree.Reaches environment scope inner := by
  rw [same] at member
  rcases List.mem_cons.mp member with rfl | found
  · exact ⟨_, _, here⟩
  · exact inside found

mutual

/-- Where a node is reached, so is what is inside of it. -/
theorem Reaches.exists_of_mem_nodes (node : RenderNode) {environment : List String} {scope : Scope}
    {inner : RenderNode} (here : tree.Reaches environment scope node)
    (member : inner ∈ node.nodes) :
    ∃ environment scope, tree.Reaches environment scope inner := by
  match node with
  | .element head children =>
    exact here.exists_of_mem_cons (by rw [RenderNode.nodes]) member
      (exists_of_mem_nodesAll children fun _ listed => here.child listed)
  | .group children =>
    exact here.exists_of_mem_cons (by rw [RenderNode.nodes]) member
      (exists_of_mem_nodesAll children fun _ listed => here.grouped listed)
  | .text value =>
    exact here.exists_of_mem_cons (by rw [RenderNode.nodes]) member fun none =>
      absurd none List.not_mem_nil
  | .expression code =>
    exact here.exists_of_mem_cons (by rw [RenderNode.nodes]) member fun none =>
      absurd none List.not_mem_nil
  | .comment value =>
    exact here.exists_of_mem_cons (by rw [RenderNode.nodes]) member fun none =>
      absurd none List.not_mem_nil
  | .conditional test body =>
    exact here.exists_of_mem_cons (by rw [RenderNode.nodes]) member
      (exists_of_mem_nodes body here.tested)
  | .iteration loop body =>
    exact here.exists_of_mem_cons (by rw [RenderNode.nodes]) member
      (exists_of_mem_nodes body here.repeated)
  | .binding block body =>
    exact here.exists_of_mem_cons (by rw [RenderNode.nodes]) member
      (exists_of_mem_nodes body here.bound)

theorem Reaches.exists_of_mem_nodesAll (children : List RenderNode) {environment : List String}
    {scope : Scope} {inner : RenderNode}
    (here : ∀ child ∈ children, tree.Reaches environment scope child)
    (member : inner ∈ RenderNode.nodesAll children) :
    ∃ environment scope, tree.Reaches environment scope inner := by
  match children with
  | [] =>
    rw [RenderNode.nodesAll] at member
    cases member
  | node :: rest =>
    rw [RenderNode.nodesAll] at member
    rw [List.forall_mem_cons] at here
    rcases List.mem_append.mp member with first | later
    · exact exists_of_mem_nodes node here.1 first
    · exact exists_of_mem_nodesAll rest here.2 later

end

end

/-- All constructs of a tree. -/
def allConstructs (tree : RenderTree) : List Construct :=
  tree.nodes.flatMap (·.ownConstructs) ++ tree.templates.map .template

theorem Meets.mem_allConstructs {tree : RenderTree} {environment : List String} {scope : Scope}
    {construct : Construct} (met : tree.Meets environment scope construct) :
    construct ∈ tree.allConstructs := by
  cases met with
  | loop here =>
    exact List.mem_append_left _
      (List.mem_flatMap.mpr ⟨_, here.mem_nodes, List.mem_singleton.mpr rfl⟩)
  | block here =>
    exact List.mem_append_left _
      (List.mem_flatMap.mpr ⟨_, here.mem_nodes, List.mem_singleton.mpr rfl⟩)
  | template _ _ known =>
    exact List.mem_append_right _ (List.mem_map_of_mem (List.mem_of_getElem? known))
  | handler here member =>
    refine List.mem_append_left _ (List.mem_flatMap.mpr ⟨_, here.mem_nodes, ?_⟩)
    exact List.mem_filterMap.mpr ⟨_, member, rfl⟩

/-- All that the template wrote for a tree. -/
def codes (tree : RenderTree) : List String :=
  tree.nodes.flatMap (·.codes) ++ tree.allConstructs.flatMap (·.codes)

/-- All names in a tree. -/
def words (tree : RenderTree) : List String :=
  tree.nodes.filterMap (fun node => node.tag?.map (·.name)) ++ tree.allConstructs.flatMap (·.words)

end RenderTree

end RenderTemplate
