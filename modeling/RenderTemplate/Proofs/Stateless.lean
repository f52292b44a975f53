import RenderTemplate.Emission
import RenderTemplate.Proofs.Inventory

namespace RenderTemplate

/-- The elements at the top of a template that are no imports. -/
def topElements (nodes : List Markup.Node) : List (Markup.StartTag × List Markup.Node) :=
  nodes.filterMap fun
    | .element start children =>
      if ReservedTag.isImport start.name then none else some (start, children)
    | _ => none

namespace RenderTree

/-- The names that the render function of a tree has as its parameters. -/
def renderParameters (tree : RenderTree) : List String :=
  if tree.stateless then ["props", "context"] else []

theorem parameters_renderFunction (tree : RenderTree) (target : Target) :
    (tree.renderFunction target).parameters = ", ".intercalate tree.renderParameters := by
  have listed (stateless : Bool) : RenderFunction.parameterList stateless =
      ", ".intercalate (if stateless then ["props", "context"] else []) := by
    cases stateless with
    | false => decide
    | true => decide
  exact listed tree.stateless

/-- Whether the function of a construct has a name for each of the parameters of the render
function. A construct gets the names that the frames around it bind, and the render function is no
frame. -/
def Receives (tree : RenderTree) (construct : Construct) : Prop :=
  ∀ name ∈ tree.renderParameters, name ∈ construct.outer ∨ name ∈ construct.own

end RenderTree

/-- The roots that are surveyed are the elements at the top that are no imports. -/
theorem surveyRoots_eq {setting : Setting} {before after : Progress} {nodes : List Markup.Node}
    {roots : List (Markup.StartTag × List Markup.Node)}
    (run : (surveyRoots setting nodes).run before = .ok (roots, after)) :
    roots = topElements nodes := by
  induction nodes generalizing before roots with
  | nil =>
    cases run
    rfl
  | cons node rest ih =>
    cases node with
    | comment value place => exact ih run
    | text parts place =>
      unfold surveyRoots at run
      split at run
      · exact ih run
      · cases run
    | element start children =>
      unfold surveyRoots at run
      split at run
      · next isImport =>
        obtain ⟨_, _, _, later⟩ := Resolve.run_bind_ok.mp run
        rw [ih later]
        simp [topElements, isImport]
      · next other =>
        obtain ⟨more, _, later, run⟩ := Resolve.run_bind_ok.mp run
        cases run
        rw [ih later]
        simp [topElements, other]

/-- A template that resolves has one root, and the tree is stateless if that root says so. -/
theorem resolve_stateless {setting : Setting} {nodes : List Markup.Node} {tree : RenderTree}
    {warnings : List Warning} (resolved : resolve setting nodes = .ok (tree, warnings)) :
    ∃ start children, topElements nodes = [(start, children)] ∧
      tree.stateless = start.hasAttribute "rt-stateless" := by
  obtain ⟨start, children, _, _, _, surveyed, _, rfl, _⟩ := resolve_eq_ok_iff.mp resolved
  exact ⟨start, children, (surveyRoots_eq surveyed).symm, rfl⟩

namespace RenderTree

variable {tree : RenderTree} {environment : List String} {scope : Scope} {construct : Construct}

/-- Whether a scope has no frames, or all names of some construct that stands in none. -/
def IsAnchored (tree : RenderTree) (scope : Scope) : Prop :=
  scope = {} ∨ ∃ environment outermost, tree.Meets environment {} outermost ∧
    outermost.own ⊆ scope.visible

/-- The frame of a construct keeps what was visible, and an outermost one brings its own names. -/
theorem IsAnchored.push (anchored : tree.IsAnchored scope)
    (met : tree.Meets environment scope construct) (kind : FrameKind) :
    tree.IsAnchored (scope.push kind construct.own) := by
  rcases anchored with rfl | ⟨around, outermost, first, visible⟩
  · exact .inr ⟨environment, construct, met, fun name own => Scope.mem_visible_push.mpr (.inr own)⟩
  · exact .inr ⟨around, outermost, first, fun name own =>
      Scope.mem_visible_push.mpr (.inl (visible own))⟩

/-- Each scope that is reached has no frames, or has the names of an outermost construct. -/
theorem Reaches.isAnchored {node : RenderNode} (here : tree.Reaches environment scope node) :
    tree.IsAnchored scope := by
  induction here with
  | root => exact .inl rfl
  | child _ _ ih | grouped _ _ ih | tested _ ih => exact ih
  | repeated here ih => exact ih.push (.loop here) .iteration
  | bound here ih => exact ih.push (.block here) .scope
  | lifted here member known ih => exact ih.push (.template here member known) .arguments

theorem Meets.isAnchored (met : tree.Meets environment scope construct) :
    tree.IsAnchored scope := by
  cases met with
  | loop here | block here | template here _ _ | handler here _ => exact here.isAnchored

end RenderTree

/-- What the functions of a template know of the parameters of its render function. These are there
if the root is stateless, and a construct has a name exactly if it binds it itself or some construct
around it does, never from the render function. So all constructs have all parameters exactly if
each one that stands in no other binds them again. -/
theorem renderParameters_reach_iff {setting : Setting} {nodes : List Markup.Node}
    {tree : RenderTree} {warnings : List Warning}
    (resolved : resolve setting nodes = .ok (tree, warnings)) (target : Target) :
    (∃ start children, topElements nodes = [(start, children)] ∧
      tree.stateless = start.hasAttribute "rt-stateless") ∧
    (tree.renderFunction target).parameters = ", ".intercalate tree.renderParameters ∧
    (∀ environment scope construct, tree.Meets environment scope construct → ∀ name,
      name ∈ construct.outer ∨ name ∈ construct.own ↔
        name ∈ construct.own ∨ ∃ frame ∈ scope.frames, name ∈ frame.names) ∧
    ((∀ environment scope construct, tree.Meets environment scope construct →
      tree.Receives construct) ↔
      ∀ environment construct, tree.Meets environment {} construct →
        tree.renderParameters ⊆ construct.own) := by
  have origin := resolve_arises resolved
  have known {environment : List String} {scope : Scope} {construct : Construct}
      (met : tree.Meets environment scope construct) (name : String) :
      name ∈ construct.outer ∨ name ∈ construct.own ↔ name ∈ scope.visible ∨
        name ∈ construct.own := by
    rw [(met.outer_eq origin).1, ← List.mem_append]
    exact Scope.mem_outside_append
  refine ⟨resolve_stateless resolved, tree.parameters_renderFunction target, ?_, ?_, ?_⟩
  · intro environment scope construct met name
    rw [known met, Scope.mem_visible, or_comm]
  · intro receives environment construct met name parameter
    rcases (known met name).mp (receives environment {} construct met name parameter) with visible
      | own
    · cases visible
    · exact own
  · intro outermost environment scope construct met name parameter
    refine (known met name).mpr ?_
    rcases met.isAnchored with rfl | ⟨around, first, metFirst, visible⟩
    · exact .inr (outermost environment construct met parameter)
    · exact .inl (visible (outermost around first metFirst parameter))

/-- A stateless list with some attributes, and with some for the item in it. -/
def statelessList (root item : List Markup.Attribute) : List Markup.Node :=
  [.element { name := "ul", attributes := ⟨"rt-stateless", none, {}⟩ :: root }
    [.element { name := "li", attributes := item } []]]

theorem statelessHandlers_receive :
    ∃ tree warnings,
      resolve ⟨.standard, {}, .web⟩
      (statelessList [⟨"onClick", some "(props, context) => go(props)", {}⟩]
        [⟨"onBlur", some "(props, context, e) => go(e)", {}⟩]) = .ok (tree, warnings) ∧
      tree.renderParameters = ["props", "context"] ∧
      tree.allConstructs.map (·.own) = [["props", "context"], ["props", "context", "e"]] ∧
      ∀ environment scope construct, tree.Meets environment scope construct →
        tree.Receives construct := by
  have evaluated :
      (resolve ⟨.standard, {}, .web⟩
      (statelessList [⟨"onClick", some "(props, context) => go(props)", {}⟩]
        [⟨"onBlur", some "(props, context, e) => go(e)", {}⟩])).toOption.map
        (fun pair => (pair.1.renderParameters, pair.1.allConstructs.map (·.own))) =
      some (["props", "context"], [["props", "context"], ["props", "context", "e"]]) := by
    decide +kernel
  obtain ⟨⟨tree, warnings⟩, resolved, seen⟩ := exists_ok_of_toOption evaluated
  obtain ⟨parameters, owns⟩ := Prod.mk.inj seen
  have both : ∀ own ∈ [["props", "context"], ["props", "context", "e"]],
      ["props", "context"] ⊆ own := by decide
  refine ⟨tree, warnings, resolved, parameters, owns, ?_⟩
  refine (renderParameters_reach_iff resolved .web).2.2.2.mpr fun environment construct met => ?_
  rw [parameters]
  refine both construct.own ?_
  rw [← owns]
  exact List.mem_map_of_mem met.mem_allConstructs

/-- The loop that the only child of a node is. -/
def childLoop? : RenderNode → Option Loop
  | .element _ [.iteration loop _] => some loop
  | _ => none

/-- A loop around a child of the root is met in the outermost scope. -/
theorem meets_of_childLoop? {tree : RenderTree} {loop : Loop}
    (found : childLoop? tree.root = some loop) :
    tree.Meets [] {} (.loop loop) := by
  unfold childLoop? at found
  split at found
  · next same =>
    cases found
    have top : tree.Reaches [] {} tree.root := .root
    rw [same] at top
    exact .loop (top.child List.mem_cons_self)
  · cases found

/-- The function of a loop has no names for the parameters of the render function. -/
theorem statelessLoop_unaware :
    ∃ tree warnings loop,
      resolve ⟨.standard, {}, .web⟩ (statelessList [] [⟨"rt-repeat", some "x in props.xs", {}⟩]) =
        .ok (tree, warnings) ∧ tree.stateless = true ∧ tree.Meets [] {} (.loop loop) ∧
      loop.helperParameters = ["x", "xIndex"] ∧ ¬ tree.Receives (.loop loop) := by
  have evaluated :
      (resolve ⟨.standard, {}, .web⟩
      (statelessList [] [⟨"rt-repeat", some "x in props.xs", {}⟩])).toOption.map
        (fun pair => (pair.1.stateless, childLoop? pair.1.root)) =
      some (true, some ⟨"props.xs", "x", "xIndex", []⟩) := by
    decide +kernel
  obtain ⟨⟨tree, warnings⟩, resolved, seen⟩ := exists_ok_of_toOption evaluated
  obtain ⟨stateless, viewed⟩ := Prod.mk.inj seen
  have parameter : "props" ∈ tree.renderParameters := by
    rw [RenderTree.renderParameters, if_pos stateless]
    exact List.mem_cons_self
  have unknown : ¬ ("props" ∈ ([] : List String) ∨ "props" ∈ ["x", "xIndex"]) := by decide
  exact ⟨tree, warnings, _, resolved, stateless, meets_of_childLoop? viewed, rfl,
    fun receives => unknown (receives "props" parameter)⟩

end RenderTemplate
