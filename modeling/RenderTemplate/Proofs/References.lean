import Mathlib.Data.List.Nodup
import RenderTemplate.Emission
import RenderTemplate.Proofs.Lifting

namespace RenderTemplate

namespace Emit

section

variable {target : Target} {enter other : Nat → Emit String}

/-- Props are emitted alike by functions that agree on the templates they refer to. -/
theorem entries_congr {props : List RenderProp}
    (same : ∀ index ∈ RenderProp.references props, enter index = other index) :
    entries enter props = entries other props := by
  induction props with
  | nil => rfl
  | cons prop props ih =>
    have rest : entries enter props = entries other props := by
      refine ih fun index member => same index ?_
      rw [RenderProp.references, List.filterMap_cons]
      split
      · exact member
      · exact List.mem_cons_of_mem _ member
    have value : propValue enter prop.value = propValue other prop.value := by
      cases kind : prop.value with
      | code code => rfl
      | handler found => rfl
      | template index =>
        refine same index ?_
        rw [RenderProp.references, List.filterMap_cons, kind]
        exact List.mem_cons_self
    unfold entries at rest ⊢
    rw [List.mapM_cons, List.mapM_cons, value, rest]

mutual

/-- The code of a node depends on the code for those templates only that it refers to. -/
theorem node_congr (found : RenderNode)
    (same : ∀ index ∈ found.references, enter index = other index) :
    node target enter found = node target other found := by
  match found with
  | .element head children =>
    rw [RenderNode.references, List.forall_mem_append] at same
    unfold node
    rw [entries_congr same.1, all_congr children same.2]
  | .group children =>
    rw [RenderNode.references] at same
    unfold node
    rw [all_congr children same]
  | .text value => unfold node; rfl
  | .expression code => unfold node; rfl
  | .comment value => unfold node; rfl
  | .conditional test body =>
    rw [RenderNode.references] at same
    unfold node
    rw [node_congr body same]
  | .iteration loop body =>
    rw [RenderNode.references] at same
    unfold node
    rw [node_congr body same]
  | .binding block body =>
    rw [RenderNode.references] at same
    unfold node
    rw [node_congr body same]

theorem all_congr (nodes : List RenderNode)
    (same : ∀ index ∈ RenderNode.referencesAll nodes, enter index = other index) :
    all target enter nodes = all target other nodes := by
  match nodes with
  | [] => unfold all; rfl
  | child :: rest =>
    rw [RenderNode.referencesAll, List.forall_mem_append] at same
    unfold all
    rw [node_congr child same.1, all_congr rest same.2]

end

/-- The code for a template, which becomes a helper. `enter` gives the code for those that it refers
to. -/
def lifted (target : Target) (enter : Nat → Emit String) (found : PropTemplate) : Emit String := do
  let name ← freshName found.prop
  let code ← node target enter found.body
  addHelper { name := name, parameters := found.helperParameters, result := some code }
  return boundReference name found.outer

theorem lifted_congr {found : PropTemplate}
    (same : ∀ index ∈ found.body.references, enter index = other index) :
    lifted target enter found = lifted target other found := by
  unfold lifted
  rw [node_congr found.body same]

end

/-- Whether `enter` gives the code for each template. There is no bound on how deep they refer to
each other. -/
def Follows (target : Target) (templates : List PropTemplate) (enter : Nat → Emit String) : Prop :=
  ∀ index found, templates[index]? = some found → enter index = lifted target enter found

/-- Whether templates refer to those before them only. -/
def IsFounded (templates : List PropTemplate) : Prop :=
  ∀ position (found : PropTemplate), templates[position]? = some found →
    ∀ index ∈ found.body.references, index < position

section

variable {target : Target} {templates : List PropTemplate}
  {enter other : Nat → Emit String} {index : Nat}

theorem template_eq_lifted {found : PropTemplate} (known : templates[index]? = some found)
    (depth : Nat) :
    template target templates (depth + 1) index =
      lifted target (template target templates depth) found := by
  rw [template.eq_def, known]
  rfl

theorem template_unknown (unknown : templates[index]? = none) (depth : Nat) :
    template target templates depth index = pure "undefined" := by
  rw [template.eq_def, unknown]
  cases depth with
  | zero => rfl
  | succ depth => rfl

/-- Any two bounds give the same code for a template with an index below them. -/
theorem template_depth (founded : IsFounded templates) {depth more : Nat} (bound : index < depth)
    (larger : index < more) :
    template target templates depth index = template target templates more index := by
  induction index using Nat.strongRecOn generalizing depth more with
  | ind index ih =>
    obtain ⟨depth, rfl⟩ := Nat.exists_eq_add_one_of_ne_zero (Nat.ne_zero_of_lt bound)
    obtain ⟨more, rfl⟩ := Nat.exists_eq_add_one_of_ne_zero (Nat.ne_zero_of_lt larger)
    cases known : templates[index]? with
    | none => rw [template_unknown known, template_unknown known]
    | some found =>
      rw [template_eq_lifted known, template_eq_lifted known]
      refine lifted_congr fun inner member => ?_
      have below := founded index found known inner member
      exact ih inner below (by omega) (by omega)

/-- To enter templates with enough depth is to follow their references. -/
theorem follows_template (founded : IsFounded templates) :
    Follows target templates (template target templates templates.length) := by
  intro index found known
  have bound : index < templates.length := (List.getElem?_eq_some_iff.mp known).1
  rw [template_depth founded bound (Nat.lt_succ_of_lt bound), template_eq_lifted known]

/-- There is one way only to give the code for all templates. -/
theorem Follows.unique (first : Follows target templates enter)
    (second : Follows target templates other) (founded : IsFounded templates)
    (bound : index < templates.length) : enter index = other index := by
  induction index using Nat.strongRecOn with
  | ind index ih =>
    have known : templates[index]? = some (templates.get ⟨index, bound⟩) :=
      List.getElem?_eq_getElem bound
    rw [first index _ known, second index _ known]
    refine lifted_congr fun inner member => ?_
    have below := founded index _ known inner member
    exact ih inner below (by omega)

theorem run_lifted (found : PropTemplate) (emitted : Emitted) :
    ((lifted target enter found).run emitted).1 =
      boundReference (found.prop ++ toString (emitted.counter + 1)) found.outer := rfl

end

end Emit

namespace RenderTree

/-- All references to templates, from the root and from the bodies of templates. -/
def references (tree : RenderTree) : List Nat :=
  tree.root.references ++ tree.templates.flatMap (·.body.references)

/-- The expression and the helpers of a tree, with the code for its templates. -/
def emitWith (tree : RenderTree) (target : Target) (enter : Nat → Emit String) :
    String × List Helper :=
  ((Emit.node target enter tree.root).run {}).map id (·.helpers)

theorem emit_eq_emitWith (tree : RenderTree) (target : Target) :
    tree.emit target =
      tree.emitWith target (Emit.template target tree.templates tree.templates.length) := rfl

end RenderTree

/-- Each template of a resolved tree is referred to once, and templates refer to those before them
only. So there is one way only to follow all references, whatever stands for indices without a
template, and the code of the tree is what this way gives: each reference becomes a reference to a
helper. -/
theorem resolve_references_founded {setting : Setting} {nodes : List Markup.Node}
    {tree : RenderTree} {warnings : List Warning}
    (resolved : resolve setting nodes = .ok (tree, warnings)) :
    (∀ index ∈ tree.references, index < tree.templates.length) ∧
    (∀ index < tree.templates.length, tree.references.count index = 1) ∧
    (∀ position (found : PropTemplate), tree.templates[position]? = some found →
      ∀ index ∈ found.body.references, index < position) ∧
    ∀ target,
      Emit.Follows target tree.templates
        (Emit.template target tree.templates tree.templates.length) ∧
      (∀ enter, Emit.Follows target tree.templates enter →
        tree.emit target = tree.emitWith target enter) ∧
      ∀ index ∈ tree.references, ∃ found, tree.templates[index]? = some found ∧
        ∀ emitted,
          ((Emit.template target tree.templates tree.templates.length index).run emitted).1 =
          boundReference (found.prop ++ toString (emitted.counter + 1)) found.outer := by
  have lifted := resolve_lifts resolved
  have linear : tree.references.Perm (List.range tree.templates.length) := by
    rw [List.range_eq_range']
    exact lifted.linear
  have inRange : ∀ index ∈ tree.references, index < tree.templates.length := by
    intro index member
    exact List.mem_range.mp (linear.subset member)
  have founded : Emit.IsFounded tree.templates := by
    intro position template found index member
    have below := lifted.founded position template found index member
    rwa [Nat.zero_add] at below
  refine ⟨inRange, ?_, founded, fun target => ⟨Emit.follows_template founded, ?_, ?_⟩⟩
  · intro index bound
    rw [linear.count_eq]
    exact List.nodup_iff_count_eq_one.mp List.nodup_range index (List.mem_range.mpr bound)
  · intro enter follows
    rw [RenderTree.emit_eq_emitWith, RenderTree.emitWith, RenderTree.emitWith]
    rw [Emit.node_congr tree.root fun index member => ?_]
    exact (Emit.follows_template founded).unique follows founded
      (inRange index (List.mem_append_left _ member))
  · intro index member
    have known := List.getElem?_eq_getElem (inRange index member)
    refine ⟨_, known, fun emitted => ?_⟩
    rw [Emit.follows_template founded index _ known]
    exact Emit.run_lifted _ emitted

/-- A template as a child. -/
def templateChild (prop : String) (body : Markup.Node) : Markup.Node :=
  .element { name := "rt-template", attributes := [⟨"prop", some prop, {}⟩] } [body]

/-- An element with two templates, the first of which has an element with a template. -/
def nestedTemplates : List Markup.Node :=
  [.element { name := "List" }
    [templateChild "row"
      (.element { name := "Cell" } [templateChild "icon" (.element { name := "i" } [])]),
        templateChild "footer" (.element { name := "p" } [])]]

theorem nestedTemplates_founded :
    ∃ tree warnings, resolve ⟨.standard, {}, .web⟩ nestedTemplates = .ok (tree, warnings) ∧
      tree.root.references = [1, 2] ∧
      tree.templates.map (fun found => (found.prop, found.body.references)) =
        [("icon", []), ("row", [0]), ("footer", [])] ∧
      (∀ index < 3, tree.references.count index = 1) ∧
      ∀ enter, Emit.Follows .web tree.templates enter →
        tree.emit .web = tree.emitWith .web enter := by
  have evaluated : ((resolve ⟨.standard, {}, .web⟩ nestedTemplates).toOption.map fun pair =>
      (pair.1.root.references, pair.1.templates.map fun found =>
        (found.prop, found.body.references))) =
      some ([1, 2], [("icon", []), ("row", [0]), ("footer", [])]) := by
    decide +kernel
  cases run : resolve ⟨.standard, {}, .web⟩ nestedTemplates with
  | error error =>
    rw [run] at evaluated
    cases evaluated
  | ok pair =>
    obtain ⟨tree, warnings⟩ := pair
    rw [run] at evaluated
    simp only [Except.toOption, Option.map_some, Option.some.injEq, Prod.mk.injEq] at evaluated
    have length : tree.templates.length = 3 := by simpa using congrArg List.length evaluated.2
    obtain ⟨_, once, _, emission⟩ := resolve_references_founded run
    rw [length] at once
    exact ⟨tree, warnings, rfl, evaluated.1, evaluated.2, once, (emission .web).2.1⟩

end RenderTemplate
