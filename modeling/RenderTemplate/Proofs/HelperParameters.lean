import RenderTemplate.Proofs.HelperNames
import RenderTemplate.Proofs.Visits

namespace RenderTemplate

open Markup

namespace RenderNode

variable (enter : Nat → List Construct)

mutual

/-- The constructs of a template are among those of the node that refers to it. -/
theorem enter_subset_constructs (node : RenderNode) {index : Nat}
    (member : index ∈ node.references) :
    enter index ⊆ node.constructs enter := by
  match node with
  | .element head children =>
    rw [references] at member
    rw [constructs]
    rcases List.mem_append.mp member with own | below
    · obtain ⟨⟨key, value⟩, listed, referred⟩ := List.mem_filterMap.mp own
      cases value with
      | code code => cases referred
      | handler found => cases referred
      | template other =>
        cases referred
        exact fun construct inside =>
          List.mem_append_left _ (List.mem_flatMap.mpr ⟨_, listed, inside⟩)
    · exact List.subset_append_of_subset_right _ (enter_subset_constructsAll children below)
  | .group children =>
    rw [references] at member
    rw [constructs]
    exact enter_subset_constructsAll children member
  | .text value => rw [references] at member; cases member
  | .expression code => rw [references] at member; cases member
  | .comment value => rw [references] at member; cases member
  | .conditional test body =>
    rw [references] at member
    rw [constructs]
    exact enter_subset_constructs body member
  | .iteration loop body =>
    rw [references] at member
    rw [constructs]
    exact List.subset_cons_of_subset _ (enter_subset_constructs body member)
  | .binding block body =>
    rw [references] at member
    rw [constructs]
    exact List.subset_cons_of_subset _ (enter_subset_constructs body member)

theorem enter_subset_constructsAll (nodes : List RenderNode) {index : Nat}
    (member : index ∈ referencesAll nodes) :
    enter index ⊆ constructsAll enter nodes := by
  match nodes with
  | [] => rw [referencesAll] at member; cases member
  | node :: rest =>
    rw [referencesAll] at member
    rw [constructsAll]
    rcases List.mem_append.mp member with first | later
    · exact List.subset_append_of_subset_left _ (enter_subset_constructs node first)
    · exact List.subset_append_of_subset_right _ (enter_subset_constructsAll rest later)

end

end RenderNode

namespace RenderTree

variable {options : Options} {tree : RenderTree}

/-- The constructs of each template are found, as deep as they go. -/
theorem templateConstructs_subset (lifted : Lifted options 0 tree.root.references tree.templates)
    {index : Nat} (known : index < tree.templates.length) :
    ∃ depth, index < depth ∧ templateConstructs tree.templates depth index ⊆ tree.constructs := by
  -- A template is referred to by the root or by a later template, so the induction goes down from
  -- the last one.
  induction rest :
    tree.templates.length - index using Nat.strong_induction_on generalizing index with
  | _ rest ih =>
    have listed : index ∈ tree.root.references ++ tree.templates.flatMap (·.body.references) :=
      lifted.linear.mem_iff.mpr (List.mem_range'_1.mpr ⟨Nat.zero_le _, by omega⟩)
    rcases List.mem_append.mp listed with inRoot | inTemplate
    · exact ⟨tree.templates.length, known, RenderNode.enter_subset_constructs _ tree.root inRoot⟩
    · obtain ⟨template, member, referred⟩ := List.mem_flatMap.mp inTemplate
      obtain ⟨position, found⟩ := List.getElem?_of_mem member
      have later := lifted.founded position template found index referred
      have bound := (List.getElem?_eq_some_iff.mp found).1
      obtain ⟨depth, deep, inside⟩ := ih (tree.templates.length - position) (by omega) bound rfl
      cases depth with
      | zero => omega
      | succ depth =>
        rw [templateConstructs.eq_def, found] at inside
        have below :=
          RenderNode.enter_subset_constructs (templateConstructs tree.templates depth)
          template.body referred
        exact ⟨depth, by omega, fun construct here => inside (List.mem_cons_of_mem _ (below here))⟩

/-- Each template of a tree is a construct of it, since it is referred to. -/
theorem template_mem_constructs (lifted : Lifted options 0 tree.root.references tree.templates)
    {template : PropTemplate} (member : template ∈ tree.templates) :
    .template template ∈ tree.constructs := by
  obtain ⟨index, found⟩ := List.getElem?_of_mem member
  obtain ⟨depth, deep, inside⟩ :=
    templateConstructs_subset lifted (List.getElem?_eq_some_iff.mp found).1
  cases depth with
  | zero => omega
  | succ depth =>
    rw [templateConstructs.eq_def, found] at inside
    exact inside List.mem_cons_self

/-- Each node of a tree is reached from the root, in a template too. -/
theorem exists_reaches_of_mem_nodes (lifted : Lifted options 0 tree.root.references tree.templates)
    {node : RenderNode} (member : node ∈ tree.nodes) :
    ∃ environment scope, tree.Reaches environment scope node := by
  rcases List.mem_append.mp member with inRoot | inTemplate
  · exact Reaches.exists_of_mem_nodes _ .root inRoot
  · obtain ⟨template, listed, inside⟩ := List.mem_flatMap.mp inTemplate
    -- No template is left over: an element of the tree refers to each of them.
    obtain ⟨_, _, met⟩ := isMet_of_mem (template_mem_constructs lifted listed)
    cases met with
    | template here referred known =>
      exact Reaches.exists_of_mem_nodes _ (here.lifted referred known) inside

end RenderTree

/-- Whether a construct is a handler. -/
def Construct.isHandler : Construct → Bool
  | handler _ => true
  | _ => false

namespace RenderTree.Meets

variable {setting : Setting} {nodes : List Node} {tree : RenderTree} {warnings : List Warning}
  {environment : List String} {scope : Scope} {construct : Construct}

/-- A construct gets no name that it binds itself. -/
theorem nodup_bound_iff (met : tree.Meets environment scope construct)
    (resolved : resolve setting nodes = .ok (tree, warnings)) :
    construct.bound.Nodup ↔ construct.own.Nodup := by
  rw [Construct.bound_eq, (met.outer_eq (resolve_arises resolved)).1, List.nodup_append]
  constructor
  · exact fun ⟨_, distinct, _⟩ => distinct
  · intro distinct
    refine ⟨scope.nodup_outside _, distinct, ?_⟩
    rintro name isOuter _ isOwn rfl
    exact (Scope.mem_outside.mp isOuter).2 isOwn

/-- The index of a loop differs from its item, which is checked. -/
theorem nodup_loop {loop : Loop} (met : tree.Meets environment scope (.loop loop))
    (resolved : resolve setting nodes = .ok (tree, warnings)) :
    (Construct.loop loop).bound.Nodup := by
  rw [met.nodup_bound_iff resolved]
  cases met with
  | loop here =>
    obtain ⟨arises, _⟩ := here.arises (resolve_arises resolved)
    cases arises with
    | iteration read _ =>
      have different := (RepeatClause.read_names read).2.2
      simpa [Construct.own] using different

theorem nodup_block {block : ScopeBlock} (met : tree.Meets environment scope (.block block))
    (resolved : resolve setting nodes = .ok (tree, warnings)) :
    (Construct.block block).bound.Nodup :=
  (met.nodup_bound_iff resolved).mpr (met.aliases_distinct (resolve_arises resolved))

theorem reaches (met : tree.Meets environment scope construct) :
    ∃ node, tree.Reaches environment scope node := by
  cases met with
  | loop here => exact ⟨_, here⟩
  | block here => exact ⟨_, here⟩
  | template here _ _ => exact ⟨_, here⟩
  | handler here _ => exact ⟨_, here⟩

/-- All names that a loop, a scope or a template binds or gets are identifiers. -/
theorem identifiers (met : tree.Meets environment scope construct)
    (valid : setting.options.validate = .ok ())
    (resolved : resolve setting nodes = .ok (tree, warnings))
    (other : construct.isHandler = false) :
    ∀ name ∈ construct.bound, isIdentifier name := by
  obtain ⟨node, here⟩ := met.reaches
  have around := here.identifiers valid resolved
  have checked := met.isChecked valid resolved
  have own : ∀ name ∈ construct.own, isIdentifier name := by
    cases construct with
    | loop found => simpa [Construct.own, Construct.IsChecked] using checked
    | block found =>
      intro name member
      obtain ⟨entry, listed, rfl⟩ := List.mem_map.mp member
      exact checked.2 entry listed
    | template found => exact checked.arguments
    | handler found => cases other
  intro name member
  rw [Construct.bound_eq, (met.outer_eq (resolve_arises resolved)).1] at member
  rcases List.mem_append.mp member with isOuter | isOwn
  · exact around name (Scope.mem_outside.mp isOuter).1
  · exact own name isOwn

end RenderTree.Meets

namespace TemplateSpec

theorem addArgument_nodup {place : Location} {known result : List String} {piece : String}
    (added : addArgument place known piece = .ok result) (distinct : known.Nodup) :
    result.Nodup := by
  simp only [addArgument] at added
  split at added
  · cases added
    exact distinct
  · split at added
    · cases added
    · next fine =>
      cases added
      rw [← List.concat_eq_append, List.nodup_concat]
      refine ⟨fun member => fine ?_, distinct⟩
      simp [member]

/-- A child lists each argument once. -/
theorem ofStart_nodup {start : StartTag} {spec : TemplateSpec} (read : ofStart start = .ok spec) :
    spec.arguments.Nodup := by
  unfold ofStart at read
  split at read
  · cases read
  · split at read
    · dsimp only at read
      split at read
      · obtain ⟨arguments, listed, made⟩ := bind_ok.mp read
        cases made
        exact foldlM_ok listed List.nodup_nil fun _ _ _ distinct added =>
          addArgument_nodup added distinct
      · cases read
        exact List.nodup_nil
    · cases read

end TemplateSpec

/-- Arguments that repeat are those that the options configure for a child. -/
theorem childSpec?_arguments {options : Options} {owner : String} {start : StartTag}
    {spec : TemplateSpec} (specified : childSpec? options owner start = some (.ok spec)) :
    spec.arguments.Nodup ∨ start.name ≠ "rt-template" ∧
      options.templates.spec? owner start.name = some spec := by
  unfold childSpec? at specified
  rw [declaresTemplate_eq] at specified
  split at specified
  · exact .inl (TemplateSpec.ofStart_nodup (Option.some.inj specified))
  · next other =>
    obtain ⟨_, known, same⟩ := Option.map_eq_some_iff.mp specified
    cases same
    rcases Options.spec?_eq_some_iff.mp known with configured | ⟨_, _, _, native⟩
    · exact .inr ⟨fun template => other (beq_iff_eq.mpr template), configured⟩
    · have listed : ∀ entry ∈ listTemplates, entry.2.arguments.Nodup := by decide
      exact .inl (listed (start.name, spec) (mem_of_lookup native))

/-- What is configured for a child in the options comes first, unless the child declares itself as a
template. -/
theorem childSpec?_of_configured {options : Options} {owner : String} {start : StartTag}
    {spec : TemplateSpec} (other : start.name ≠ "rt-template")
    (configured : options.templates.spec? owner start.name = some spec) :
    childSpec? options owner start = some (.ok spec) := by
  rw [childSpec?, declaresTemplate_eq, if_neg (by simpa using other),
    Options.spec?_eq_some_iff.mpr (.inl configured)]
  rfl

/-- Whether the options configure the same argument twice for a child that a template holds. -/
def RepeatsArgument (options : Options) (nodes : List Node) : Prop :=
  ∃ owner start spec, .lifted owner start ∈ Node.visitsAll options none nodes ∧
    start.name ≠ "rt-template" ∧
    options.templates.spec? owner start.name = some spec ∧ ¬ spec.arguments.Nodup

/-- A template repeats an argument exactly if the options do so for the child that it was. -/
theorem PropTemplate.IsMade.nodup_arguments_iff {options : Options} {child : String × StartTag}
    {template : PropTemplate} (made : template.IsMade options child) :
    template.arguments.Nodup ↔ ¬ ∃ spec, child.2.name ≠ "rt-template" ∧
      options.templates.spec? child.1 child.2.name = some spec ∧ ¬ spec.arguments.Nodup := by
  constructor
  · rintro distinct ⟨spec, other, configured, repeats⟩
    cases (childSpec?_of_configured other configured).symm.trans made.2
    exact repeats distinct
  · intro none
    rcases childSpec?_arguments made.2 with distinct | ⟨other, configured⟩
    · exact distinct
    · by_contra repeats
      exact none ⟨_, other, configured, repeats⟩

/-- Templates have different arguments unless the options configure one that has not. -/
theorem forall_nodup_arguments_iff {setting : Setting} {nodes : List Node} {tree : RenderTree}
    {warnings : List Warning} (resolved : resolve setting nodes = .ok (tree, warnings)) :
    (∀ template ∈ tree.templates, template.arguments.Nodup) ↔
      ¬ RepeatsArgument setting.options nodes := by
  rw [← forall_mem_iff_of_rel (resolve_templates resolved) fun _ _ made =>
    made.nodup_arguments_iff.symm]
  constructor
  · rintro free ⟨owner, start, spec, visited, repeats⟩
    exact free (owner, start) (Visit.mem_props_iff.mpr visited) ⟨spec, repeats⟩
  · rintro free ⟨owner, start⟩ listed ⟨spec, repeats⟩
    exact free ⟨owner, start, spec, Visit.mem_props_iff.mp listed, repeats⟩

/-- The parameters of helpers, and the names of scopes. There is one helper for each construct. All
names that a loop, a scope or a template binds or gets are identifiers. Loops and scopes bind and
get each name once, and a template does so exactly if its arguments are different. So this holds of
all of them exactly if the options do not configure the same argument twice for a child. -/
theorem helperParameters_nodup_iff {setting : Setting} {nodes : List Node} {tree : RenderTree}
    {warnings : List Warning} (valid : setting.options.validate = .ok ())
    (resolved : resolve setting nodes = .ok (tree, warnings)) (target : Target) :
    ((tree.emit target).2.map (·.parameters)).Perm (tree.constructs.map (·.parameters)) ∧
    (∀ construct ∈ tree.constructs, construct.isHandler = false →
      ∀ name ∈ construct.bound, isIdentifier name) ∧
    (∀ loop, .loop loop ∈ tree.constructs → (Construct.loop loop).bound.Nodup) ∧
    (∀ block, .block block ∈ tree.constructs → (Construct.block block).bound.Nodup) ∧
    (∀ template, .template template ∈ tree.constructs →
      ((Construct.template template).bound.Nodup ↔ template.arguments.Nodup)) ∧
    ((∀ construct ∈ tree.constructs, construct.isHandler = false → construct.bound.Nodup) ↔
      ¬ RepeatsArgument setting.options nodes) := by
  have loops (loop : Loop) (member : .loop loop ∈ tree.constructs) :
      (Construct.loop loop).bound.Nodup := by
    obtain ⟨_, _, met⟩ := RenderTree.isMet_of_mem member
    exact met.nodup_loop resolved
  have blocks (block : ScopeBlock) (member : .block block ∈ tree.constructs) :
      (Construct.block block).bound.Nodup := by
    obtain ⟨_, _, met⟩ := RenderTree.isMet_of_mem member
    exact met.nodup_block resolved
  have templates (template : PropTemplate) (member : .template template ∈ tree.constructs) :
      (Construct.template template).bound.Nodup ↔ template.arguments.Nodup := by
    obtain ⟨_, _, met⟩ := RenderTree.isMet_of_mem member
    exact met.nodup_bound_iff resolved
  refine ⟨tree.perm_parameters target, ?_, loops, blocks, templates, ?_⟩
  · intro construct member other
    obtain ⟨_, _, met⟩ := RenderTree.isMet_of_mem member
    exact met.identifiers valid resolved other
  · rw [← forall_nodup_arguments_iff resolved]
    constructor
    · intro distinct template member
      have listed := RenderTree.template_mem_constructs (resolve_lifts resolved) member
      exact (templates template listed).mp (distinct _ listed rfl)
    · intro distinct construct member other
      cases construct with
      | loop loop => exact loops loop member
      | block block => exact blocks block member
      | template template =>
        obtain ⟨_, _, met⟩ := RenderTree.isMet_of_mem member
        cases met with
        | template _ _ known =>
          exact (templates template member).mpr (distinct template (List.mem_of_getElem? known))
      | handler handler => cases other

/-- A list in a loop with a scope, whose row has an argument with the name of the item. -/
def loopedList : List Node :=
  [.element
    { name := "List", attributes := [⟨"rt-repeat", some "item in items", {}⟩,
    ⟨"rt-scope", some "item.id as id", {}⟩] }
    [.element { name := "Row" } [.element { name := "b" } []]]]

theorem loopedList_distinct :
    ∃ tree warnings, rowSetting.options.validate = .ok () ∧
      resolve rowSetting loopedList = .ok (tree, warnings) ∧
      (tree.emit .web).2.map (·.parameters) =
        [["itemIndex", "id", "item"], ["item", "itemIndex"], ["item", "itemIndex"]] ∧
      ∀ construct ∈ tree.constructs, construct.isHandler = false → construct.bound.Nodup := by
  have evaluated :
      ((resolve rowSetting loopedList).toOption.map fun pair =>
      (pair.1.emit .web).2.map (·.parameters)) =
      some [["itemIndex", "id", "item"], ["item", "itemIndex"], ["item", "itemIndex"]] := by
    decide +kernel
  obtain ⟨⟨tree, warnings⟩, resolved, parameters⟩ := exists_ok_of_toOption evaluated
  have valid : rowSetting.options.validate = .ok () := rfl
  have once : ¬ RepeatsArgument rowSetting.options loopedList := by
    rintro ⟨owner, start, spec, _, _, configured, repeats⟩
    obtain ⟨children, listed, inside⟩ := Option.bind_eq_some_iff.mp configured
    obtain ⟨_, rfl⟩ := Prod.mk.inj (List.mem_singleton.mp (mem_of_lookup listed))
    obtain ⟨_, rfl⟩ := Prod.mk.inj (List.mem_singleton.mp (mem_of_lookup inside))
    exact repeats (by decide)
  obtain ⟨_, _, _, _, _, distinct⟩ := helperParameters_nodup_iff valid resolved .web
  exact ⟨tree, warnings, valid, resolved, parameters, distinct.mpr once⟩

/-- Options that configure the same argument twice are valid. -/
def twiceOptions : Options where
  templates := ⟨[("List", ⟨[("Row", ⟨"renderRow", ["a", "a"]⟩)], by simp⟩)], by simp⟩

/-- A helper can have the same parameter twice. -/
theorem parameter_repeated :
    ∃ tree warnings, twiceOptions.validate = .ok () ∧
      renderTree .standard twiceOptions "<List><Row><p/></Row></List>" = .ok (tree, warnings) ∧
      (tree.emit .web).2.map (·.parameters) = [["a", "a"]] := by
  have evaluated :
      ((renderTree .standard twiceOptions "<List><Row><p/></Row></List>").toOption.map fun pair =>
      (pair.1.emit .web).2.map (·.parameters)) = some [["a", "a"]] := by
    decide +kernel
  obtain ⟨⟨tree, warnings⟩, rendered, parameters⟩ := exists_ok_of_toOption evaluated
  exact ⟨tree, warnings, rfl, rendered, parameters⟩

end RenderTemplate
