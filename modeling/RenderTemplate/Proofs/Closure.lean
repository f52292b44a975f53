import RenderTemplate.Proofs.Provenance

namespace RenderTemplate

/-- What becomes a function of its own. -/
inductive Construct where
  | loop (found : Loop)
  | block (found : ScopeBlock)
  | template (found : PropTemplate)
  | handler (found : Handler)

namespace Construct

/-- The names that are passed to the function of a construct. -/
def outer : Construct → List String
  | loop found => found.outer
  | block found => found.outer
  | template found => found.outer
  | handler found => found.outer

/-- The names that a construct binds itself. -/
def own : Construct → List String
  | loop found => [found.item, found.index]
  | block found => found.aliases.map (·.name)
  | template found => found.arguments
  | handler found => found.parameters

/-- The parameters of the function of a construct. -/
def parameters : Construct → List String
  | loop found => found.helperParameters
  | block found => found.helperParameters
  | template found => found.helperParameters
  | handler found => found.helperParameters

/-- The variables that the function of a construct declares. -/
def locals : Construct → List String
  | block found => found.aliases.map (·.name)
  | _ => []

/-- The names that are bound inside the function of a construct. -/
def bound (construct : Construct) : List String :=
  construct.parameters ++ construct.locals

/-- What is bound in the function of a construct: what it gets, and its own names. -/
theorem bound_eq (construct : Construct) : construct.bound = construct.outer ++ construct.own := by
  cases construct with
  | loop found => exact List.append_nil _
  | block found => rfl
  | template found => exact List.append_nil _
  | handler found => exact List.append_nil _

end Construct

namespace RenderTree

/-- A node of a tree, with the names that the innermost function around it binds and the frames
around it. A template is met where an element refers to it. The names are all that code in this
place can use, since functions close over nothing. -/
inductive Reaches (tree : RenderTree) : List String → Scope → RenderNode → Prop where
  | root : Reaches tree [] {} tree.root
  | child {environment : List String} {scope : Scope} {head : ElementHead}
      {children : List RenderNode}
      {child : RenderNode} (here : Reaches tree environment scope (.element head children))
        (member : child ∈ children) :
      Reaches tree environment scope child
  | grouped {environment : List String} {scope : Scope} {children : List RenderNode}
      {child : RenderNode}
      (here : Reaches tree environment scope (.group children)) (member : child ∈ children) :
      Reaches tree environment scope child
  | tested {environment : List String} {scope : Scope} {test : String} {body : RenderNode}
      (here : Reaches tree environment scope (.conditional test body)) :
        Reaches tree environment scope body
  | repeated {environment : List String} {scope : Scope} {loop : Loop} {body : RenderNode}
      (here : Reaches tree environment scope (.iteration loop body)) :
      Reaches tree (Construct.loop loop).bound (scope.push .iteration (Construct.loop loop).own)
        body
  | bound {environment : List String} {scope : Scope} {block : ScopeBlock} {body : RenderNode}
      (here : Reaches tree environment scope (.binding block body)) :
      Reaches tree (Construct.block block).bound (scope.push .scope (Construct.block block).own)
        body
  | lifted {environment : List String} {scope : Scope} {head : ElementHead}
      {children : List RenderNode} {key : String}
      {index : Nat} {template : PropTemplate}
        (here : Reaches tree environment scope (.element head children))
      (member : ⟨key, .template index⟩ ∈ head.props)
      (known : tree.templates[index]? = some template) :
      Reaches tree (Construct.template template).bound
        (scope.push .arguments (Construct.template template).own)
        template.body

/-- A construct of a tree, with the names that the innermost function around it binds and the frames
around it. -/
inductive Meets (tree : RenderTree) : List String → Scope → Construct → Prop where
  | loop {environment : List String} {scope : Scope} {loop : Loop} {body : RenderNode}
      (here : tree.Reaches environment scope (.iteration loop body)) :
        Meets tree environment scope (.loop loop)
  | block {environment : List String} {scope : Scope} {block : ScopeBlock} {body : RenderNode}
      (here : tree.Reaches environment scope (.binding block body)) :
        Meets tree environment scope (.block block)
  | template {environment : List String} {scope : Scope} {head : ElementHead}
      {children : List RenderNode} {key : String}
      {index : Nat} {template : PropTemplate}
        (here : tree.Reaches environment scope (.element head children))
      (member : ⟨key, .template index⟩ ∈ head.props)
      (known : tree.templates[index]? = some template) :
      Meets tree environment scope (.template template)
  | handler {environment : List String} {scope : Scope} {head : ElementHead}
      {children : List RenderNode} {key : String}
      {handler : Handler} (here : tree.Reaches environment scope (.element head children))
      (member : ⟨key, .handler handler⟩ ∈ head.props) :
        Meets tree environment scope (.handler handler)

end RenderTree

namespace Scope

/-- A construct gets the names that are visible around it and that are not its own. -/
theorem mem_outside {scope : Scope} {own : List String} {name : String} :
    name ∈ scope.outside own ↔ name ∈ scope.visible ∧ name ∉ own := by
  simp [outside]

theorem nodup_outside (scope : Scope) (own : List String) : (scope.outside own).Nodup :=
  scope.nodup_visible.filter _

theorem mem_visible_push {scope : Scope} {kind : FrameKind} {own : List String} {name : String} :
    name ∈ (scope.push kind own).visible ↔ name ∈ scope.visible ∨ name ∈ own := by
  simp [mem_visible, push, or_comm]

/-- Inside a function the names are bound that it gets from outside and its own: all that are
visible there. -/
theorem mem_outside_append {scope : Scope} {own : List String} {name : String} :
    name ∈ scope.outside own ++ own ↔ name ∈ scope.visible ∨ name ∈ own := by
  rw [List.mem_append, mem_outside]
  by_cases known : name ∈ own
  · simp [known]
  · simp [known]

end Scope

/-- A function that gets all names of a scope that are not its own binds those that are visible in
its frame. -/
theorem Construct.mem_bound {construct : Construct} {scope : Scope} {kind : FrameKind}
    (outer : construct.outer = scope.outside construct.own) (name : String) :
    name ∈ construct.bound ↔ name ∈ (scope.push kind construct.own).visible := by
  rw [bound_eq, outer]
  exact Scope.mem_outside_append.trans Scope.mem_visible_push.symm

section

variable {setting : Setting} {templates : List PropTemplate} {scope : Scope} {head : ElementHead}
  {children : List RenderNode} {key : String}

/-- A template that an element refers to was lifted out of the scope of the element. -/
theorem Arises.template {index : Nat} {template : PropTemplate}
    (arises : Arises setting templates scope (.element head children))
    (member : ⟨key, .template index⟩ ∈ head.props) (known : templates[index]? = some template) :
    template.outer = scope.outside template.arguments ∧
      Arises setting templates (scope.push .arguments template.arguments) template.body := by
  cases arises with
  | element read references bodies _ =>
    rcases List.mem_append.mp member with written | lifted
    · exact (read.isLocal _ written).elim
    · obtain ⟨_, other, same, found, outer⟩ := references _ lifted
      cases same
      obtain rfl : other = template := Option.some.inj (found.symm.trans known)
      exact ⟨outer, bodies _ lifted index other rfl known⟩

/-- A handler of an element gets the names from the scope of the element. -/
theorem Arises.handler {handler : Handler}
    (arises : Arises setting templates scope (.element head children))
    (member : ⟨key, .handler handler⟩ ∈ head.props) :
    handler.outer = scope.outside handler.parameters := by
  cases arises with
  | element read references _ _ =>
    rcases List.mem_append.mp member with written | lifted
    · exact (read.isLocal _ written).1
    · obtain ⟨_, _, same, _⟩ := references _ lifted
      cases same

end

namespace RenderTree

variable {setting : Setting} {tree : RenderTree} {environment : List String} {scope : Scope}

/-- Each place of a tree was resolved in the scope of the frames around it, and the innermost
function there binds all names of this scope and no others. -/
theorem Reaches.arises {node : RenderNode} (origin : Arises setting tree.templates {} tree.root)
    (here : tree.Reaches environment scope node) :
    Arises setting tree.templates scope node ∧ ∀ name, name ∈ environment ↔
      name ∈ scope.visible := by
  induction here with
  | root => exact ⟨origin, by simp [Scope.visible]⟩
  | child _ member ih =>
    obtain ⟨arises, names⟩ := ih
    cases arises with
    | element _ _ _ inside => exact ⟨inside _ member, names⟩
  | grouped _ member ih =>
    obtain ⟨arises, names⟩ := ih
    cases arises with
    | group inside => exact ⟨inside _ member, names⟩
  | tested _ ih =>
    obtain ⟨arises, names⟩ := ih
    cases arises with
    | conditional _ inside => exact ⟨inside, names⟩
  | repeated _ ih =>
    obtain ⟨arises, _⟩ := ih
    cases arises with
    | iteration _ inside => exact ⟨inside, Construct.mem_bound rfl⟩
  | bound _ ih =>
    obtain ⟨arises, _⟩ := ih
    cases arises with
    | binding _ inside => exact ⟨inside, Construct.mem_bound rfl⟩
  | lifted _ member known ih =>
    obtain ⟨arises, _⟩ := ih
    obtain ⟨outer, inside⟩ := arises.template member known
    exact ⟨inside, Construct.mem_bound outer⟩

/-- A construct of a resolved tree gets the names of the scope around it that it does not bind
itself, and these are names that the innermost function around it binds. -/
theorem Meets.outer_eq {construct : Construct} (origin : Arises setting tree.templates {} tree.root)
    (met : tree.Meets environment scope construct) :
    construct.outer = scope.outside construct.own ∧ ∀ name, name ∈ environment ↔
      name ∈ scope.visible := by
  cases met with
  | loop here =>
    obtain ⟨arises, names⟩ := here.arises origin
    cases arises with
    | iteration _ _ => exact ⟨rfl, names⟩
  | block here =>
    obtain ⟨arises, names⟩ := here.arises origin
    cases arises with
    | binding _ _ => exact ⟨rfl, names⟩
  | template here member known =>
    obtain ⟨arises, names⟩ := here.arises origin
    exact ⟨(arises.template member known).1, names⟩
  | handler here member =>
    obtain ⟨arises, names⟩ := here.arises origin
    exact ⟨arises.handler member, names⟩

end RenderTree

/-- The functions of a resolved tree close over nothing. Each construct gets every name that is
bound around it and that it does not bind itself, once and no other, so that inside of it the names
of all frames are bound. And a node that is resolved leaves the scope as it was. -/
theorem resolve_closes_constructs {setting : Setting} {nodes : List Markup.Node} {tree : RenderTree}
    {warnings : List Warning} (resolved : resolve setting nodes = .ok (tree, warnings)) :
    (∀ environment scope construct, tree.Meets environment scope construct →
      construct.outer.Nodup ∧
      (∀ name, name ∈ construct.outer ↔ name ∈ environment ∧ name ∉ construct.own) ∧
      (∀ name, name ∈ construct.bound ↔ name ∈ environment ∨ name ∈ construct.own) ∧
      ∀ name, name ∈ construct.bound ↔ name ∈ construct.own ∨
        ∃ frame ∈ scope.frames, name ∈ frame.names) ∧
    ∀ isRoot node before found after,
      (resolveNode setting isRoot node).run before = .ok (found, after) →
        after.scope = before.scope := by
  refine ⟨?_, fun _ node _ _ _ run => (resolveNode_arises node run).1.scope⟩
  intro environment scope construct met
  obtain ⟨outer, names⟩ := met.outer_eq (resolve_arises resolved)
  have bound (name : String) : name ∈ construct.bound ↔ name ∈ scope.visible ∨
      name ∈ construct.own := by
    rw [Construct.bound_eq, outer]
    exact Scope.mem_outside_append
  refine ⟨?_, ?_, ?_, ?_⟩
  · rw [outer]
    exact scope.nodup_outside construct.own
  · intro name
    rw [outer, Scope.mem_outside, names name]
  · intro name
    rw [bound, names name]
  · intro name
    rw [bound, Scope.mem_visible, or_comm]

/-- A handler in a template of an element with a scope in a loop. Each of the inner three binds a
name again that is bound around it, or passes one on. -/
def nestedConstructs : List Markup.Node :=
  [.element { name := "ul", attributes := [⟨"rt-repeat", some "row in rows", {}⟩] }
    [.element { name := "Grid", attributes := [⟨"rt-scope", some "row.name as name", {}⟩] }
      [.element { name := "rt-template",
                  attributes := [⟨"prop", some "cell", {}⟩, ⟨"arguments", some "row", {}⟩] }
        [.element { name := "b", attributes := [⟨"onClick", some "(name) => go(row, name)", {}⟩] }
          []]]]]

/-- A loop, a scope in it with the props of its element, and a template with the props of the
element that it renders. -/
structure NestedParts where
  loop : Loop
  block : ScopeBlock
  props : List RenderProp
  arguments : List String
  outer : List String
  inner : List RenderProp
deriving DecidableEq

def nestedParts? (tree : RenderTree) : Option NestedParts :=
  match tree.root, tree.templates with
  | .iteration loop (.element _ [.binding block (.element head _)]),
      [⟨_, _, arguments, outer, .element inner _, _⟩] =>
    some ⟨loop, block, head.props, arguments, outer, inner.props⟩
  | _, _ => none

theorem exists_of_nestedParts? {tree : RenderTree} {parts : NestedParts}
    (found : nestedParts? tree = some parts) :
    ∃ above head below template within inside,
      tree.root =
        .iteration parts.loop (.element above [.binding parts.block (.element head below)]) ∧
      head.props = parts.props ∧ tree.templates[0]? = some template ∧
      template.arguments = parts.arguments ∧ template.outer = parts.outer ∧
      template.body = .element within inside ∧ within.props = parts.inner := by
  unfold nestedParts? at found
  split at found
  · next root listed =>
    cases found
    exact ⟨_, _, _, _, _, _, root, rfl, by rw [listed]; rfl, rfl, rfl, rfl, rfl⟩
  · cases found

/-- The loop, the scope, the template and the handler, each with the names around it, its own names
and those that it gets. -/
theorem nestedConstructs_closed :
    ∃ tree warnings, resolve ⟨.standard, {}, .web⟩ nestedConstructs = .ok (tree, warnings) ∧
      ∀ row ∈ [([], ["row", "rowIndex"], []), (["row", "rowIndex"], ["name"], ["row", "rowIndex"]),
          (["row", "rowIndex", "name"], ["row"], ["rowIndex", "name"]),
          (["rowIndex", "name", "row"], ["name"], ["row", "rowIndex"])],
        ∃ scope construct, tree.Meets row.1 scope construct ∧ construct.own = row.2.1 ∧
          construct.outer = row.2.2 ∧ construct.outer.Nodup ∧
          ∀ name, name ∈ construct.outer ↔ name ∈ row.1 ∧ name ∉ construct.own := by
  have evaluated :
      ((resolve ⟨.standard, {}, .web⟩ nestedConstructs).toOption.map fun pair =>
        nestedParts? pair.1) =
      some (some ⟨⟨"rows", "row", "rowIndex", []⟩,
        ⟨[⟨"name", "row.name"⟩], ["row", "rowIndex"]⟩,
        [⟨"cell", .template 0⟩], ["row"], ["rowIndex", "name"],
        [⟨"onClick", .handler
          ⟨"onClick", ["row", "rowIndex"], ["name"], .expression "go(row, name)"⟩⟩]⟩) := by
    decide +kernel
  obtain ⟨⟨tree, warnings⟩, resolved, viewed⟩ := exists_ok_of_toOption evaluated
  obtain ⟨above, head, below, template, within, inside, root, props, known, arguments, outer, body,
    inner⟩ := exists_of_nestedParts? viewed
  dsimp only at root props arguments outer inner
  have top : tree.Reaches [] {} tree.root := .root
  rw [root] at top
  have block := top.repeated.child (List.mem_singleton.mpr rfl)
  have owner := block.bound
  have referred : ⟨"cell", .template 0⟩ ∈ head.props := props ▸ List.mem_singleton.mpr rfl
  have rendered := owner.lifted referred known
  rw [body] at rendered
  have bound : (Construct.template template).bound = ["rowIndex", "name", "row"] := by
    rw [Construct.bound_eq, Construct.outer, Construct.own, outer, arguments]
    rfl
  rw [bound] at rendered
  have handled := RenderTree.Meets.handler rendered (inner ▸ List.mem_singleton.mpr rfl)
  have closed {environment own passed : List String} {scope : Scope} {construct : Construct}
      (met : tree.Meets environment scope construct) (names : construct.own = own)
      (given : construct.outer = passed) : ∃ scope construct,
        tree.Meets environment scope construct ∧ construct.own = own ∧ construct.outer = passed ∧
          construct.outer.Nodup ∧
          ∀ name, name ∈ construct.outer ↔ name ∈ environment ∧ name ∉ construct.own := by
    obtain ⟨distinct, complete, _⟩ := (resolve_closes_constructs resolved).1 _ _ _ met
    exact ⟨scope, construct, met, names, given, distinct, complete⟩
  refine ⟨tree, warnings, resolved, ?_⟩
  simp only [List.forall_mem_cons]
  exact ⟨closed (.loop top) rfl rfl, closed (.block block) rfl rfl,
    closed (.template owner referred known) arguments outer, closed handled rfl rfl, by simp⟩

/-- A scope binds no name twice. -/
theorem ScopeClause.distinct_of_read {host : HostLanguage} {directive : DirectiveValue}
    {aliases : List ScopeAlias} (read : ScopeClause.read host directive = .ok aliases) :
    (aliases.map (·.name)).Nodup := by
  refine ScopeClause.read_ok (motive := fun known => (known.map (·.name)).Nodup)
    read List.nodup_nil ?_
  intro known piece code word distinct _ _ fresh _
  rw [List.map_append, List.map_singleton, List.nodup_append]
  refine ⟨distinct, by simp, ?_⟩
  intro name member other last same
  rw [same, List.mem_singleton.mp last] at member
  exact fresh member

theorem RenderTree.Meets.aliases_distinct {setting : Setting} {tree : RenderTree}
    {environment : List String} {scope : Scope} {block : ScopeBlock}
    (origin : Arises setting tree.templates {} tree.root)
    (met : tree.Meets environment scope (.block block)) : (block.aliases.map (·.name)).Nodup := by
  cases met with
  | block here =>
    obtain ⟨arises, _⟩ := here.arises origin
    cases arises with
    | binding read _ => exact ScopeClause.distinct_of_read read

/-- A member of a list without repetitions stands before a position or from there on, and not
both. -/
theorem mem_take_or_not_mem_iff {names : List String} (distinct : names.Nodup) (position : Nat)
    (name : String) :
    name ∉ names ∨ name ∈ names.take position ↔ name ∉ names.drop position := by
  have split : name ∈ names ↔ name ∈ names.take position ∨ name ∈ names.drop position := by
    rw [← List.mem_append, List.take_append_drop]
  have apart : name ∈ names.take position → name ∉ names.drop position := by
    rw [← List.take_append_drop position names, List.nodup_append] at distinct
    intro early late
    exact distinct.2.2 name early name late rfl
  rw [split]
  constructor
  · rintro (absent | early)
    · exact fun late => absent (.inr late)
    · exact apart early
  · intro absent
    by_cases early : name ∈ names.take position
    · exact .inr early
    · exact .inl (not_or.mpr ⟨early, absent⟩)

/-- When the value of an alias is computed, a name from around the scope has its value from there,
or an earlier alias has taken its place, exactly if neither this alias nor a later one has that
name. So all values see all names from around the scope exactly if the scope shadows none of
them. -/
theorem scopeValue_sees_iff {setting : Setting} {nodes : List Markup.Node} {tree : RenderTree}
    {warnings : List Warning} (resolved : resolve setting nodes = .ok (tree, warnings))
    {environment : List String} {scope : Scope} {block : ScopeBlock}
    (met : tree.Meets environment scope (.block block)) :
    (∀ position, ∀ name ∈ scope.visible,
      name ∈ block.helperParameters ∨ name ∈ (block.aliases.take position).map (·.name) ↔
        name ∉ (block.aliases.drop position).map (·.name)) ∧
    ((∀ position < block.aliases.length, ∀ name ∈ scope.visible,
      name ∈ block.helperParameters ∨ name ∈ (block.aliases.take position).map (·.name)) ↔
        ∀ name ∈ scope.visible, name ∉ block.aliases.map (·.name)) := by
  have origin := resolve_arises resolved
  have outer : block.helperParameters = scope.outside (block.aliases.map (·.name)) :=
    (met.outer_eq origin).1
  have sees_iff (position : Nat) (name : String) (visible : name ∈ scope.visible) :
      name ∈ block.helperParameters ∨ name ∈ (block.aliases.take position).map (·.name) ↔
        name ∉ (block.aliases.drop position).map (·.name) := by
    rw [outer, Scope.mem_outside, List.map_take, List.map_drop,
      ← mem_take_or_not_mem_iff (met.aliases_distinct origin), and_iff_right visible]
  refine ⟨sees_iff, ?_, ?_⟩
  · intro sees name visible member
    have nonempty : 0 < block.aliases.length := by
      rw [← List.length_map (f := (·.name))]
      exact List.length_pos_of_mem member
    exact (sees_iff 0 name visible).mp (sees 0 nonempty name visible) member
  · intro fresh position _ name visible
    refine (sees_iff position name visible).mpr fun member => fresh name visible ?_
    rw [List.map_drop] at member
    exact List.mem_of_mem_drop member

/-- A loop whose element has a scope. -/
def loopWithScope (text : String) : List Markup.Node :=
  [.element
    { name := "div", attributes := [⟨"rt-repeat", some "item in items", {}⟩,
    ⟨"rt-scope", some text, {}⟩] } []]

/-- A loop and the scope right inside of it. -/
def loopedBlock? : RenderNode → Option (Loop × ScopeBlock)
  | .iteration loop (.binding block _) => some (loop, block)
  | _ => none

theorem meets_of_loopedBlock? {tree : RenderTree} {loop : Loop} {block : ScopeBlock}
    (found : loopedBlock? tree.root = some (loop, block)) :
    tree.Meets (Construct.loop loop).bound (Scope.push {} .iteration [loop.item, loop.index])
      (.block block) := by
  unfold loopedBlock? at found
  split at found
  · next same =>
    cases found
    have top : tree.Reaches [] {} tree.root := .root
    rw [same] at top
    exact .block top.repeated
  · cases found

theorem loopWithScope_sees :
    ∃ tree warnings environment scope block,
      resolve ⟨.standard, {}, .web⟩ (loopWithScope "item.name as label; label as title") =
        .ok (tree, warnings) ∧
      tree.Meets environment scope (.block block) ∧ scope.visible = ["item", "itemIndex"] ∧
      block.aliases = [⟨"label", "item.name"⟩, ⟨"title", "label"⟩] ∧
      ∀ position < block.aliases.length, ∀ name ∈ scope.visible,
        name ∈ block.helperParameters ∨ name ∈ (block.aliases.take position).map (·.name) := by
  have evaluated :
      ((resolve ⟨.standard, {}, .web⟩
      (loopWithScope "item.name as label; label as title")).toOption.map
      fun pair => loopedBlock? pair.1.root) = some (some (⟨"items", "item", "itemIndex", []⟩,
        ⟨[⟨"label", "item.name"⟩, ⟨"title", "label"⟩], ["item", "itemIndex"]⟩)) := by
    decide +kernel
  obtain ⟨⟨tree, warnings⟩, resolved, viewed⟩ := exists_ok_of_toOption evaluated
  have met := meets_of_loopedBlock? viewed
  exact ⟨tree, warnings, _, _, _, resolved, met, by decide, rfl,
    (scopeValue_sees_iff resolved met).2.mpr (by decide)⟩

/-- The value of a name that shadows the item of a loop does not see the item. -/
theorem shadowed_item_unseen :
    ∃ tree warnings environment scope block,
      resolve ⟨.standard, {}, .web⟩ (loopWithScope "item.name as item") = .ok (tree, warnings) ∧
      tree.Meets environment scope (.block block) ∧ "item" ∈ scope.visible ∧
      block.aliases = [⟨"item", "item.name"⟩] ∧
      ¬ ("item" ∈ block.helperParameters ∨ "item" ∈ (block.aliases.take 0).map (·.name)) := by
  have evaluated : ((resolve ⟨.standard, {}, .web⟩ (loopWithScope "item.name as item")).toOption.map
      fun pair => loopedBlock? pair.1.root) = some (some (⟨"items", "item", "itemIndex", []⟩,
        ⟨[⟨"item", "item.name"⟩], ["itemIndex"]⟩)) := by
    decide +kernel
  obtain ⟨⟨tree, warnings⟩, resolved, viewed⟩ := exists_ok_of_toOption evaluated
  exact ⟨tree, warnings, _, _, _, resolved, meets_of_loopedBlock? viewed, by decide, rfl, by decide⟩

end RenderTemplate
