import RenderTemplate.Proofs.Commas

namespace RenderTemplate

open TopLevel

/-- The text of a prop that stands in the code of its element, as far as a template wrote it: a
handler is known there by its event. -/
def PropValue.text : PropValue → String
  | .code written => written
  | .handler found => found.event
  | .template _ => ""

namespace RenderNode

/-- The text of a comment. -/
def remark : RenderNode → String
  | comment value => value
  | _ => ""

mutual

/-- What a template wrote that stands in the code of a node itself. The bodies of loops, blocks,
templates and handlers are code of helpers, which are only called there. -/
def written : RenderNode → List String
  | element head children =>
    head.props.map (·.value.text) ++ head.spread.toList ++ writtenAll children
  | group children => writtenAll children
  | text _ => []
  | expression code => [code]
  | comment value => [value]
  | conditional test body => test :: body.written
  | iteration loop _ => [loop.collection]
  | binding _ _ => []

/-- What a template wrote that stands in the code of some nodes. -/
def writtenAll : List RenderNode → List String
  | [] => []
  | node :: rest => node.written ++ writtenAll rest

end

theorem balanced_of_written {head : ElementHead} {children : List RenderNode}
    (balanced : ∀ text ∈ (element head children).written, IsBalanced text) :
    (∀ prop ∈ head.props, IsBalanced prop.value.text) ∧
      (∀ code ∈ head.spread, IsBalanced code) ∧
        ∀ text ∈ writtenAll children, IsBalanced text := by
  rw [written, List.forall_mem_append, List.forall_mem_append,
    List.forall_mem_map] at balanced
  obtain ⟨⟨props, spread⟩, inside⟩ := balanced
  exact ⟨props, fun code member => spread code (Option.mem_toList.mpr member), inside⟩

end RenderNode

/-- The call that creates an element, before it is written. -/
structure ElementCall where
  callee : String
  /-- The entries of the object for its props. -/
  entries : List String
  arguments : List String
deriving DecidableEq, Repr

/-- The code of a call. -/
def ElementCall.text (call : ElementCall) : String :=
  Target.application call.callee call.arguments

/-- The call that creates an element. -/
def Emit.elementCall (target : Target) (enter : Nat → Emit String) (head : ElementHead)
    (children : List RenderNode) : Emit ElementCall := do
  let entries ← entries enter head.props
  let codes ← all target enter children
  return ⟨target.callee head.tag, entries,
    target.arguments head.tag (propsCode entries head.spread) (ChildCode.arguments codes)⟩

theorem Emit.node_element (target : Target) (enter : Nat → Emit String) (head : ElementHead)
    (children : List RenderNode) :
    node target enter (.element head children) =
      ElementCall.text <$> elementCall target enter head children := by
  unfold node
  simp only [Target.call_eq_application]
  rfl

namespace TopLevel

/-- Whether code is balanced, with as many commas at its top level as a text has. -/
structure CutLike (text code : String) : Prop where
  balanced : IsBalanced code
  count : cuts ',' code = cuts ',' text

/-- Codes that are balanced one by one have as many commas together as their texts. -/
theorem CutLike.total {texts codes : List String} (alike : List.Forall₂ CutLike texts codes) :
    (∀ code ∈ codes, IsBalanced code) ∧ totalCuts ',' codes = totalCuts ',' texts := by
  induction alike with
  | nil => exact ⟨by simp, rfl⟩
  | cons first _ ih =>
    rw [List.forall_mem_cons, totalCuts_cons, totalCuts_cons, first.count, ih.2]
    exact ⟨⟨first.balanced, ih.1⟩, rfl⟩

/-- What the code of a child is like: a comment is no argument. -/
def ChildLike (child : RenderNode) (code : ChildCode) : Prop :=
  code.isArgument = !child.isComment ∧ CutLike child.remark code.code

theorem ChildLike.total {children : List RenderNode} {codes : List ChildCode}
    (emitted : List.Forall₂ ChildLike children codes) :
    (∀ code ∈ codes, IsBalanced code.code) ∧
      totalCuts ',' (codes.map ChildCode.code) =
        totalCuts ',' (children.map RenderNode.remark) := by
  have remarks : List.Forall₂ CutLike (children.map RenderNode.remark)
      (codes.map ChildCode.code) := by
    rw [List.forall₂_map_left_iff, List.forall₂_map_right_iff]
    exact emitted.imp fun _ _ both => both.2
  obtain ⟨each, total⟩ := CutLike.total remarks
  exact ⟨List.forall_mem_map.mp each, total⟩

end TopLevel

namespace ElementCall

/-- How many arguments the children of an element are: one each, without the comments, which are
one if there is nothing else. -/
def arity (children : List RenderNode) : Nat :=
  if children.isEmpty then 0 else max 1 (children.countP (!·.isComment))

/-- What the call for an element is made of, and how many commas there are at its top level. -/
structure Renders (target : Target) (head : ElementHead) (children : List RenderNode)
    (call : ElementCall) : Prop where
  callee : call.callee = target.callee head.tag
  balanced : (∀ entry ∈ call.entries, IsBalanced entry) ∧
    ∀ argument ∈ call.arguments, IsBalanced argument
  length : call.entries.length = head.props.length
  keys : ∀ pair ∈ head.props.zip call.entries,
    ∃ value, pair.2 = propertyKey pair.1.key ++ ": " ++ value
  entries : totalCuts ',' call.entries = totalCuts ',' (head.props.map (·.value.text))
  shape : ∃ codes : List String, codes.length = arity children ∧
    call.arguments = target.arguments head.tag (Emit.propsCode call.entries head.spread) codes
  arguments : totalCuts ',' call.arguments =
    (if head.props.isEmpty then totalCuts ',' head.spread.toList else 0) +
      totalCuts ',' (children.map RenderNode.remark)

/-- The code of a call is one piece: its commas are in its parentheses. -/
theorem Renders.cutLike {target : Target} {head : ElementHead} {children : List RenderNode}
    {call : ElementCall} (renders : call.Renders target head children) (quiet : head.tag.IsQuiet) :
    CutLike "" call.text := by
  have called : IsBalanced (target.callee head.tag) :=
    Bracketing.topLevel.callee target quiet.isPlain
  rw [ElementCall.text, renders.callee]
  refine ⟨Bracketing.topLevel.application called renders.balanced.2, ?_⟩
  rw [cuts_application called renders.balanced.2]
  exact cuts_callee target quiet

end ElementCall

namespace RenderTree

variable {setting : Setting} {nodes : List Markup.Node} {tree : RenderTree}
  {warnings : List Warning} {environment : List String} {scope : Scope}

/-- A tag has no comma outside of quotes, since it is known to the target or is a path of names. -/
theorem Reaches.tag_isQuiet {head : ElementHead} {children : List RenderNode}
    (here : tree.Reaches environment scope (.element head children))
    (resolved : resolve setting nodes = .ok (tree, warnings)) : head.tag.IsQuiet := by
  obtain ⟨arises, _⟩ := here.arises (resolve_arises resolved)
  cases arises with
  | element read _ _ _ =>
    obtain ⟨start, classified⟩ := read.tag
    exact Target.classify_isQuiet classified

/-- The names that are passed on to a helper are identifiers, so they stand in its call as they
are. -/
theorem Meets.isPlain_outer {construct : Construct} (met : tree.Meets environment scope construct)
    (valid : setting.options.validate = .ok ())
    (resolved : resolve setting nodes = .ok (tree, warnings)) :
    ∀ name ∈ construct.outer, isPlain name := by
  have visible : ∀ name ∈ scope.visible, isIdentifier name := by
    cases met with
    | loop here => exact here.identifiers valid resolved
    | block here => exact here.identifiers valid resolved
    | template here _ _ => exact here.identifiers valid resolved
    | handler here _ => exact here.identifiers valid resolved
  intro name member
  rw [(met.outer_eq (resolve_arises resolved)).1] at member
  exact isPlain_of_isIdentifier (visible name (Scope.mem_outside.mp member).1)

end RenderTree

namespace Emit.Yields

section

variable {α : Type} {work : Emit α}

/-- At the top level nothing is asked of helpers, so it does not matter what is in them. -/
theorem any : Yields .topLevel work fun _ => True :=
  fun _ _ => ⟨trivial, fun _ _ => trivial⟩

theorem map {β : Type} {rules : Bracketing} {middle : α → Prop} {post : β → Prop} {f : α → β}
    (first : Yields rules work middle) (second : ∀ value, middle value → post (f value)) :
    Yields rules (f <$> work) post :=
  fun emitted helpers => ⟨second _ (first emitted helpers).1, (first emitted helpers).2⟩

end

theorem freshName_cuts {base : String} (balanced : IsBalanced base) :
    Yields .topLevel (Emit.freshName base) (CutLike base) :=
  fun emitted helpers => ⟨⟨(freshName balanced emitted helpers).1,
    cuts_followed balanced (isQuiet_toString _)⟩, fun _ _ => trivial⟩

/-- A handler stands in its prop as a call of `bind`, with the commas of its event outside of the
parentheses. -/
theorem handler_cuts {found : Handler} (event : IsBalanced found.event)
    (outer : ∀ name ∈ found.outer, isPlain name) :
    Yields .topLevel (Emit.handler found) (CutLike found.event) := by
  unfold Emit.handler
  refine (freshName_cuts event).bind fun name named => ?_
  have bound : CutLike found.event (boundReference name found.outer) :=
    ⟨Bracketing.topLevel.boundReference named.balanced outer,
      (cuts_boundReference named.balanced outer).trans named.count⟩
  cases found.body with
  | expression code => exact any.bind fun _ _ => pure bound
  | block code => exact any.bind fun _ _ => pure bound

variable {setting : Setting} {nodes : List Markup.Node} {tree : RenderTree}
  {warnings : List Warning} {environment : List String} {scope : Scope} {target : Target}
  {depth : Nat} {head : ElementHead} {children : List RenderNode}

theorem template_cuts (valid : setting.options.validate = .ok ())
    (resolved : resolve setting nodes = .ok (tree, warnings))
    (here : tree.Reaches environment scope (.element head children)) {key : String} {index : Nat}
    (member : ⟨key, .template index⟩ ∈ head.props) :
    Yields .topLevel (Emit.template target tree.templates depth index) (CutLike "") := by
  have undefined : CutLike "" "undefined" := ⟨by decide, by decide⟩
  rw [Emit.template.eq_def]
  cases depth with
  | zero => exact pure undefined
  | succ depth =>
    cases known : tree.templates[index]? with
    | none => exact pure undefined
    | some found =>
      have met := RenderTree.Meets.template here member known
      have quiet : isQuiet found.prop := isQuiet_of_trim (met.isChecked valid resolved).prop
      have outer : ∀ name ∈ found.outer, isPlain name := met.isPlain_outer valid resolved
      refine (freshName_cuts (.plain (isPlain_of_isQuiet quiet))).bind fun name named => ?_
      refine any.bind fun code _ => any.bind fun _ _ => pure ⟨?_, ?_⟩
      · exact Bracketing.topLevel.boundReference named.balanced outer
      · rw [cuts_boundReference named.balanced outer, named.count, cuts_of_isQuiet quiet]
        rfl

/-- The code of a prop has the commas of what was written for it. -/
theorem propValue_cuts (valid : setting.options.validate = .ok ())
    (resolved : resolve setting nodes = .ok (tree, warnings))
    (here : tree.Reaches environment scope (.element head children)) {prop : RenderProp}
    (member : prop ∈ head.props) (balanced : IsBalanced prop.value.text) :
    Yields .topLevel (Emit.propValue (Emit.template target tree.templates depth) prop.value)
      (CutLike prop.value.text) := by
  obtain ⟨key, value⟩ := prop
  cases value with
  | code code => exact pure ⟨balanced, rfl⟩
  | handler found =>
    have met := RenderTree.Meets.handler here member
    exact handler_cuts balanced (met.isPlain_outer valid resolved)
  | template index => exact template_cuts valid resolved here member

/-- There is an entry for each prop, which starts with its key and has the commas of its value. -/
theorem entries_cuts (valid : setting.options.validate = .ok ())
    (resolved : resolve setting nodes = .ok (tree, warnings))
    (here : tree.Reaches environment scope (.element head children)) {props : List RenderProp}
    (members : ∀ prop ∈ props, prop ∈ head.props)
    (balanced : ∀ prop ∈ props, IsBalanced prop.value.text) :
    Yields .topLevel (Emit.entries (Emit.template target tree.templates depth) props) fun entries =>
      List.Forall₂ (fun prop entry => CutLike prop.value.text entry ∧
        ∃ value, entry = propertyKey prop.key ++ ": " ++ value) props entries := by
  induction props with
  | nil => exact pure .nil
  | cons prop props ih =>
    rw [List.forall_mem_cons] at members balanced
    have rest := ih members.2 balanced.2
    unfold Emit.entries at rest ⊢
    rw [List.mapM_cons]
    refine ((propValue_cuts valid resolved here members.1 balanced.1).bind fun value alike =>
      pure ⟨⟨?_, ?_⟩, value, rfl⟩).bind fun entry first => rest.bind fun entries more =>
        pure (List.Forall₂.cons first more)
    · exact Bracketing.topLevel.joined (by decide) (Bracketing.topLevel.propertyKey prop.key)
        alike.balanced
    · have key : IsBalanced (propertyKey prop.key) := Bracketing.topLevel.propertyKey prop.key
      have colon : cuts ',' ": " = 0 := by decide
      rw [cuts_append (key.append (by decide)), cuts_append key, cuts_propertyKey, colon,
        alike.count, Nat.zero_add]

/-- The call for an element is made of its props and the code of its children. -/
theorem elementCall_cuts (valid : setting.options.validate = .ok ())
    (resolved : resolve setting nodes = .ok (tree, warnings))
    (here : tree.Reaches environment scope (.element head children))
    (props : ∀ prop ∈ head.props, IsBalanced prop.value.text)
    (spread : ∀ code ∈ head.spread, IsBalanced code)
    (inside :
      Yields .topLevel (Emit.all target (Emit.template target tree.templates depth) children)
      (List.Forall₂ ChildLike children)) :
    Yields .topLevel
      (Emit.elementCall target (Emit.template target tree.templates depth) head children)
      (ElementCall.Renders target head children) := by
  have quiet := here.tag_isQuiet resolved
  unfold Emit.elementCall
  refine (entries_cuts valid resolved here (fun _ member => member) props).bind
    fun entries written => inside.bind fun codes emitted => pure ?_
  have alike : List.Forall₂ CutLike (head.props.map (·.value.text)) entries :=
    List.forall₂_map_left_iff.mpr (written.imp fun _ _ both => both.1)
  have kinds : codes.map ChildCode.isArgument = children.map (!·.isComment) := by
    rw [← List.forall₂_eq_eq_eq, List.forall₂_map_left_iff, List.forall₂_map_right_iff]
    exact emitted.flip.imp fun _ _ both => both.1
  obtain ⟨each, total⟩ := CutLike.total alike
  obtain ⟨eachCode, totalCode⟩ := ChildLike.total emitted
  have arity : (ChildCode.arguments codes).length = ElementCall.arity children := by
    have empty : codes.isEmpty = children.isEmpty := by simpa using congrArg List.isEmpty kinds
    have count : codes.countP ChildCode.isArgument = children.countP (!·.isComment) := by
      simpa [List.countP_map, Function.comp_def] using congrArg (List.countP id) kinds
    rw [ChildCode.length_arguments, ElementCall.arity, empty, count]
  refine ⟨rfl, ⟨each, ?_⟩, written.length_eq.symm, ?_, total, ⟨_, arity, rfl⟩, ?_⟩
  · exact Bracketing.topLevel.arguments target quiet.isPlain
      (Bracketing.topLevel.propsCode each spread) (ChildCode.arguments_balanced eachCode)
  · exact fun _ member => ((List.forall₂_iff_zip.mp written).2 member).2
  · have empty : entries.isEmpty = head.props.isEmpty := by
      rw [Bool.eq_iff_iff, List.isEmpty_iff_length_eq_zero, List.isEmpty_iff_length_eq_zero,
        written.length_eq]
    dsimp only
    rw [totalCuts_arguments target quiet, cuts_propsCode each spread, empty,
      ChildCode.arguments_cuts eachCode, totalCode]

/-- A loop stands in the code as a call of the runtime, with its collection and the reference to its
helper between the parentheses. -/
theorem iteration_cuts (valid : setting.options.validate = .ok ())
    (resolved : resolve setting nodes = .ok (tree, warnings)) {loop : Loop} {body : RenderNode}
    (here : tree.Reaches environment scope (.iteration loop body))
    (collection : IsBalanced loop.collection) :
    Yields .topLevel
      (Emit.node target (Emit.template target tree.templates depth) (.iteration loop body))
      (CutLike "") := by
  have met := RenderTree.Meets.loop here
  have outer : ∀ name ∈ loop.outer, isPlain name := met.isPlain_outer valid resolved
  have base : isPlain ("repeat" ++ capitalize loop.item) := by
    rw [isPlain_append,
      isPlain_capitalize (isPlain_of_isIdentifier (met.isChecked valid resolved).1)]
    decide
  unfold Emit.node
  refine (freshName (IsBalanced.plain base)).bind fun name named => ?_
  refine any.bind fun code _ => any.bind fun _ _ => pure ?_
  have reference := Bracketing.topLevel.boundReference named outer
  have arguments : ∀ argument ∈ [parenthesize loop.collection, boundReference name loop.outer],
      IsBalanced argument := by
    simpa using ⟨Bracketing.topLevel.parenthesized collection, reference⟩
  refine ⟨Bracketing.topLevel.mapped collection reference, ?_⟩
  rw [map_eq_application, cuts_application (by decide) arguments]
  rfl

/-- A scope stands in the code as a call of its helper. The name of the helper is outside of the
parentheses, so it must have no comma. -/
theorem binding_cuts (valid : setting.options.validate = .ok ())
    (resolved : resolve setting nodes = .ok (tree, warnings)) {block : ScopeBlock}
    {body : RenderNode} (here : tree.Reaches environment scope (.binding block body)) :
    Yields .topLevel
      (Emit.node target (Emit.template target tree.templates depth) (.binding block body))
      (CutLike "") := by
  have met := RenderTree.Meets.block here
  have outer : ∀ name ∈ block.outer, isPlain name := met.isPlain_outer valid resolved
  have quiet : isQuiet ("scope" ++ capitalize ((block.aliases.head?.map (·.name)).getD "")) := by
    obtain ⟨some, identifiers⟩ := met.isChecked valid resolved
    obtain ⟨first, rest, listed⟩ := List.exists_cons_of_ne_nil some
    have identifier := identifiers first (listed ▸ List.mem_cons_self)
    rw [listed, isQuiet_append, Bool.and_eq_true]
    exact ⟨by decide, isQuiet_of_all (all_capitalize identifier)⟩
  have list : IsBalanced ("[" ++ ", ".intercalate block.outer ++ "]") := by
    refine Bracketing.topLevel.enclosedIn (by decide)
      (Bracketing.topLevel.intercalated (by decide) ?_)
    exact fun name member => .plain (outer name member)
  have arguments : ∀ argument ∈ ["this", "[" ++ ", ".intercalate block.outer ++ "]"],
      IsBalanced argument := by
    have this : IsBalanced "this" := by decide
    simpa using ⟨this, list⟩
  unfold Emit.node
  refine (freshName_cuts (.plain (isPlain_of_isQuiet quiet))).bind fun name named => ?_
  refine any.bind fun code _ => any.bind fun _ _ => pure ?_
  refine ⟨Bracketing.topLevel.applied named.balanced outer, ?_⟩
  rw [apply_eq_application, cuts_application (named.balanced.append (by decide)) arguments,
    cuts_followed named.balanced (by decide), named.count, cuts_of_isQuiet quiet]
  rfl

mutual

/-- The code of a node is one piece, apart from the commas in a comment. -/
theorem node_cuts (valid : setting.options.validate = .ok ())
    (resolved : resolve setting nodes = .ok (tree, warnings)) (found : RenderNode)
    (here : tree.Reaches environment scope found)
    (balanced : ∀ text ∈ found.written, IsBalanced text) :
    Yields .topLevel (Emit.node target (Emit.template target tree.templates depth) found)
      (CutLike found.remark) := by
  match found with
  | .element head children =>
    obtain ⟨props, spread, inside⟩ := RenderNode.balanced_of_written balanced
    have codes := all_cuts valid resolved children (fun _ member => here.child member) inside
    rw [Emit.node_element]
    exact (elementCall_cuts valid resolved here props spread codes).map
      fun call renders => renders.cutLike (here.tag_isQuiet resolved)
  | .group children =>
    rw [RenderNode.written] at balanced
    unfold Emit.node
    refine (all_cuts valid resolved children (fun _ member => here.grouped member) balanced).bind
      fun codes emitted => pure ?_
    have list : IsBalanced (", ".intercalate (ChildCode.arguments codes)) :=
      Bracketing.topLevel.intercalated (by decide)
        (ChildCode.arguments_balanced (ChildLike.total emitted).1)
    exact ⟨Bracketing.topLevel.enclosedIn (by decide) list, cuts_enclosed (by decide) list⟩
  | .text value =>
    unfold Emit.node
    exact pure ⟨.quoted value, cuts_quote value⟩
  | .expression code =>
    have code : IsBalanced code := balanced code (List.mem_singleton.mpr rfl)
    unfold Emit.node
    exact pure ⟨Bracketing.topLevel.parenthesized code, cuts_parenthesize code⟩
  | .comment value =>
    have text : IsBalanced value := balanced value (List.mem_singleton.mpr rfl)
    unfold Emit.node
    exact pure ⟨.commented text, (tally_iff.mp (tally_blockComment (by decide) text)).2⟩
  | .conditional test body =>
    rw [RenderNode.written, List.forall_mem_cons] at balanced
    unfold Emit.node
    refine (node_cuts valid resolved body here.tested balanced.2).bind fun code alike => pure ?_
    exact ⟨Bracketing.topLevel.conditional balanced.1 alike.balanced,
      cuts_conditional balanced.1 alike.balanced⟩
  | .iteration loop body =>
    exact iteration_cuts valid resolved here (balanced _ (List.mem_singleton.mpr rfl))
  | .binding block body => exact binding_cuts valid resolved here

/-- The codes of children have the commas of the comments among them, and all of them but the
comments are arguments. -/
theorem all_cuts (valid : setting.options.validate = .ok ())
    (resolved : resolve setting nodes = .ok (tree, warnings)) (children : List RenderNode)
    (here : ∀ node ∈ children, tree.Reaches environment scope node)
    (balanced : ∀ text ∈ RenderNode.writtenAll children, IsBalanced text) :
    Yields .topLevel (Emit.all target (Emit.template target tree.templates depth) children)
      (List.Forall₂ ChildLike children) := by
  match children with
  | [] =>
    unfold Emit.all
    exact pure .nil
  | child :: rest =>
    rw [List.forall_mem_cons] at here
    rw [RenderNode.writtenAll, List.forall_mem_append] at balanced
    unfold Emit.all
    refine (node_cuts valid resolved child here.1 balanced.1).bind fun code alike => ?_
    refine (all_cuts valid resolved rest here.2 balanced.2).bind fun codes kept =>
      pure (List.Forall₂.cons ?_ kept)
    cases kind : child.isComment with
    | true => exact ⟨by rw [kind]; rfl, alike⟩
    | false => exact ⟨by rw [kind]; rfl, alike⟩

end

end Emit.Yields

namespace RenderTree

/-- The code of a node, after some helpers. -/
def nodeCode (tree : RenderTree) (target : Target) (node : RenderNode) (emitted : Emitted) :
    String :=
  ((Emit.node target (Emit.template target tree.templates tree.templates.length) node).run
    emitted).1

/-- The call that creates an element, after some helpers. -/
def elementCall (tree : RenderTree) (target : Target) (head : ElementHead)
    (children : List RenderNode) (emitted : Emitted) : ElementCall :=
  ((Emit.elementCall target (Emit.template target tree.templates tree.templates.length) head
    children).run emitted).1

end RenderTree

/-- The call for an element has an entry for each prop, which starts with its key, and an argument
for each child that is rendered. The entries are the pieces between the commas in the braces if and
only if no prop was written with a comma at the top level. The arguments are the pieces between the
commas of the call if and only if no comment among the children has one, and neither has an object
that is all there is of the props. It is enough that the brackets and literals are balanced in what
was written for this code; the rest of the tree and the helpers do not matter. -/
theorem elementCall_split_iff {host : HostLanguage} {options : Options} {source : String}
    {tree : RenderTree} {warnings : List Warning} (valid : options.validate = .ok ())
    (rendered : renderTree host options source = .ok (tree, warnings))
    {environment : List String} {scope : Scope} {head : ElementHead} {children : List RenderNode}
    (here : tree.Reaches environment scope (.element head children))
    (balanced : ∀ text ∈ (RenderNode.element head children).written, IsBalanced text)
    (emitted : Emitted) :
    let target := Target.ofOptions options
    let call := tree.elementCall target head children emitted
    tree.nodeCode target (.element head children) emitted =
      Target.application (target.callee head.tag) call.arguments ∧
    call.entries.length = head.props.length ∧
    (∀ pair ∈ head.props.zip call.entries,
      ∃ value, pair.2 = propertyKey pair.1.key ++ ": " ++ value) ∧
    (∃ codes : List String, codes.length = ElementCall.arity children ∧
      call.arguments =
        target.arguments head.tag (Emit.propsCode call.entries head.spread) codes) ∧
    (∀ inside, head.props ≠ [] → objectLiteral call.entries = "\x7b" ++ inside ++ "\x7d" →
      (split ',' inside = spaced call.entries ↔
        ∀ prop ∈ head.props, split ',' prop.value.text = [prop.value.text])) ∧
    (split ',' (", ".intercalate call.arguments) = padded call.arguments ↔
      (head.props = [] → ∀ spread ∈ head.spread, split ',' spread = [spread]) ∧
      ∀ child ∈ children, split ',' child.remark = [child.remark]) := by
  intro target call
  obtain ⟨nodes, resolved⟩ := exists_resolve_of_renderTree rendered
  obtain ⟨props, spread, inside⟩ := RenderNode.balanced_of_written balanced
  have codes : Emit.Yields .topLevel
      (Emit.all target (Emit.template target tree.templates tree.templates.length) children)
      (List.Forall₂ ChildLike children) :=
    Emit.Yields.all_cuts valid resolved children (fun _ member => here.child member) inside
  have renders : call.Renders target head children :=
    (Emit.Yields.elementCall_cuts valid resolved here props spread codes emitted
      fun _ _ => trivial).1
  have code : tree.nodeCode target (.element head children) emitted =
      Target.application (target.callee head.tag) call.arguments := by
    rw [RenderTree.nodeCode, Emit.node_element]
    rfl
  refine ⟨code, renders.length, renders.keys, renders.shape, ?_, ?_⟩
  · intro inside some literal
    have nonempty : call.entries ≠ [] := by
      rw [← List.length_pos_iff, renders.length]
      exact List.length_pos_iff.mpr some
    rw [split_spaced_iff nonempty renders.balanced.1 literal, renders.entries,
      totalCuts_eq_zero_iff, List.forall_mem_map]
  · have nonempty : call.arguments ≠ [] := by
      obtain ⟨codes, _, shape⟩ := renders.shape
      rw [shape]
      unfold Target.arguments
      split
      · exact List.cons_ne_nil _ _
      · exact List.cons_ne_nil _ _
    have lone : (if head.props.isEmpty then totalCuts ',' head.spread.toList else 0) = 0 ↔
        (head.props = [] → ∀ spread ∈ head.spread, split ',' spread = [spread]) := by
      rw [ite_eq_right_iff, List.isEmpty_iff, totalCuts_eq_zero_iff]
      simp only [Option.mem_toList, Option.mem_def]
    rw [split_padded_iff nonempty renders.balanced.2, renders.arguments, Nat.add_eq_zero_iff, lone,
      totalCuts_eq_zero_iff, List.forall_mem_map]

/-- An element with a prop of each kind and with children of each kind, and with commas inside of
brackets and literals. A bracket stays open in the body of its loop. -/
def fullElement : String :=
  "<Box title=\"\x7bf(a, b)\x7d\" label=\"x, \x7by\x7d\" onTap=\"e => go(e, 1)\" rt-props=\"rest\">" ++
    "<!-- [note, well] -->\x7ba, b\x7d<b rt-if=\"p, q\"/>one, two" ++
      "<i rt-repeat=\"x in xs\" id=\"\x7b/(/\x7d\"/></Box>"

/-- What the root of a tree is made of, if it is an element: its head and its children. -/
def RenderTree.rootElement? (tree : RenderTree) : Option (ElementHead × List RenderNode) :=
  match tree.root with
  | .element head children => some (head, children)
  | _ => none

theorem RenderTree.root_of_rootElement? {tree : RenderTree} {head : ElementHead}
    {children : List RenderNode} (found : tree.rootElement? = some (head, children)) :
    tree.root = .element head children := by
  unfold rootElement? at found
  split at found
  · next same =>
    cases found
    exact same
  · cases found

theorem fullElement_split :
    ∃ tree warnings head children, Options.validate {} = .ok () ∧
      renderTree .standard {} fullElement = .ok (tree, warnings) ∧
      tree.root = .element head children ∧
      (∀ text ∈ (RenderNode.element head children).written, IsBalanced text) ∧
      head.props.map (·.key) = ["title", "label", "onTap"] ∧
      (∀ inside, objectLiteral (tree.elementCall .web head children {}).entries =
          "\x7b" ++ inside ++ "\x7d" →
        split ',' inside = spaced (tree.elementCall .web head children {}).entries) ∧
      split ',' (", ".intercalate (tree.elementCall .web head children {}).arguments) =
        padded (tree.elementCall .web head children {}).arguments := by
  have evaluated : ((renderTree .standard {} fullElement).toOption.map fun pair =>
      pair.1.rootElement?.map fun found => [(RenderNode.element found.1 found.2).written,
        found.1.props.map (·.key), found.1.props.map (·.value.text), found.2.map (·.remark)]) =
      some
        (some [["f(a, b)", "\"x, \" + y", "onTap", "rest", " [note, well] ", "a, b", "p, q", "xs"],
          ["title", "label", "onTap"], ["f(a, b)", "\"x, \" + y", "onTap"],
        [" [note, well] ", "", "", "", ""]]) := by
    decide +kernel
  obtain ⟨⟨tree, warnings⟩, rendered, seen⟩ := exists_ok_of_toOption evaluated
  obtain ⟨⟨head, children⟩, found, parts⟩ := Option.map_eq_some_iff.mp seen
  simp only [List.cons.injEq, and_true] at parts
  obtain ⟨written, keys, values, remarks⟩ := parts
  have valid : Options.validate {} = .ok () := rfl
  have same := RenderTree.root_of_rootElement? found
  have here : tree.Reaches [] {} (.element head children) := same ▸ .root
  have balanced : ∀ text ∈ (RenderNode.element head children).written, IsBalanced text := by
    rw [written]
    decide
  obtain ⟨_, _, _, _, entries, arguments⟩ := elementCall_split_iff valid rendered here balanced {}
  have some : head.props ≠ [] := by
    rintro none
    rw [none] at keys
    cases keys
  have quiet : ∀ prop ∈ head.props, split ',' prop.value.text = [prop.value.text] := by
    have each : ∀ text ∈ head.props.map (·.value.text), split ',' text = [text] := by
      rw [values]
      decide
    exact List.forall_mem_map.mp each
  have still : ∀ child ∈ children, split ',' child.remark = [child.remark] := by
    have each : ∀ text ∈ children.map RenderNode.remark, split ',' text = [text] := by
      rw [remarks]
      decide
    exact List.forall_mem_map.mp each
  refine ⟨tree, warnings, head, children, valid, rendered, same, balanced, keys, ?_, ?_⟩
  · exact fun inside literal => (entries inside some literal).mpr quiet
  · exact arguments.mpr ⟨fun none => absurd none some, still⟩

/-- A prop or an object with a comma becomes two pieces. Where the brackets in an expression are not
balanced, as in a pattern, two props become one piece. -/
theorem elementCall_split_fails :
    (∃ tree warnings, renderTree .standard {} "<div title=\"\x7ba, b\x7d\"/>" =
      .ok (tree, warnings) ∧
      (tree.emit .web).1 = "React.createElement(\"div\", \x7b title: a, b \x7d)" ∧
      split ',' " title: a, b " = [" title: a", " b "]) ∧
    (∃ tree warnings, renderTree .standard {} "<div rt-props=\"a, b\"/>" = .ok (tree, warnings) ∧
      (tree.emit .web).1 = "React.createElement(\"div\", a, b)" ∧
      split ',' "\"div\", a, b" = ["\"div\"", " a", " b"]) ∧
    ∃ tree warnings, renderTree .standard {} "<div title=\"\x7b/(/\x7d\" id=\"b\"/>" =
      .ok (tree, warnings) ∧
      (tree.emit .web).1 = "React.createElement(\"div\", \x7b title: /(/, id: \"b\" \x7d)" ∧
      split ',' " title: /(/, id: \"b\" " = [" title: /(/, id: \"b\" "] := by
  have prop : ((renderTree .standard {} "<div title=\"\x7ba, b\x7d\"/>").toOption.map fun pair =>
      (pair.1.emit .web).1) =
      some "React.createElement(\"div\", \x7b title: a, b \x7d)" := by
    decide +kernel
  have object : ((renderTree .standard {} "<div rt-props=\"a, b\"/>").toOption.map fun pair =>
      (pair.1.emit .web).1) =
      some "React.createElement(\"div\", a, b)" := by
    decide +kernel
  have pattern :
      ((renderTree .standard {} "<div title=\"\x7b/(/\x7d\" id=\"b\"/>").toOption.map fun pair =>
      (pair.1.emit .web).1) =
        some "React.createElement(\"div\", \x7b title: /(/, id: \"b\" \x7d)" := by
    decide +kernel
  obtain ⟨⟨tree, warnings⟩, rendered, code⟩ := exists_ok_of_toOption prop
  obtain ⟨⟨merged, mergedWarnings⟩, mergedRendered, mergedCode⟩ := exists_ok_of_toOption object
  obtain ⟨⟨open', openWarnings⟩, openRendered, openCode⟩ := exists_ok_of_toOption pattern
  exact ⟨⟨tree, warnings, rendered, code, by decide⟩,
    ⟨merged, mergedWarnings, mergedRendered, mergedCode, by decide⟩, open', openWarnings,
    openRendered, openCode, by decide⟩

end RenderTemplate
