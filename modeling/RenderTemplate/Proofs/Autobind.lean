import RenderTemplate.Proofs.PropKeys
import RenderTemplate.Proofs.TreePass

namespace RenderTemplate

open Markup

/-- A value with the method bound that it refers to, if its key is that of an event. -/
def PropValue.bound (host : HostLanguage) (key : String) : PropValue → PropValue
  | .code text =>
    .code (if isEventName key && host.refersToMethod text then text ++ ".bind(this)" else text)
  | value => value

def RenderProp.bound (host : HostLanguage) (prop : RenderProp) : RenderProp :=
  { prop with value := prop.value.bound host prop.key }

/-- The pass that binds the methods that handlers refer to. -/
def bindMethods (host : HostLanguage) : TreePass where
  prop := RenderProp.bound host

/-- A setting with methods bound or not. -/
def Setting.withAutobind (setting : Setting) (autobind : Bool) : Setting :=
  { setting with options := { setting.options with autobind := autobind } }

theorem PropValue.bound_of_other {host : HostLanguage} {key : String}
    (other : isEventName key = false) (value : PropValue) :
    value.bound host key = value := by
  cases value with
  | code code => rw [PropValue.bound, other, Bool.false_and, if_neg Bool.false_ne_true]
  | handler found => rfl
  | template index => rfl

theorem RenderProp.bound_of_other {host : HostLanguage} {prop : RenderProp}
    (other : isEventName prop.key = false) :
    prop.bound host = prop := by
  rw [RenderProp.bound, PropValue.bound_of_other other]

/-- Attributes are events exactly if the props are that they become. -/
theorem isEventName_propKey (target : Target) (name : String) :
    isEventName (propKey target name) = isEventName name := by
  unfold propKey documentProp
  split
  · rfl
  · split
    · next same => rw [beq_iff_eq.mp same]; decide
    · split
      · next same => rw [beq_iff_eq.mp same]; decide
      · rfl

namespace TreePass

variable {pass : TreePass}

mutual

theorem sourceNode_eq_self (kept : pass.keepsComments) (node : Node) :
    pass.sourceNode node = node := by
  match node with
  | .element start children => rw [sourceNode, source_eq_self kept children]
  | .text parts place => rfl
  | .comment value place => rfl

/-- A pass that leaves comments in their places leaves templates alone. -/
theorem source_eq_self (kept : pass.keepsComments) (forest : List Node) :
    pass.source forest = forest := by
  match forest with
  | [] => rfl
  | node :: rest =>
    have stays : pass.keepsSource node := by
      cases node with
      | comment value place => exact kept
      | text parts place => rfl
      | element start children => rfl
    rw [source, if_pos stays, sourceNode_eq_self kept node, source_eq_self kept rest]

end

end TreePass

section

variable (setting : Setting) (scope : Scope)

/-- The option binds the value of an event if it refers to a method. -/
theorem handlerValue_autobind (attr : Attribute) {key : String} (event : isEventName key)
    (value : String) :
    handlerValue (setting.withAutobind true) scope attr key value =
      (handlerValue (setting.withAutobind false) scope attr key value).map
        (PropValue.bound setting.host key) := by
  unfold handlerValue Setting.withAutobind
  dsimp only
  split
  · next code _ =>
    cases setting.host.validate code attr.location with
    | error error => rfl
    | ok found =>
      have bound : PropValue.bound setting.host key (.code code) =
          .code (if setting.host.refersToMethod code then code ++ ".bind(this)" else code) := by
        rw [PropValue.bound, event, Bool.true_and]
      exact congrArg Except.ok bound.symm
  · cases setting.host.lambda _ attr.location with
    | error error => rfl
    | ok lambda => rfl

/-- Only what handles an event depends on the option. -/
theorem attributeValue_autobind (attr : Attribute) {key : String}
    (same : isEventName key = isEventName attr.name) :
    attributeValue (setting.withAutobind true) scope attr key =
      (attributeValue (setting.withAutobind false) scope attr key).map
        (PropValue.bound setting.host key) := by
  cases event : isEventName attr.name with
  | false =>
    have unbound : PropValue.bound setting.host key = id :=
      funext (PropValue.bound_of_other (same.trans event))
    have independent : attributeValue (setting.withAutobind true) scope attr key =
        attributeValue (setting.withAutobind false) scope attr key := by
      unfold attributeValue
      rw [event]
      rfl
    rw [unbound, Except.map_id, independent]
    rfl
  | true =>
    unfold attributeValue
    rw [event]
    cases attr.value with
    | none => rfl
    | some value => exact handlerValue_autobind setting scope attr (same.trans event) value

/-- One more attribute makes the same difference to the props, whatever came before it. -/
theorem addProp_autobind (props : List RenderProp) (attr : Attribute) :
    addProp (setting.withAutobind true) scope (props.map (RenderProp.bound setting.host)) attr =
      (addProp (setting.withAutobind false) scope props attr).map fun added =>
        added.map (RenderProp.bound setting.host) := by
  have keys :
      (props.map (RenderProp.bound setting.host)).any
      (·.key == propKey (setting.withAutobind true).target attr.name) =
      props.any (·.key == propKey (setting.withAutobind false).target attr.name) := by
    rw [List.any_map]
    rfl
  rw [← Alike.iff_eq_map]
  unfold addProp
  dsimp only
  rw [keys]
  split
  · exact .error _
  · have values :=
      attributeValue_autobind setting scope attr (isEventName_propKey setting.target attr.name)
    refine (Alike.iff_eq_map.mpr values).bind ?_
    rintro value _ rfl
    refine .ok ?_
    rw [List.map_append]
    rfl

theorem foldlM_addProp_autobind (attributes : List Attribute) (props : List RenderProp) :
    attributes.foldlM (addProp (setting.withAutobind true) scope)
      (props.map (RenderProp.bound setting.host)) =
      (attributes.foldlM (addProp (setting.withAutobind false) scope) props).map fun added =>
        added.map (RenderProp.bound setting.host) := by
  induction attributes generalizing props with
  | nil => rfl
  | cons attr rest ih =>
    rw [List.foldlM_cons, List.foldlM_cons, addProp_autobind]
    cases addProp (setting.withAutobind false) scope props attr with
    | error error => rfl
    | ok added => exact ih added

end

namespace ClassSet

variable {host : HostLanguage} {key : String} (other : isEventName key = false)

include other

theorem mergeInto?_bound (classes : String) (props : List RenderProp) :
    mergeInto? key classes (props.map (RenderProp.bound host)) =
      (mergeInto? key classes props).map fun merged => merged.map (RenderProp.bound host) := by
  induction props with
  | nil => rfl
  | cons prop rest ih =>
    rw [List.map_cons]
    unfold mergeInto?
    by_cases same : prop.key = key
    · rw [RenderProp.bound_of_other (same ▸ other), if_pos (beq_iff_eq.mpr same),
        if_pos (beq_iff_eq.mpr same)]
      cases prop.value with
      | code existing =>
        rw [Option.map_some, List.map_cons, RenderProp.bound_of_other other]
      | handler found => rfl
      | template index => rfl
    · have differs : ¬ (prop.key == key) = true := by simpa using same
      rw [if_neg differs, if_neg (show ¬ ((prop.bound host).key == key) = true from differs), ih,
        Option.map_map, Option.map_map]
      rfl

/-- Classes are merged in before the methods are bound, or after that. -/
theorem merge_bound (classes : String) (props : List RenderProp) :
    merge key classes (props.map (RenderProp.bound host)) =
      (merge key classes props).map (RenderProp.bound host) := by
  unfold merge
  rw [mergeInto?_bound other]
  cases mergeInto? key classes props with
  | none =>
    have alone : RenderProp.bound host ⟨key, .code classes⟩ = ⟨key, .code classes⟩ :=
      RenderProp.bound_of_other other
    rw [Option.map_none, Option.getD_none, Option.getD_none, List.map_append, List.map_singleton,
      alone]
  | some merged => rfl

end ClassSet

/-- Classes are joined to props that are no events, and so they are the same with the option. -/
theorem ClassSet.addTo_autobind (setting : Setting) (props : List RenderProp)
    (directive : DirectiveValue) :
    addTo (setting.withAutobind true) (props.map (RenderProp.bound setting.host)) directive =
      (addTo (setting.withAutobind false) props directive).map fun added =>
        added.map (RenderProp.bound setting.host) := by
  have other : isEventName (ClassSet.key setting.target) = false :=
    Bool.eq_false_iff.mpr (not_isEventName_key setting.target)
  unfold addTo
  dsimp only [Setting.withAutobind]
  cases setting.host.validate (objectCode directive.value) directive.location with
  | error error => rfl
  | ok found => exact congrArg Except.ok (merge_bound other _ props)

/-- All props of an element are the same but for the methods that are bound. -/
theorem attributeProps_autobind (setting : Setting) (scope : Scope) (found : Directives) :
    attributeProps (setting.withAutobind true) scope found =
      (attributeProps (setting.withAutobind false) scope found).map fun props =>
        props.map (RenderProp.bound setting.host) := by
  rw [← Alike.iff_eq_map]
  unfold attributeProps
  refine (Alike.iff_eq_map.mpr (foldlM_addProp_autobind setting scope found.plain [])).bind ?_
  rintro props _ rfl
  cases found.classSet with
  | none => exact .ok rfl
  | some directive => exact Alike.iff_eq_map.mpr (ClassSet.addTo_autobind setting props directive)

/-- To bind methods in the tree is to resolve with the option. -/
theorem bindMethods_realizes (setting : Setting) :
    (bindMethods setting.host).Realizes (setting.withAutobind false) (setting.withAutobind true)
      where
  host := rfl
  target := rfl
  format := rfl
  specs := rfl
  references _ _ := rfl
  props := attributeProps_autobind setting

/-- Binding methods changes props with the name of an event only, and of these only the ones whose
code refers to a method: without the option the resolution fails with the same error, or it gives
the same warnings and the same tree but for these. -/
theorem autobind_binds_methods (setting : Setting) (nodes : List Node) :
    resolve (setting.withAutobind true) nodes =
      (resolve (setting.withAutobind false) nodes).map (bindMethods setting.host).result := by
  have resolved := (bindMethods_realizes setting).resolve_source nodes
  rwa [TreePass.source_eq_self rfl] at resolved

end RenderTemplate
