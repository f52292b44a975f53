import RenderTemplate.Directive
import RenderTemplate.Identifier
import RenderTemplate.Options

namespace RenderTemplate

namespace Markup

/-- An element with its children. -/
def Node.element? : Node → Option (StartTag × List Node)
  | .element start children => some (start, children)
  | _ => none

/-- Whether a node may stand beside the one element that is wrapped. -/
def Node.isFiller : Node → Bool
  | .text parts _ => isBlankText parts
  | _ => true

/-- The element of a forest that has no other element, and else only comments and blank text. -/
def soleElement? (nodes : List Node) : Option (StartTag × List Node) :=
  match nodes.filterMap Node.element? with
  | [element] => if nodes.all Node.isFiller then some element else none
  | _ => none

/-- What is wrapped is the one element of a forest, if all other nodes may stand beside it. -/
theorem soleElement?_eq_some_iff {nodes : List Node} {body : StartTag × List Node} :
    soleElement? nodes = some body ↔
      nodes.filterMap Node.element? = [body] ∧ nodes.all Node.isFiller := by
  unfold soleElement?
  split
  · next element sole =>
    rw [sole, Option.ite_none_right_eq_some, Option.some.injEq, List.singleton_inj, and_comm]
  · next other => exact iff_of_false nofun fun sole => other body sole.1

end Markup

open Markup

namespace TemplateSpec

/-- The arguments with one more, unless it is blank. -/
def addArgument (place : Location) (known : List String) (piece : String) :
    Except CompileError (List String) :=
  let name := Text.trim piece
  if name.isEmpty then .ok known
  else if !isIdentifier name || known.contains name then
    .error ((Fault.invalidTemplateArgument name).error place)
  else .ok (known ++ [name])

/-- Reads arguments with commas between them. -/
def readArguments (text : String) (place : Location) : Except CompileError (List String) :=
  (TopLevel.split ',' text).foldlM (addArgument place) []

/-- The spec that a template declares by its attributes. -/
def ofStart (start : StartTag) : Except CompileError TemplateSpec :=
  match start.trimmedValue? "prop" with
  | none => .error (Fault.missingTemplateProp.error start.location)
  | some prop =>
    if isIdentifier prop then do
      let arguments ← match start.value? "arguments" with
        | some text => readArguments text start.location
        | none => .ok []
      return ⟨prop, arguments⟩
    else .error ((Fault.invalidTemplateProp prop).error start.location)

end TemplateSpec

/-- Whether an element declares itself as a template. -/
def declaresTemplate (start : StartTag) : Bool :=
  ReservedTag.ofTag? start.name == some .template

/-- How a child becomes a prop of its owner, if it does: as it declares, or as the options tell. -/
def childSpec? (options : Options) (owner : String) (start : StartTag) :
    Option (Except CompileError TemplateSpec) :=
  if declaresTemplate start then some (TemplateSpec.ofStart start)
  else (options.spec? owner start.name).map .ok

/-- The warnings about attributes of a child that becomes a prop, which have no effect. -/
def childWarnings (start : StartTag) : List Warning :=
  if declaresTemplate start then
    (start.attributes.filter fun attr => attr.name != "prop" && attr.name != "arguments").map
      fun attr => (Oddity.ignoredTemplateAttribute attr.name).warning attr.location
  else
    (start.attributes.filter fun attr => Directive.isReserved attr.name).map
      fun attr => (Oddity.ignoredTriggerDirective attr.name start.name).warning attr.location

/-- A child that becomes a prop, with the element that it wraps. -/
structure Candidate where
  spec : TemplateSpec
  body : StartTag × List Node
  location : Location
deriving Repr

/-- The children of an element that become props, and those that stay. -/
structure Extraction where
  candidates : List Candidate := []
  remaining : List Node := []
  warnings : List Warning := []
deriving Repr

namespace Extraction

/-- Refuses a child as a prop that its owner has already. -/
def checkNew (owner : StartTag) (known : List Candidate) (candidate : Candidate) :
    Except CompileError Unit :=
  let prop := candidate.spec.prop
  if known.any (·.spec.prop == prop) then
    .error ((Fault.duplicateTemplate owner.name prop).error candidate.location)
  else if owner.hasAttribute prop then
    .error ((Fault.templateCollides owner.name prop).error candidate.location)
  else .ok ()

/-- The children with one more. -/
def add (options : Options) (owner : StartTag) (found : Extraction) (node : Node) :
    Except CompileError Extraction :=
  match node with
  | .element start children =>
    match childSpec? options owner.name start with
    | none => .ok { found with remaining := found.remaining ++ [node] }
    | some spec => do
      let spec ← spec
      match soleElement? children with
      | none => .error ((Fault.invalidTemplateContent start.name).error start.location)
      | some body =>
        let candidate := ⟨spec, body, start.location⟩
        checkNew owner found.candidates candidate
        return { found with
          candidates := found.candidates ++ [candidate]
          warnings := found.warnings ++ childWarnings start }
  | _ => .ok { found with remaining := found.remaining ++ [node] }

/-- The children of an element, with those that become props apart. -/
def ofElement (options : Options) (owner : StartTag) (children : List Node) :
    Except CompileError Extraction :=
  children.foldlM (add options owner) {}

end Extraction

end RenderTemplate
