import RenderTemplate.Diagnostic.Fault
import RenderTemplate.HostLanguage
import RenderTemplate.Markup
import RenderTemplate.Text.Search

namespace RenderTemplate

/-- Attributes that say how an element is rendered. -/
inductive Directive where
  | conditional
  | iteration
  | scopeBinding
  | classSet
  | propsSpread
  | stateless
  | preserve
deriving DecidableEq, Repr

namespace Directive

/-- The directives by the names of their attributes. -/
def names : List (String × Directive) := [
  ("rt-if", conditional), ("rt-repeat", iteration), ("rt-scope", scopeBinding),
    ("rt-class", classSet),
  ("rt-props", propsSpread), ("rt-stateless", stateless), ("rt-pre", preserve)]

/-- The directive that an attribute is. -/
def ofName? (name : String) : Option Directive :=
  names.lookup name

/-- Whether a name is of the form that is kept for directives. -/
def isReserved (name : String) : Bool :=
  Text.startsWith name "rt-"

end Directive

/-- Tags that are not rendered as elements. -/
inductive ReservedTag where
  /-- Imports a module. -/
  | require
  /-- Imports what a module exports. -/
  | importMember
  /-- A template that the element around it gets as a prop. -/
  | template
  /-- Nodes without an element around them. -/
  | group
deriving DecidableEq, Repr

namespace ReservedTag

/-- The tags by their names. -/
def names : List (String × ReservedTag) := [
  ("rt-require", require), ("rt-import", importMember), ("rt-template", template),
    ("rt-virtual", group)]

/-- The reserved tag with a name. -/
def ofTag? (tag : String) : Option ReservedTag :=
  names.lookup tag

/-- Whether a tag declares an import. -/
def isImport (tag : String) : Bool :=
  ofTag? tag == some .require || ofTag? tag == some .importMember

end ReservedTag

/-- The value of a directive and its place. -/
structure DirectiveValue where
  value : String
  location : Location := {}
deriving DecidableEq, Repr

/-- The expression that a directive has as its value. -/
def DirectiveValue.expression (directive : DirectiveValue) (host : HostLanguage) :
    Except CompileError String := do
  let code := Text.trim directive.value
  host.validate code directive.location
  return code

/-- The directives of an element, and its other attributes. -/
structure Directives where
  condition : Option DirectiveValue := none
  iteration : Option DirectiveValue := none
  scope : Option DirectiveValue := none
  classSet : Option DirectiveValue := none
  spread : Option DirectiveValue := none
  stateless : Option Location := none
  preserve : Bool := false
  plain : List Markup.Attribute := []
deriving DecidableEq, Repr

namespace Directives

/-- A value that may be set once. -/
def setOnce (tag : String) (attr : Markup.Attribute) :
    Option DirectiveValue → Except CompileError DirectiveValue
  | none => .ok ⟨attr.value.getD "", attr.location⟩
  | some _ => .error ((Fault.duplicateDirective attr.name tag).error attr.location)

/-- The directives with those of one more attribute. -/
def add (tag : String) (found : Directives) (attr : Markup.Attribute) :
    Except CompileError Directives :=
  match Directive.ofName? attr.name with
  | none => .ok { found with plain := found.plain ++ [attr] }
  | some .conditional => do return { found with condition := ← setOnce tag attr found.condition }
  | some .iteration => do return { found with iteration := ← setOnce tag attr found.iteration }
  | some .scopeBinding => do return { found with scope := ← setOnce tag attr found.scope }
  | some .classSet => do return { found with classSet := ← setOnce tag attr found.classSet }
  | some .propsSpread => do return { found with spread := ← setOnce tag attr found.spread }
  | some .stateless => .ok { found with stateless := some attr.location }
  | some .preserve => .ok { found with preserve := true }

/-- The directives of an element. -/
def collect (start : Markup.StartTag) : Except CompileError Directives :=
  start.attributes.foldlM (add start.name) {}

/-- The warnings about attributes that look like directives and are none. -/
def unknownWarnings (start : Markup.StartTag) : List Warning :=
  (start.attributes.filter fun attr =>
    (Directive.ofName? attr.name).isNone && Directive.isReserved attr.name).map
    fun attr => (Oddity.unknownDirective attr.name).warning attr.location

/-- The directives that are there. -/
def present (found : Directives) : List Directive :=
  (if found.condition.isSome then [.conditional] else []) ++
  (if found.iteration.isSome then [.iteration] else []) ++
  (if found.scope.isSome then [.scopeBinding] else []) ++
  (if found.classSet.isSome then [.classSet] else []) ++
  (if found.spread.isSome then [.propsSpread] else []) ++
  (if found.stateless.isSome then [.stateless] else []) ++
  (if found.preserve then [.preserve] else [])

/-- What an element cannot have that renders its children only. -/
def unsuitedToGroup (found : Directives) : Option String :=
  match found.plain with
  | attr :: _ => some attr.name
  | [] =>
    if found.classSet.isSome then some "rt-class"
    else if found.spread.isSome then some "rt-props"
    else if found.stateless.isSome then some "rt-stateless"
    else none

end Directives

end RenderTemplate
