import RenderTemplate.Directive.Repeat
import RenderTemplate.Directive.ScopeClause
import RenderTemplate.Extraction
import RenderTemplate.Props

namespace RenderTemplate

open Markup

/-- What has been found so far, and the scope at the place that is in work. -/
structure Progress where
  scope : Scope := {}
  imports : ImportTable := {}
  templates : List PropTemplate := []
  warnings : List Warning := []
deriving Repr

/-- Computations that collect imports, templates and warnings, and that go into frames and out of
them. -/
abbrev Resolve := StateT Progress (Except CompileError)

namespace Resolve

/-- Notes warnings. -/
def warn (warnings : List Warning) : Resolve Unit :=
  modify fun progress => { progress with warnings := progress.warnings ++ warnings }

/-- Ends the resolution. -/
def fail {α : Type} (fault : Fault) (place : Location) : Resolve α :=
  throw (fault.error place)

/-- The scope at the place that is in work. -/
def currentScope : Resolve Scope := do
  return (← get).scope

/-- Goes into a frame with names of its own. It gets the other names that are bound around it, which
are told. -/
def enter (kind : FrameKind) (own : List String) : Resolve (List String) := do
  let progress ← get
  set { progress with scope := progress.scope.push kind own }
  return progress.scope.outside own

/-- Goes out of the innermost frame. -/
def leave : Resolve Unit :=
  modify fun progress => { progress with scope := progress.scope.pop }

/-- Declares an import, and tells whether it is new. -/
def declare (dependency : Dependency) (place : Location) : Resolve Bool := fun progress =>
  (progress.imports.declare dependency place).map fun found =>
    (found.1, { progress with imports := found.2 })

/-- Adds a template, and gives its index. -/
def add (template : PropTemplate) : Resolve Nat := do
  let progress ← get
  set { progress with templates := progress.templates ++ [template] }
  return progress.templates.length

end Resolve

namespace Dependency

/-- The value of an attribute that an import has to have. -/
def required (start : StartTag) (name : String) : Except CompileError String :=
  match start.trimmedValue? name with
  | some value => .ok value
  | none => .error ((Fault.missingImportAttribute start.name name).error start.location)

/-- The import of a module. -/
def ofRequire (start : StartTag) : Except CompileError Dependency := do
  let source ← required start "dependency"
  return ⟨← required start "as", source, .moduleValue⟩

/-- What the name in an import stands for. -/
def bindingOf (start : StartTag) (name : String) : Except CompileError Binding :=
  if name == "*" then .ok .allExports
  else if name == "default" then .ok .defaultExport
  else if isIdentifier name then .ok (.member name)
  else .error ((Fault.invalidImportName name).error start.location)

/-- The import of what a module exports. A member keeps its name if there is no other. -/
def ofImport (start : StartTag) : Except CompileError Dependency := do
  let name ← required start "name"
  let source ← required start "from"
  let binding ← bindingOf start name
  let localName ← match start.trimmedValue? "as", binding with
    | some found, _ => .ok found
    | none, .member member => .ok member
    | none, _ => required start "as"
  return ⟨localName, source, binding⟩

/-- The import that an element declares. -/
def ofElement (start : StartTag) : Except CompileError Dependency := do
  let dependency ← if ReservedTag.ofTag? start.name == some .require then ofRequire start
      else ofImport start
  if isIdentifier dependency.localName then return dependency
  else .error ((Fault.invalidImportAlias dependency.localName).error start.location)

end Dependency

/-- The warnings about an import, if it is new: some formats have no place for it. -/
def unemittedWarnings (format : ModuleFormat) (start : StartTag) (added : Bool) : List Warning :=
  if added && !format.emitsImports
    then [(Oddity.unemittedImport start.name format.name).warning start.location] else []

/-- Declares the import that an element describes. -/
def declareImport (setting : Setting) (start : StartTag) : Resolve Unit := do
  let added ← Resolve.declare (← Dependency.ofElement start) start.location
  Resolve.warn (unemittedWarnings setting.options.format start added)

/-- What text renders: nothing if it is blank, and else its parts. -/
def textNodes (host : HostLanguage) (parts : List Part) (place : Location) :
    Except CompileError (List RenderNode) :=
  if isBlankText parts then .ok []
  else do
    let nodes ← parts.mapM fun
      | .literal text => .ok (if text.isEmpty then [] else [RenderNode.text text])
      | .expression code => do
        host.validate code place
        return [RenderNode.expression (Text.trim code)]
    return nodes.flatten

/-- The directives of an element. Only the root can be stateless. -/
def elementDirectives (isRoot : Bool) (start : StartTag) : Resolve Directives := do
  let found ← Directives.collect start
  Resolve.warn (Directives.unknownWarnings start)
  match isRoot, found.stateless with
  | false, some place =>
    Resolve.warn [Oddity.misplacedStateless.warning place]
    return { found with stateless := none }
  | _, _ => return found

/-- The expression of a directive that may be missing. -/
def optionalExpression (host : HostLanguage) (directive : Option DirectiveValue) :
    Except CompileError (Option String) :=
  match directive with
  | none => return none
  | some directive => do return some (← directive.expression host)

/-- What stands around an element. Directives nest in one order: a loop is outermost, then come the
names of a scope, then a condition. So the values of a scope may use the names of the loop, and a
condition those of both. -/
structure Wrapping where
  loop : Option Loop
  block : Option ScopeBlock
  test : Option String
deriving Repr

namespace Wrapping

/-- Reads a loop and goes into it. -/
def enterLoop (host : HostLanguage) (directive : Option DirectiveValue) : Resolve (Option Loop) :=
  match directive with
  | none => return none
  | some directive => do
    let clause ← RepeatClause.read host directive
    let outer ← Resolve.enter .iteration [clause.item, clause.index]
    return some ⟨clause.collection, clause.item, clause.index, outer⟩

/-- Reads names for values and goes into their scope. -/
def enterBlock (host : HostLanguage) (directive : Option DirectiveValue) :
    Resolve (Option ScopeBlock) :=
  match directive with
  | none => return none
  | some directive => do
    let aliases ← ScopeClause.read host directive
    let outer ← Resolve.enter .scope (aliases.map (·.name))
    return some ⟨aliases, outer⟩

/-- Reads what the directives of an element put around it, and goes into it. -/
def enter (host : HostLanguage) (found : Directives) : Resolve Wrapping := do
  let loop ← enterLoop host found.iteration
  let block ← enterBlock host found.scope
  let test ← optionalExpression host found.condition
  return ⟨loop, block, test⟩

/-- A node after its condition. -/
def testNode (test : Option String) (node : RenderNode) : RenderNode :=
  match test with
  | none => node
  | some test => .conditional test node

/-- Goes out of the scope of names, and puts them around a node. -/
def leaveBlock (block : Option ScopeBlock) (node : RenderNode) : Resolve RenderNode :=
  match block with
  | none => return node
  | some block => do
    Resolve.leave
    return .binding block node

/-- Goes out of a loop, and puts it around a node. -/
def leaveLoop (loop : Option Loop) (node : RenderNode) : Resolve RenderNode :=
  match loop with
  | none => return node
  | some loop => do
    Resolve.leave
    return .iteration loop node

/-- Goes out of what stands around an element, and puts it around a node: the loop is outermost. -/
def leave (wrapping : Wrapping) (node : RenderNode) : Resolve RenderNode := do
  let node ← leaveBlock wrapping.block (testNode wrapping.test node)
  leaveLoop wrapping.loop node

end Wrapping

/-- The props that the attributes of an element set. -/
def attributeProps (setting : Setting) (scope : Scope) (found : Directives) :
    Except CompileError (List RenderProp) := do
  let props ← found.plain.foldlM (addProp setting scope) []
  match found.classSet with
  | some directive => ClassSet.addTo setting props directive
  | none => return props

/-- An element without the props that are templates and without its children. -/
def elementHead (setting : Setting) (start : StartTag) (children : List Node) (found : Directives) :
    Resolve ElementHead := do
  let tag ← setting.target.classify start.name start.location
  let extraction ← Extraction.ofElement setting.options start children
  Resolve.warn extraction.warnings
  let props ← attributeProps setting (← Resolve.currentScope) found
  let spread ← optionalExpression setting.host found.spread
  return ⟨tag, props, spread, start.location⟩

/-- Refuses what an element cannot have that renders its children only. -/
def checkGroup (start : StartTag) (found : Directives) : Except CompileError Unit :=
  match found.unsuitedToGroup with
  | some name => .error ((Fault.invalidVirtual name).error start.location)
  | none => .ok ()

/-- Adds the template that a child of an element becomes, and gives its index. It has to render
something. -/
def addTemplate (owner : String) (spec : TemplateSpec) (outer : List String)
    (body : List RenderNode) (place : Location) : Resolve Nat :=
  match body with
  | [] => Resolve.fail (.emptyTemplate spec.prop) place
  | node :: _ => Resolve.add ⟨owner, spec.prop, spec.arguments, outer, node, place⟩

/-- Whether a child is rendered in its place, and is not a prop of its owner. -/
def staysInline (options : Options) (owner : String) : Node → Bool
  | .element start _ => (childSpec? options owner start).isNone
  | _ => true

mutual

/-- What a node renders. An import renders nothing. -/
def resolveNode (setting : Setting) (isRoot : Bool) : Node → Resolve (List RenderNode)
  | .comment value _ => return [.comment value]
  | .text parts place => textNodes setting.host parts place
  | .element start children =>
    match ReservedTag.ofTag? start.name with
    | some .require | some .importMember => do
      declareImport setting start
      return []
    | some .template => Resolve.fail .misplacedTemplate start.location
    | some .group => do
      let found ← elementDirectives isRoot start
      checkGroup start found
      let wrapping ← Wrapping.enter setting.host found
      let inner ← resolveAll setting (fun _ => true) children
      return [← wrapping.leave (.group inner)]
    | none => do
      let found ← elementDirectives isRoot start
      let wrapping ← Wrapping.enter setting.host found
      let head ← elementHead setting start children found
      let lifted ← liftTemplates setting start.name children
      let inner ← resolveAll setting (staysInline setting.options start.name) children
      return [← wrapping.leave (.element { head with props := head.props ++ lifted } inner)]

/-- What those nodes render that are to be rendered. -/
def resolveAll (setting : Setting) (isRendered : Node → Bool) :
    List Node → Resolve (List RenderNode)
  | [] => return []
  | node :: rest =>
    if isRendered node then do
      let first ← resolveNode setting false node
      return first ++ (← resolveAll setting isRendered rest)
    else resolveAll setting isRendered rest

/-- The props that children become. The body of each is resolved inside a frame with its
arguments. -/
def liftTemplates (setting : Setting) (owner : String) : List Node → Resolve (List RenderProp)
  | [] => return []
  | .element start children :: rest =>
    match childSpec? setting.options owner start with
    | none => liftTemplates setting owner rest
    | some spec => do
      let spec ← spec
      let outer ← Resolve.enter .arguments spec.arguments
      let body ← resolveBody setting children
      Resolve.leave
      let index ← addTemplate owner spec outer body start.location
      return ⟨spec.prop, .template index⟩ :: (← liftTemplates setting owner rest)
  | _ :: rest => liftTemplates setting owner rest

/-- What the first element renders. -/
def resolveBody (setting : Setting) : List Node → Resolve (List RenderNode)
  | [] => return []
  | node :: rest =>
    match node with
    | .element start children => resolveNode setting false (.element start children)
    | _ => resolveBody setting rest

end

/-- The elements at the top of a template that are no imports; the imports are declared. -/
def surveyRoots (setting : Setting) : List Node → Resolve (List (StartTag × List Node))
  | [] => return []
  | .comment _ _ :: rest => surveyRoots setting rest
  | .text parts place :: rest =>
    if isBlankText parts then surveyRoots setting rest else Resolve.fail .textOutsideRoot place
  | .element start children :: rest =>
    if ReservedTag.isImport start.name then do
      declareImport setting start
      surveyRoots setting rest
    else do return (start, children) :: (← surveyRoots setting rest)

/-- The comments at the top of a template. -/
def topComments (nodes : List Node) : List String :=
  nodes.filterMap fun
    | .comment value _ => some value
    | _ => none

/-- What a template renders: it has to have one root. -/
def resolveRoot (setting : Setting) (nodes : List Node) : Resolve (Bool × RenderNode) := do
  match ← surveyRoots setting nodes with
  | [] => Resolve.fail .noRoot {}
  | [(start, children)] =>
    match ← resolveNode setting true (.element start children) with
    | [] => Resolve.fail .noRoot start.location
    | node :: _ => return (start.hasAttribute "rt-stateless", node)
  | _ :: (start, _) :: _ => Resolve.fail (.secondRoot start.name) start.location

/-- Resolves a template. The tree imports what the target needs, and then what the template
declares. -/
def resolve (setting : Setting) (nodes : List Node) :
    Except CompileError (RenderTree × List Warning) := do
  let work : Resolve (Bool × RenderNode) := do
    setting.target.dependencies.forM fun dependency => do
      let _ ← Resolve.declare dependency {}
    resolveRoot setting nodes
  let ((stateless, root), progress) ← work.run {}
  return (⟨root, progress.imports, progress.templates, topComments nodes, stateless⟩,
    progress.warnings)

end RenderTemplate
