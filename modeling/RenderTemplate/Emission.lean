import RenderTemplate.Concatenation
import RenderTemplate.Helper
import RenderTemplate.RenderTree

namespace RenderTemplate

/-- The helpers so far, and how many names were given. -/
structure Emitted where
  counter : Nat := 0
  helpers : List Helper := []
deriving DecidableEq, Repr

/-- Computations that add helpers. -/
abbrev Emit := StateM Emitted

namespace Emit

/-- The base with the next number behind it. No number is given twice, but a base may end in digits
itself, so that two names can be the same. -/
def freshName (base : String) : Emit String := do
  let emitted ← get
  set { emitted with counter := emitted.counter + 1 }
  return base ++ toString (emitted.counter + 1)

/-- Adds a helper. -/
def addHelper (helper : Helper) : Emit Unit :=
  modify fun emitted => { emitted with helpers := emitted.helpers ++ [helper] }

end Emit

/-- The code of a child. A comment is no argument by itself. -/
inductive ChildCode where
  | comment (code : String)
  | argument (code : String)
deriving DecidableEq, Repr

namespace ChildCode

/-- The arguments, each after the comments in front of it, and the comments that no argument
follows. -/
def attach (pending : List String) : List ChildCode → List String × List String
  | [] => ([], pending)
  | comment code :: rest => attach (pending ++ [code]) rest
  | argument code :: rest =>
    let (arguments, trailing) := attach [] rest
    (" ".intercalate (pending ++ [code]) :: arguments, trailing)

/-- Puts comments after the last argument; without one they stand in front of `null`. -/
def appendLast (trailing : List String) : List String → List String
  | [] => [" ".intercalate (trailing ++ ["null"])]
  | [last] => [" ".intercalate (last :: trailing)]
  | first :: rest => first :: appendLast trailing rest

/-- The arguments that children are, with the comments among them. -/
def arguments (children : List ChildCode) : List String :=
  let (arguments, trailing) := attach [] children
  if trailing.isEmpty then arguments else appendLast trailing arguments

end ChildCode

namespace Emit

/-- A handler becomes a helper. -/
def handler (handler : Handler) : Emit String := do
  let name ← freshName handler.event
  let parameters := handler.helperParameters
  match handler.body with
  | .expression code =>
    addHelper { name := name, parameters := parameters, result := some (Text.trim code) }
  | .block code =>
    let statement := Text.trim code
    let statements := if statement.isEmpty then [] else [statement]
    addHelper { name := name, parameters := parameters, statements := statements }
  return boundReference name handler.outer

/-- The value of a prop. `enter` gives the code for the template with an index. -/
def propValue (enter : Nat → Emit String) : PropValue → Emit String
  | .code code => return code
  | .handler found => handler found
  | .template index => enter index

/-- The entries for props. -/
def entries (enter : Nat → Emit String) (props : List RenderProp) : Emit (List String) :=
  props.mapM fun prop => do return propertyKey prop.key ++ ": " ++ (← propValue enter prop.value)

/-- The props of an element: an object, or the object that is merged over it. -/
def propsCode (entries : List String) : Option String → String
  | none => objectLiteral entries
  | some spread =>
    if entries.isEmpty then spread
    else "_.assign(\x7b\x7d, " ++ objectLiteral entries ++ ", " ++ spread ++ ")"

mutual

/-- The code of a node. -/
def node (target : Target) (enter : Nat → Emit String) : RenderNode → Emit String
  | .element head children => do
    let entries ← entries enter head.props
    let arguments ← all target enter children
    return target.call head.tag (propsCode entries head.spread) (ChildCode.arguments arguments)
  | .group children => do
    let arguments ← all target enter children
    return "[" ++ ", ".intercalate (ChildCode.arguments arguments) ++ "]"
  | .text value => return quote value
  | .expression code => return parenthesize code
  | .comment value => return blockComment value
  | .conditional test body => do
    let code ← node target enter body
    return "(" ++ test ++ ") ? (" ++ code ++ ") : null"
  | .iteration loop body => do
    let name ← freshName ("repeat" ++ capitalize loop.item)
    let code ← node target enter body
    addHelper { name := name, parameters := loop.helperParameters, result := some code }
    return "_.map(" ++ parenthesize loop.collection ++ ", " ++ boundReference name loop.outer ++ ")"
  | .binding block body => do
    let name ← freshName ("scope" ++ capitalize ((block.aliases.head?.map (·.name)).getD ""))
    let code ← node target enter body
    let statements :=
      block.aliases.map fun found => "var " ++ found.name ++ " = " ++ found.value ++ ";"
    addHelper {
      name := name
      parameters := block.helperParameters
      statements := statements
      result := some code }
    return name ++ ".apply(this, [" ++ ", ".intercalate block.outer ++ "])"

/-- The code of each child. -/
def all (target : Target) (enter : Nat → Emit String) : List RenderNode → Emit (List ChildCode)
  | [] => return []
  | child :: rest => do
    let code ← node target enter child
    return (if child.isComment then .comment code else .argument code) :: (← all target enter rest)

end

/-- The code for the template with an index: it becomes a helper. Templates refer to others at most
`depth` deep; what is no template is undefined. -/
def template (target : Target) (templates : List PropTemplate) (depth index : Nat) : Emit String :=
  match depth, templates[index]? with
  | depth + 1, some found => do
    let name ← freshName found.prop
    let code ← node target (template target templates depth) found.body
    addHelper { name := name, parameters := found.helperParameters, result := some code }
    return boundReference name found.outer
  | _, _ => return "undefined"

end Emit

namespace RenderTree

/-- The expression of a tree and its helpers. No chain of templates that refer to each other is
longer than their number. Helpers are numbered in the order in which their constructs are met, and
each one comes after those of the constructs inside of it. -/
def emit (tree : RenderTree) (target : Target) : String × List Helper :=
  let enter := Emit.template target tree.templates tree.templates.length
  let (expression, emitted) := (Emit.node target enter tree.root).run {}
  (expression, emitted.helpers)

/-- The render function of a tree. -/
def renderFunction (tree : RenderTree) (target : Target) : RenderFunction :=
  let (expression, helpers) := tree.emit target
  ⟨helpers.map Helper.text, expression, RenderFunction.parameterList tree.stateless⟩

end RenderTree

end RenderTemplate
