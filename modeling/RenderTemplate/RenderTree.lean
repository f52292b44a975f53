import RenderTemplate.HostLanguage
import RenderTemplate.Target

namespace RenderTemplate

/-- A lambda that handles an event. -/
structure Handler where
  event : String
  outer : List String
  parameters : List String
  body : LambdaBody
deriving DecidableEq, Repr

/-- The parameters of the function that a handler becomes. -/
def Handler.helperParameters (handler : Handler) : List String :=
  handler.outer ++ handler.parameters

/-- The value of a prop. -/
inductive PropValue where
  | code (code : String)
  | handler (handler : Handler)
  /-- The function that the template with this index becomes. -/
  | template (index : Nat)
deriving DecidableEq, Repr

/-- A prop of an element. -/
structure RenderProp where
  key : String
  value : PropValue
deriving DecidableEq, Repr

/-- An element without its children. The object `spread` is merged over the other props. -/
structure ElementHead where
  tag : TagRef
  props : List RenderProp := []
  spread : Option String := none
  location : Location := {}
deriving DecidableEq, Repr

/-- A loop over a collection. -/
structure Loop where
  collection : String
  item : String
  index : String
  outer : List String
deriving DecidableEq, Repr

/-- The parameters of the function that a loop becomes. -/
def Loop.helperParameters (loop : Loop) : List String :=
  loop.outer ++ [loop.item, loop.index]

/-- A name for the value of an expression. -/
structure ScopeAlias where
  name : String
  value : String
deriving DecidableEq, Repr

/-- Names for values, which may use those that come before them. -/
structure ScopeBlock where
  aliases : List ScopeAlias
  outer : List String
deriving DecidableEq, Repr

/-- The parameters of the function that names for values become. The names are variables inside of
it. -/
def ScopeBlock.helperParameters (block : ScopeBlock) : List String :=
  block.outer

/-- What a piece of a template renders. -/
inductive RenderNode where
  | element (head : ElementHead) (children : List RenderNode)
  /-- Nodes without an element around them. -/
  | group (children : List RenderNode)
  | text (value : String)
  | expression (code : String)
  | comment (value : String)
  | conditional (test : String) (body : RenderNode)
  | iteration (loop : Loop) (body : RenderNode)
  | binding (block : ScopeBlock) (body : RenderNode)
deriving Repr, Inhabited

/-- Whether a node is a comment. -/
def RenderNode.isComment : RenderNode → Bool
  | comment _ => true
  | _ => false

/-- A child that its owner gets as a function. -/
structure PropTemplate where
  owner : String
  prop : String
  arguments : List String
  outer : List String
  body : RenderNode
  location : Location := {}
deriving Repr, Inhabited

/-- The parameters of the function that a template becomes. -/
def PropTemplate.helperParameters (template : PropTemplate) : List String :=
  template.outer ++ template.arguments

/-- A template after its directives are resolved. -/
structure RenderTree where
  root : RenderNode
  imports : ImportTable
  templates : List PropTemplate
  comments : List String
  stateless : Bool
deriving Repr

end RenderTemplate
