namespace RenderTemplate.Host

/-- A piece of the source, counted in characters. -/
structure Span where
  start : Nat
  stop : Nat
deriving DecidableEq, Repr

/-- The outline of an expression, or of a part of an object or array literal. It has as much of the
expression as decides whether it may be assigned to, whether it needs parentheses beside some
operators, and whether it is a lambda or a reference to a method. -/
inductive Outline where
  | name (text : String)
  | this
  | super
  /-- A property by its name, of an object. -/
  | property (object : Outline)
  /-- A private or computed property. -/
  | member
  /-- An access that stops where its object is missing. -/
  | chain
  | parentheses (inner : Outline)
  | object (members : List Outline)
  | array (elements : List Outline) (trailingComma : Bool)
  | spread (inner : Outline)
  /-- A member of an object literal that is only a name. -/
  | shorthand
  /-- A member of an object literal that is a name with a default, which only a pattern may have. -/
  | defaulted (start : Nat)
  | method
  /-- A place of an array literal that is left out. -/
  | hole
  /-- An assignment, by `=` alone or together with an operation. -/
  | assignment (plain : Bool)
  | arrow (isAsync : Bool) (parameters body : Span) (isBlock : Bool)
  /-- One of the operations `&&` and `||`. -/
  | logical
  /-- An operation with one operand after it. -/
  | unary
  /-- An expression with a type beside it. -/
  | typed (inner : Outline)
  /-- An expression with type arguments. -/
  | instantiated (inner : Outline)
  | importCall
  | other
deriving Repr, Inhabited

namespace Outline

/-- The expression inside parentheses. -/
def withoutParentheses : Outline → Outline
  | parentheses inner => inner.withoutParentheses
  | outline => outline

/-- The expression inside parentheses and types. -/
def core : Outline → Outline
  | parentheses inner => inner.core
  | typed inner => inner.core
  | instantiated inner => inner.core
  | outline => outline

/-- Whether the outline is a name or a property. -/
def isReference : Outline → Bool
  | name _ | property _ | member => true
  | _ => false

/-- Whether the outline is an object or array literal. -/
def isLiteral : Outline → Bool
  | object _ | array _ _ => true
  | _ => false

/-- Whether an expression may stand where one place is assigned to. -/
def isSimpleTarget : Outline → Bool
  | parentheses inner => !inner.isLiteral && inner.isSimpleTarget
  | typed inner => inner.core.isReference
  | outline => outline.isReference

/-- Whether the outline is one of the operations `&&` and `||`. -/
def isLogical : Outline → Bool
  | logical => true
  | _ => false

mutual

/-- If an expression may stand on the left of `=`, where the defaults stand that are thereby in
order. -/
def target? : Outline → Option (List Nat)
  | array elements trailingComma => elementTargets? trailingComma elements
  | object members => memberTargets? members
  | outline => if outline.isSimpleTarget then some [] else none

/-- The same for the elements of an array literal. -/
def elementTargets? (trailingComma : Bool) : List Outline → Option (List Nat)
  | [] => some []
  | [spread inner] => if trailingComma then none else inner.target?
  | spread _ :: _ :: _ => none
  | hole :: rest => elementTargets? trailingComma rest
  | assignment plain :: rest => if plain then elementTargets? trailingComma rest else none
  | outline :: rest => do
    let first ← outline.target?
    let more ← elementTargets? trailingComma rest
    return first ++ more

/-- The same for the members of an object literal. -/
def memberTargets? : List Outline → Option (List Nat)
  | [] => some []
  | [spread inner] => if inner.isSimpleTarget then some [] else none
  | spread _ :: _ :: _ => none
  | shorthand :: rest => memberTargets? rest
  | defaulted start :: rest => (memberTargets? rest).map (start :: ·)
  | method :: _ => none
  | assignment plain :: rest => if plain then memberTargets? rest else none
  | outline :: rest => do
    let first ← outline.target?
    let more ← memberTargets? rest
    return first ++ more

end

/-- Whether the outline is `this.name`, with or without parentheses. -/
def isMethodReference (outline : Outline) : Bool :=
  match outline.withoutParentheses with
  | property owner =>
    match owner.withoutParentheses with
    | this => true
    | _ => false
  | _ => false

end Outline

end RenderTemplate.Host
