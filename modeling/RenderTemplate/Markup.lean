import RenderTemplate.Interpolation
import RenderTemplate.Location
import RenderTemplate.Tags
import RenderTemplate.Text.Blank

namespace RenderTemplate

namespace Markup

/-- An attribute. It has no value if there is no equals sign after its name. -/
structure Attribute where
  name : String
  value : Option String := none
  location : Location := {}
deriving DecidableEq, Repr

/-- The opening tag of an element. -/
structure StartTag where
  name : String
  attributes : List Attribute := []
  selfClosing : Bool := false
  location : Location := {}
deriving DecidableEq, Repr

/-- A piece of a template. -/
inductive Node where
  | element (start : StartTag) (children : List Node)
  | text (parts : List Part) (location : Location)
  | comment (value : String) (location : Location)
deriving Repr, Inhabited

namespace StartTag

/-- The first attribute with a name. -/
def attribute? (start : StartTag) (name : String) : Option Attribute :=
  start.attributes.find? (·.name == name)

/-- Whether there is an attribute with a name. -/
def hasAttribute (start : StartTag) (name : String) : Bool :=
  (start.attribute? name).isSome

/-- The value of an attribute, empty if it has none. -/
def value? (start : StartTag) (name : String) : Option String :=
  (start.attribute? name).map fun found => found.value.getD ""

/-- The value of an attribute without blanks at its ends, unless nothing is left. -/
def trimmedValue? (start : StartTag) (name : String) : Option String :=
  ((start.value? name).map Text.trim).filter fun value => !value.isEmpty

end StartTag

/-- Whether text has white space only and no expressions. -/
def isBlankText (parts : List Part) : Bool :=
  parts.all fun
    | .literal text => Text.isHtmlBlank text
    | .expression _ => false

end Markup

end RenderTemplate
