namespace RenderTemplate

/-- A value of JSON. A text with half of a surrogate pair stands for no characters, and is
missing. An object keeps its members as they are written, repeated names included. -/
inductive Json where
  | null
  | bool (value : Bool)
  | number (literal : String)
  | string (text : Option String)
  | array (elements : List Json)
  | object (members : List (Option String × Json))
deriving Repr, Inhabited

namespace Json

/-- A text as a value. -/
def ofText (text : String) : Json :=
  .string (some text)

/-- The text that a value is. -/
def text? : Json → Option String
  | string text => text
  | _ => none

/-- The truth value that a value is. -/
def bool? : Json → Option Bool
  | bool value => some value
  | _ => none

/-- The elements that a value has. -/
def array? : Json → Option (List Json)
  | array elements => some elements
  | _ => none

/-- The members that a value has, if all their names are texts. -/
def object? : Json → Option (List (String × Json))
  | object members => members.mapM fun (name, value) => name.map fun name => (name, value)
  | _ => none

end Json

end RenderTemplate
