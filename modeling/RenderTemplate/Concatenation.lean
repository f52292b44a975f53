import RenderTemplate.Identifier
import RenderTemplate.Interpolation
import RenderTemplate.Quoted
import RenderTemplate.Text.Blank

namespace RenderTemplate

/-- Code in parentheses, unless it needs none. -/
def parenthesize (code : String) : String :=
  let trimmed := Text.trim code
  if isSimpleCode trimmed then trimmed else "(" ++ trimmed ++ ")"

namespace Part

/-- A part as an operand. -/
def operand : Part → String
  | literal text => quote text
  | expression code => parenthesize code

/-- Whether the first two parts are expressions, whose sum could be a number. -/
def startsWithExpressions : List Part → Bool
  | expression _ :: expression _ :: _ => true
  | _ => false

/-- The operands whose sum is a text: an empty text comes first where the sum could start with a
number. -/
def operands (parts : List Part) : List String :=
  (if startsWithExpressions parts then ["\"\""] else []) ++ parts.map operand

/-- Parts as one expression: an expression alone stays as it is, and several parts are added up. -/
def concatenate : List Part → String
  | [] => "\"\""
  | [expression code] => Text.trim code
  | parts => " + ".intercalate (operands parts)

end Part

/-- A key of an object literal, in quotes if it is no identifier. -/
def propertyKey (key : String) : String :=
  if isIdentifier key then key else quote key

/-- An object literal. -/
def objectLiteral (entries : List String) : String :=
  if entries.isEmpty then "\x7b\x7d" else "\x7b " ++ ", ".intercalate entries ++ " \x7d"

end RenderTemplate
