import RenderTemplate.Concatenation
import RenderTemplate.Diagnostic.Fault
import RenderTemplate.Text.WordChar
import RenderTemplate.Text.Search
import RenderTemplate.TopLevel

namespace RenderTemplate

namespace Style

/-- A hyphen before a small letter goes, and the letter becomes a capital. -/
def joinWords : List Char → List Char
  | '-' :: c :: rest =>
    if c.isLower then c.toUpper :: joinWords rest else '-' :: joinWords (c :: rest)
  | c :: rest => c :: joinWords rest
  | [] => []

/-- The first letter as a capital. -/
def capitalizeFirst : List Char → List Char
  | [] => []
  | c :: rest => c.toUpper :: rest

/-- The key for a property with hyphens: words after the first start with a capital, and so does the
first one of a vendor, except for `ms`. A property of the user, which starts with two hyphens, keeps
its name. -/
def camelCaseList (property : List Char) : List Char :=
  let joined := fun (name : List Char) => joinWords (name.map Char.toLower)
  match property with
  | '-' :: '-' :: _ => property
  | '-' :: 'm' :: 's' :: '-' :: rest => joined ('m' :: 's' :: '-' :: rest)
  | '-' :: rest => capitalizeFirst (joined rest)
  | _ => joined property

/-- The key for a property. -/
def camelCase (property : String) : String :=
  String.ofList (camelCaseList property.toList)

/-- The names of vendors in front of properties. -/
def vendors : List String := ["-webkit-", "-moz-", "-ms-", "-o-"]

/-- A property without the name of a vendor. -/
def withoutVendor (property : String) : String :=
  match vendors.findSome? fun vendor => Text.after? vendor.toList property.toList with
  | some rest => String.ofList rest
  | none => property

/-- Whether a text without its sign is a number: digits with a point after, between or before
them. -/
def isUnsignedNumber (chars : List Char) : Bool :=
  let rest := chars.dropWhile Text.isDecimalDigit
  match rest with
  | [] => !chars.isEmpty
  | c :: places =>
    c == '.' && places.all Text.isDecimalDigit && (rest.length < chars.length || !places.isEmpty)

/-- Whether a text is a number. -/
def isNumber (text : String) : Bool :=
  match text.toList with
  | '-' :: rest => isUnsignedNumber rest
  | chars => isUnsignedNumber chars

end Style

end RenderTemplate
