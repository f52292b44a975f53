import RenderTemplate.Directive
import RenderTemplate.Entity
import RenderTemplate.RenderTree
import RenderTemplate.Scope
import RenderTemplate.Style

namespace RenderTemplate

open Markup

/-- What templates are compiled with. -/
structure Setting where
  host : HostLanguage
  options : Options
  target : Target

/-- The parts of an attribute: references in its literal parts are decoded, and its expressions have
to be expressions. -/
def attributeParts (host : HostLanguage) (value : String) (place : Location) :
    Except CompileError (List Part) :=
  match Part.split value.toList with
  | .error _ => .error (Fault.unclosedInterpolation.error place)
  | .ok parts =>
    parts.mapM fun
      | .literal text => .ok (.literal (decodeEntities text))
      | .expression code => do
        host.validate code place
        return .expression code

namespace Style

/-- The key of a declaration: native styles know no vendors. -/
def key (native : Bool) (property : String) : String :=
  propertyKey (camelCase (if native then withoutVendor property else property))

/-- The code of a value: a number stays a number in native styles. -/
def valueCode (native : Bool) : List Part → String
  | [.literal text] => if native && isNumber text then text else quote text
  | parts => Part.concatenate parts

/-- The entry for a declaration, which has a colon between property and value. -/
def entry (host : HostLanguage) (native : Bool) (place : Location) (declaration : String) :
    Except CompileError String :=
  match Text.splitAt? [':'] declaration.toList with
  | none => .error ((Fault.invalidStyle (Text.trim declaration)).error place)
  | some (property, value) => do
    let parts ← attributeParts host (String.ofList (Text.trimList value)) place
    return key native (String.ofList (Text.trimList property)) ++ ": " ++ valueCode native parts

/-- The object for declarations with semicolons between them. -/
def object (host : HostLanguage) (native : Bool) (value : String) (place : Location) :
    Except CompileError String := do
  let declarations := (TopLevel.split ';' value).filter fun declaration => !Text.isBlank declaration
  return objectLiteral (← declarations.mapM (entry host native place))

end Style

/-- Whether an attribute with this name handles an event: `on` and a capital letter. -/
def isEventName (name : String) : Bool :=
  match name.toList with
  | 'o' :: 'n' :: c :: _ => c.isUpper
  | _ => false

/-- The expression in braces that a text is. -/
def bracedCode? (text : List Char) : Option String :=
  if Braces.length? text = some text.length then
    (Text.unwrap? '{' '}' text).map fun inner => String.ofList (Text.trimList inner)
  else none

/-- The value of an attribute that handles an event: an expression in braces, or a lambda. -/
def handlerValue (setting : Setting) (scope : Scope) (attr : Attribute) (key value : String) :
    Except CompileError PropValue :=
  let trimmed := Text.trimList value.toList
  match bracedCode? trimmed with
  | some code => do
    setting.host.validate code attr.location
    return .code (if setting.options.autobind && setting.host.refersToMethod code then code ++
      ".bind(this)" else code)
  | none => do
    let lambda ← setting.host.lambda (decodeEntities (String.ofList trimmed)) attr.location
    return .handler ⟨key, scope.outside lambda.parameters, lambda.parameters, lambda.body⟩

/-- The value of the prop that an attribute sets. -/
def attributeValue (setting : Setting) (scope : Scope) (attr : Attribute) (key : String) :
    Except CompileError PropValue :=
  match attr.value with
  | none =>
    if isEventName attr.name then .error ((Fault.missingHandler attr.name).error attr.location)
    else .ok (.code "true")
  | some value =>
    if isEventName attr.name then handlerValue setting scope attr key value
    else do
      let parts ← attributeParts setting.host value attr.location
      match key, parts with
      | _, [.expression code] => return .code (Text.trim code)
      | "style", _ =>
        return .code (← Style.object setting.host setting.target.isNative value attr.location)
      | _, _ => return .code (Part.concatenate parts)

/-- The prop that an attribute sets. -/
def propKey (target : Target) (name : String) : String :=
  if target.isNative then name else documentProp name

/-- The props with that of one more attribute. -/
def addProp (setting : Setting) (scope : Scope) (props : List RenderProp) (attr : Attribute) :
    Except CompileError (List RenderProp) :=
  let key := propKey setting.target attr.name
  if props.any (·.key == key) then .error ((Fault.repeatedProp attr.name key).error attr.location)
  else do return props ++ [⟨key, ← attributeValue setting scope attr key⟩]

namespace ClassSet

/-- The key of the prop for classes. -/
def key (target : Target) : String :=
  propKey target "class"

/-- Whether code is a text in quotes, as far as its ends and the sums in it tell. -/
def isQuotedLiteral (code : String) : Bool :=
  (Text.unwrap? '"' '"' code.toList).isSome && !Text.holds code "\" + "

/-- Code as the first operand of a sum. -/
def baseOperand (code : String) : String :=
  if isQuotedLiteral code then code else parenthesize code

/-- The object of a class set; its braces may be missing. -/
def objectCode (value : String) : String :=
  let trimmed := Text.trim value
  if Text.startsWith trimmed "\x7b" then trimmed else "\x7b" ++ trimmed ++ "\x7d"

/-- The names of the members of an object that are set, with blanks between them. -/
def joinedNames (object : String) : String :=
  "_.keys(_.pick(" ++ object ++ ", _.identity)).join(\" \")"

/-- The props with classes joined to those that are there, if there are some. -/
def mergeInto? (key classes : String) : List RenderProp → Option (List RenderProp)
  | [] => none
  | prop :: rest =>
    if prop.key == key then
      match prop.value with
      | .code existing =>
        some (⟨key, .code (baseOperand existing ++ " + \" \" + " ++ classes)⟩ :: rest)
      | _ => none
    else (mergeInto? key classes rest).map (prop :: ·)

/-- The props with classes. -/
def merge (key classes : String) (props : List RenderProp) : List RenderProp :=
  (mergeInto? key classes props).getD (props ++ [⟨key, .code classes⟩])

/-- The props with those that a class set adds. -/
def addTo (setting : Setting) (props : List RenderProp) (directive : DirectiveValue) :
    Except CompileError (List RenderProp) := do
  let object := objectCode directive.value
  setting.host.validate object directive.location
  return merge (key setting.target) (joinedNames object) props

end ClassSet

end RenderTemplate
