import RenderTemplate.Json.Reader
import RenderTemplate.Options

namespace RenderTemplate

namespace ModuleFormat

/-- A format is its name, or an object that has that name as its only member and nothing under
it. -/
def ofJson? : Json → Option ModuleFormat
  | .string (some name) => ofName? name
  | .object [(some name, .null)] => ofName? name
  | _ => none

end ModuleFormat

namespace Version

/-- A version is a text. -/
def ofJson? (json : Json) : Option Version :=
  json.text?.bind ofText?

end Version

/-- Reads members of an object one after another. A member that is known may stand only once; others
are ignored. -/
def readMembers {α : Type} (known : List String) (read : α → String → Json → Option α)
    (seen : List String) (value : α) : List (String × Json) → Option α
  | [] => some value
  | (name, json) :: rest =>
    if known.contains name then
      if seen.contains name then none
      else (read value name json).bind fun value => readMembers known read (name :: seen) value rest
    else readMembers known read seen value rest

/-- Reads the elements of an array as the members with these names; there may be fewer and not
more. -/
def readElements {α : Type} (read : α → String → Json → Option α) (value : α) :
    List String → List Json → Option α
  | _, [] => some value
  | [], _ :: _ => none
  | name :: names, json :: rest =>
    (read value name json).bind fun value => readElements read value names rest

namespace TemplateSpec

/-- The members of a spec. -/
def memberNames : List String := ["prop", "arguments"]

/-- Reads one member of a spec whose prop may not be known yet. -/
def readMember (partly : Option String × List String) (name : String) (json : Json) :
    Option (Option String × List String) :=
  if name == "prop" then json.text?.map fun prop => (some prop, partly.2)
  else do
    let elements ← json.array?
    return (partly.1, ← elements.mapM Json.text?)

/-- Reads a spec, of which the prop has to be there. -/
def ofJson? (json : Json) : Option TemplateSpec := do
  let (prop, arguments) ← match json with
    | .array elements => readElements readMember (none, []) memberNames elements
    | _ => json.object?.bind (readMembers memberNames readMember [] (none, []))
  return ⟨← prop, arguments⟩

/-- A spec as JSON. -/
def toJson (spec : TemplateSpec) : Json :=
  .object [(some "prop", .ofText spec.prop),
    (some "arguments", .array (spec.arguments.map .ofText))]

end TemplateSpec

namespace Dictionary

variable {α : Type}

/-- Reads a dictionary from the members of an object. Of members with one name the last one
counts. -/
def ofJson? (read : Json → Option α) (json : Json) : Option (Dictionary α) := do
  let members ← json.object?
  members.foldlM (fun dictionary (name, value) => return dictionary.set name (← read value)) {}

/-- A dictionary as JSON. -/
def toJson (write : α → Json) (dictionary : Dictionary α) : Json :=
  .object (dictionary.entries.map fun (name, value) => (some name, write value))

end Dictionary

namespace Options

/-- The members of options, in order. -/
def memberNames : List String := [
  "modules", "name", "targetVersion", "native", "nativeTargetVersion", "autobind", "propTemplates",
  "normalizeHtmlWhitespace"]

/-- Reads one member of options. -/
def readMember (options : Options) (name : String) (json : Json) : Option Options :=
  match name with
  | "modules" => (ModuleFormat.ofJson? json).map fun value => { options with format := value }
  | "name" =>
    match json with
    | .null => some { options with name := none }
    | _ => json.text?.map fun value => { options with name := some value }
  | "targetVersion" =>
    (Version.ofJson? json).map fun value => { options with targetVersion := value }
  | "native" => json.bool?.map fun value => { options with native := value }
  | "nativeTargetVersion" =>
    (Version.ofJson? json).map fun value => { options with nativeTargetVersion := value }
  | "autobind" => json.bool?.map fun value => { options with autobind := value }
  | "propTemplates" =>
    (Dictionary.ofJson? (Dictionary.ofJson? TemplateSpec.ofJson?) json).map fun value =>
      { options with templates := value }
  | "normalizeHtmlWhitespace" =>
    json.bool?.map fun value => { options with collapsesWhitespace := value }
  | _ => none

/-- Reads options from JSON. -/
def ofJson? : Json → Option Options
  | .array elements => readElements readMember {} memberNames elements
  | json => json.object?.bind (readMembers memberNames readMember [] {})

/-- Reads options from a text, with some reader of JSON. -/
def ofTextWith (read : String → Option Json) (text : String) : Except CompileError Options :=
  match (read text).bind ofJson? with
  | some options => .ok options
  | none => .error (Fault.malformedOptions.error {})

/-- Reads options from a text. -/
def ofText (text : String) : Except CompileError Options :=
  ofTextWith Json.ofString? text

/-- Options as JSON. -/
def toJson (options : Options) : Json :=
  .object [
    (some "modules", .ofText options.format.name),
    (some "name", (options.name.map Json.ofText).getD .null),
    (some "targetVersion", .ofText options.targetVersion.display),
    (some "native", .bool options.native),
    (some "nativeTargetVersion", .ofText options.nativeTargetVersion.display),
    (some "autobind", .bool options.autobind),
    (some "propTemplates", options.templates.toJson (Dictionary.toJson TemplateSpec.toJson)),
    (some "normalizeHtmlWhitespace", .bool options.collapsesWhitespace)]

end Options

end RenderTemplate
