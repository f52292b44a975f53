import RenderTemplate.Diagnostic.Fault
import RenderTemplate.Dictionary
import RenderTemplate.Identifier
import RenderTemplate.ModuleFormat
import RenderTemplate.Version

namespace RenderTemplate

/-- How a child with a certain tag becomes a prop of its owner: the name of the prop, and the
arguments of the function that it is. -/
structure TemplateSpec where
  prop : String
  arguments : List String := []
deriving DecidableEq, Repr

/-- The specs of children by the tags of owners and children. -/
abbrev TemplateTable := Dictionary (Dictionary TemplateSpec)

namespace TemplateTable

/-- The spec for a child of an owner. -/
def spec? (table : TemplateTable) (owner child : String) : Option TemplateSpec :=
  (table.get? owner).bind (·.get? child)

end TemplateTable

/-- The children of the native list that become props. -/
def listTemplates : List (String × TemplateSpec) := [
  ("Row", ⟨"renderRow", ["rowData", "sectionID", "rowID", "highlightRow"]⟩),
  ("Footer", ⟨"renderFooter", []⟩),
  ("Header", ⟨"renderHeader", []⟩),
  ("ScrollComponent", ⟨"renderScrollComponent", ["props"]⟩),
  ("SectionHeader", ⟨"renderSectionHeader", ["sectionData", "sectionID"]⟩),
  ("Separator", ⟨"renderSeparator", ["sectionID", "rowID", "adjacentRowHighlighted"]⟩)]

/-- Options of a compilation. -/
structure Options where
  format : ModuleFormat := .commonjs
  name : Option String := none
  targetVersion : Version := ⟨0, 14, 0⟩
  native : Bool := false
  nativeTargetVersion : Version := ⟨0, 0, 0⟩
  autobind : Bool := false
  templates : TemplateTable := {}
  collapsesWhitespace : Bool := false
deriving DecidableEq, Repr

namespace Options

/-- The name of the module without blanks at its ends. -/
def trimmedName (options : Options) : String :=
  Text.trim (options.name.getD "")

/-- Refuses a prop that is no identifier, and arguments that are none. -/
def checkSpec (owner child : String) (spec : TemplateSpec) : Except CompileError Unit :=
  if isIdentifier (Text.trim spec.prop) then
    match spec.arguments.find? fun name => !isIdentifier name with
    | some name => .error ((Fault.invalidSpecArgument owner child name).error {})
    | none => .ok ()
  else .error ((Fault.invalidSpecProp owner child spec.prop).error {})

/-- Whether the name of the module becomes a variable. -/
def namesVariable (options : Options) : Bool :=
  options.format == .global || (options.format == .typescript && options.name.isSome)

/-- Refuses options that no template could satisfy. -/
def validate (options : Options) : Except CompileError Unit :=
  if (options.format == .global || options.format == .amd) && options.trimmedName.isEmpty then
    .error ((Fault.missingModuleName options.format.name).error {})
  else if options.namesVariable && !isIdentifier options.trimmedName then
    .error ((Fault.invalidModuleName options.trimmedName).error {})
  else
    options.templates.entries.forM fun (owner, children) =>
      children.entries.forM fun (child, spec) => checkSpec owner child spec

/-- The spec for a child of an owner: one from the options, or else one of the native list. -/
def spec? (options : Options) (owner child : String) : Option TemplateSpec :=
  match options.templates.spec? owner child with
  | some spec => some spec
  | none => if options.native && owner == "ListView" then listTemplates.lookup child else none

end Options

end RenderTemplate
