import RenderTemplate.Identifier
import RenderTemplate.Imports
import RenderTemplate.Options
import RenderTemplate.Quoted
import RenderTemplate.Tags

namespace RenderTemplate

/-- How the tag of an element is referred to. -/
inductive TagRef where
  /-- A tag of the document. -/
  | document (name : String)
  /-- A native component. -/
  | native (name : String)
  /-- A component that is in scope. -/
  | component (name : String)
deriving DecidableEq, Repr

/-- The versions of the library that differ for generated code. -/
inductive Target where
  /-- For documents, with one factory for each tag. -/
  | factories
  /-- For documents, with its extensions in one package. -/
  | addons
  | web
  /-- For native applications, in one package. -/
  | native
  /-- For native applications, with the components in a package of their own. -/
  | splitNative
deriving DecidableEq, Repr

namespace Target

/-- All targets. -/
def all : List Target :=
  [factories, addons, web, native, splitNative]

/-- What can be decided of each target in the list holds of every target. -/
theorem forall_iff {p : Target → Prop} : (∀ target, p target) ↔ ∀ target ∈ all, p target := by
  have listed (target : Target) : target ∈ all := by cases target <;> decide
  exact ⟨fun each target _ => each target, fun each target => each target (listed target)⟩

/-- Versions for documents with one factory for each tag. -/
def factoryVersions : VersionRange := { stop := some ⟨0, 12, 0⟩ }

/-- Versions for documents with extensions in the main package. -/
def addonVersions : VersionRange := { stop := some ⟨0, 14, 0⟩ }

/-- Native versions with a package for the components. -/
def splitVersions : VersionRange := { start := some ⟨0, 29, 0⟩ }

/-- The target that options choose. -/
def ofOptions (options : Options) : Target :=
  if options.native then
    if splitVersions.contains options.nativeTargetVersion then .splitNative else .native
  else if factoryVersions.contains options.targetVersion then .factories
  else if addonVersions.contains options.targetVersion then .addons
  else .web

/-- Whether code is for native applications. -/
def isNative : Target → Bool
  | native | splitNative => true
  | _ => false

/-- Whether elements are created by factories. -/
def usesFactories (target : Target) : Bool :=
  target == .factories

/-- Whether the components have a package of their own. -/
def splitsPackages (target : Target) : Bool :=
  target == .splitNative

/-- The module that creates elements. -/
def reactModule : Target → String
  | factories | addons => "react/addons"
  | web | splitNative => "react"
  | native => "react-native"

/-- A target in words. -/
def description : Target → String
  | factories => "web (legacy DOM factories)"
  | addons => "web (react/addons)"
  | web => "web (react)"
  | native => "native (react-native)"
  | splitNative => "native (react + react-native)"

/-- What every module imports, in order. -/
def dependencies (target : Target) : List Dependency :=
  ⟨"React", target.reactModule, .moduleValue⟩ ::
    ((if target.splitsPackages then [⟨"ReactNative", "react-native", .moduleValue⟩] else []) ++
      [⟨"_", "lodash", .moduleValue⟩])

/-- Whether a tag is known to the target. -/
def knows (target : Target) (tag : String) : Bool :=
  if target.isNative then isNativeTag tag target.splitsPackages else isDocumentTag tag

/-- How a tag is referred to: one that the target does not know has to be a component. -/
def classify (target : Target) (tag : String) (place : Location) : Except CompileError TagRef :=
  if target.knows tag then
    .ok (if target.isNative then .native tag else .document tag)
  else if isMemberPath tag then .ok (.component tag)
  else .error ((Fault.invalidTag tag).error place)

/-- The object that has the native components. -/
def componentSpace (target : Target) : String :=
  if target.splitsPackages then "ReactNative" else "React"

/-- A call with its arguments. -/
def application (function : String) (arguments : List String) : String :=
  function ++ "(" ++ ", ".intercalate arguments ++ ")"

/-- The factory for a tag. -/
def factory : TagRef → String
  | .document name =>
    if name.toList.contains '-' then "React.DOM[" ++ quote name ++ "]" else "React.DOM." ++ name
  | .native name | .component name => name

/-- A tag as an argument. -/
def tagArgument (target : Target) : TagRef → String
  | .document name => quote name
  | .native name => target.componentSpace ++ "." ++ name
  | .component name => name

/-- The call that creates an element. -/
def call (target : Target) (tag : TagRef) (props : String) (children : List String) : String :=
  if target.usesFactories then application (factory tag) (props :: children)
  else application "React.createElement" (target.tagArgument tag :: props :: children)

end Target

end RenderTemplate
