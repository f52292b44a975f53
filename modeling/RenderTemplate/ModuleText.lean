import RenderTemplate.Helper
import RenderTemplate.Imports
import RenderTemplate.ModuleFormat
import RenderTemplate.Quoted

namespace RenderTemplate

/-- What a module is made of. -/
structure ModuleParts where
  name : Option String
  imports : List Dependency
  comments : List String
  render : RenderFunction
deriving DecidableEq, Repr

namespace ModuleParts

/-- What stands before the render function: its helpers, then the comments. -/
def preamble (parts : ModuleParts) : List String :=
  parts.render.helpers ++ parts.comments.map blockComment

/-- Lines, each with its end. -/
def joinLines (lines : List String) : String :=
  "\n".intercalate lines ++ "\n"

/-- The first statement of a module that is not strict by itself. -/
def useStrict : String := "\"use strict\";"

/-- A variable with a value. -/
def assignment (name value : String) : String :=
  "var " ++ name ++ " = " ++ value ++ ";"

/-- A required module, or one of its members. -/
def requirement (dependency : Dependency) : String :=
  let required := "require(" ++ quote dependency.source ++ ")"
  match dependency.binding with
  | .moduleValue | .allExports => required
  | .defaultExport => required ++ ".default"
  | .member name => required ++ "." ++ name

/-- A module that requires others and exports the render function. -/
def commonjs (parts : ModuleParts) : String :=
  joinLines
    (useStrict :: parts.imports.map (fun dependency =>
      assignment dependency.localName (requirement dependency)) ++
      parts.preamble ++ ["module.exports = " ++ parts.render.hoisted ++ ";"])

/-- The parameter for an import of a definition, and the variable that is set from it, if it is only
a member that is wanted. -/
def amdBinding (dependency : Dependency) (index : Nat) : String × Option String :=
  let parameter := "$" ++ toString index
  match dependency.binding with
  | .moduleValue | .allExports => (dependency.localName, none)
  | .defaultExport => (parameter, some (assignment dependency.localName (parameter ++ ".default")))
  | .member name => (parameter, some (assignment dependency.localName (parameter ++ "." ++ name)))

/-- The definition of a module with its imports as parameters. -/
def amd (parts : ModuleParts) : String :=
  let bindings := parts.imports.zipIdx.map fun (dependency, index) => amdBinding dependency index
  let sources := parts.imports.map fun dependency => Text.margin 1 ++ quote dependency.source
  let body :=
    useStrict :: bindings.filterMap (·.2) ++ parts.preamble ++
    ["return " ++ parts.render.hoisted ++ ";"]
  "define(" ++ (parts.name.map fun name => quote name ++ ", ").getD "" ++ "[\n" ++
    ",\n".intercalate sources ++
    "\n], function (" ++ ", ".intercalate (bindings.map (·.1)) ++ ") \x7b\n" ++
    Text.indent ("\n".intercalate body) 1 ++ "\n\x7d);\n"

/-- The declaration of an import. -/
def importDeclaration (dependency : Dependency) : String :=
  "import " ++
    (match dependency.binding with
      | .moduleValue | .allExports => "* as " ++ dependency.localName
      | .defaultExport => dependency.localName
      | .member name =>
        if name = dependency.localName then "\x7b " ++ name ++ " \x7d"
        else "\x7b " ++ name ++ " as " ++ dependency.localName ++ " \x7d") ++
    " from " ++ quote dependency.source ++ ";"

/-- A module with declarations of its imports and a default export. -/
def es6 (parts : ModuleParts) : String :=
  joinLines
    (parts.imports.map importDeclaration ++ parts.preamble ++
      ["export default " ++ parts.render.hoisted])

/-- The declaration of an import where whole modules are required. -/
def typedImport (dependency : Dependency) : String :=
  match dependency.binding with
  | .moduleValue =>
    "import " ++ dependency.localName ++ " = require(" ++ quote dependency.source ++ ");"
  | _ => importDeclaration dependency

/-- A module that exports one variable. -/
def typescript (parts : ModuleParts) : String :=
  let name := parts.name.getD "render"
  joinLines
    (parts.imports.map typedImport ++ parts.preamble ++
      [assignment name parts.render.hoisted, "export = " ++ name ++ ";"])

/-- A global variable. Imports are read from other global variables. -/
def global (parts : ModuleParts) : String :=
  let body := useStrict :: parts.preamble ++ ["return " ++ parts.render.hoisted ++ ";"]
  "var " ++ parts.name.getD "template" ++ " = (function () \x7b\n" ++
    Text.indent ("\n".intercalate body) 1 ++
    "\n\x7d)();\n"

/-- The render function alone, with its helpers inside of it. -/
def jsrt (parts : ModuleParts) : String :=
  String.join (parts.comments.map fun comment => blockComment comment ++ " ") ++
    parts.render.inlined

/-- The text of a module. -/
def text (parts : ModuleParts) : ModuleFormat → String
  | .global => parts.global
  | .commonjs => parts.commonjs
  | .amd => parts.amd
  | .es6 => parts.es6
  | .typescript => parts.typescript
  | .jsrt => parts.jsrt

end ModuleParts

end RenderTemplate
