namespace RenderTemplate

/-- The form of a generated module. -/
inductive ModuleFormat where
  /-- A variable of the global scope. -/
  | global
  | commonjs
  | amd
  | es6
  | typescript
  /-- The render function alone, to stand inside a script. -/
  | jsrt
deriving DecidableEq, Repr

namespace ModuleFormat

/-- The name of a format. -/
def name : ModuleFormat → String
  | global => "none"
  | commonjs => "commonjs"
  | amd => "amd"
  | es6 => "es6"
  | typescript => "typescript"
  | jsrt => "jsrt"

/-- The formats by their names; one has two. -/
def names : List (String × ModuleFormat) := [
  ("none", global), ("commonjs", commonjs), ("amd", amd), ("es6", es6), ("typescript", typescript),
  ("typed", typescript), ("jsrt", jsrt)]

/-- The format with a name. -/
def ofName? (name : String) : Option ModuleFormat :=
  names.lookup name

/-- Whether modules of a format import what they need. -/
def emitsImports : ModuleFormat → Bool
  | global | jsrt => false
  | _ => true

end ModuleFormat

end RenderTemplate
