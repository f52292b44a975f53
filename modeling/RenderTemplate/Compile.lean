import RenderTemplate.Emission
import RenderTemplate.Markup.Parser
import RenderTemplate.Markup.Whitespace
import RenderTemplate.ModuleText
import RenderTemplate.Resolution

namespace RenderTemplate

/-- Generated code, with the warnings about its template. -/
structure Output where
  code : String
  warnings : List Warning
deriving DecidableEq, Repr

/-- The result of a compilation. -/
abbrev CompileResult := Except CompileError Output

/-- The setting that options describe. -/
def Setting.ofOptions (host : HostLanguage) (options : Options) : Setting :=
  ⟨host, options, Target.ofOptions options⟩

/-- The tree that a template renders. -/
def renderTree (host : HostLanguage) (options : Options) (source : String) :
    Except CompileError (RenderTree × List Warning) := do
  let nodes ← Markup.parse source
  resolve (Setting.ofOptions host options)
    (if options.collapsesWhitespace then Markup.collapseWhitespace nodes else nodes)

/-- The module of a tree. -/
def moduleText (options : Options) (tree : RenderTree) : String :=
  let render := tree.renderFunction (Target.ofOptions options)
  ModuleParts.text ⟨options.name, tree.imports.entries, tree.comments, render⟩ options.format

/-- Compiles a template with the expressions of some language. -/
def compileWith (host : HostLanguage) (options : Options) (source : String) : CompileResult := do
  options.validate
  let (tree, warnings) ← renderTree host options source
  return ⟨moduleText options tree, warnings⟩

/-- Compiles a template. -/
def compile (options : Options) (source : String) : CompileResult :=
  compileWith .standard options source

namespace CompileResult

/-- The same result, with all diagnostics in a file. -/
def inFile (result : CompileResult) (file : Option String) : CompileResult :=
  match result with
  | .ok output => .ok { output with warnings := output.warnings.map (·.inFile file) }
  | .error error => .error (error.inFile file)

/-- The same result for a text that starts at `base`. -/
def shifted (result : CompileResult) (base : Location) : CompileResult :=
  match result with
  | .ok output => .ok { output with warnings := output.warnings.map (·.shifted base) }
  | .error error => .error (error.shifted base)

end CompileResult

/-- Compiles a template from a file. -/
def compileFile (options : Options) (file : Option String) (source : String) : CompileResult :=
  CompileResult.inFile (compile options source) file

/-- A template with the name of its file. -/
structure NamedTemplate where
  name : String
  source : String
deriving DecidableEq, Repr

/-- Compiles templates one by one. -/
def compileAll (options : Options) (templates : List NamedTemplate) : List CompileResult :=
  templates.map fun template => compileFile options (some template.name) template.source

end RenderTemplate
