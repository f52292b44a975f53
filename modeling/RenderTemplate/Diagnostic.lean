import RenderTemplate.Diagnostic.Code
import RenderTemplate.Location

namespace RenderTemplate

/-- A fault at a line and column, perhaps of a named file, perhaps with the code that is at
fault. -/
structure Diagnostic where
  code : Code
  message : String
  file : Option String := none
  line : Nat
  column : Nat
  context : Option String := none
deriving DecidableEq, Repr

namespace Diagnostic

/-- A diagnostic at a place. -/
def new (code : Code) (message : String) (place : Location) : Diagnostic :=
  { code := code, message := message, line := place.line, column := place.column }

/-- The hints for the kind of fault. -/
def hints (diagnostic : Diagnostic) : List String :=
  diagnostic.code.hint?.toList

/-- The same diagnostic with the code at fault. -/
def withContext (diagnostic : Diagnostic) (context : String) : Diagnostic :=
  { diagnostic with context := some context }

/-- The same diagnostic in a file, unless its file is known already. -/
def inFile (diagnostic : Diagnostic) (file : Option String) : Diagnostic :=
  { diagnostic with file := diagnostic.file.orElse fun _ => file }

/-- The same diagnostic for a text that starts at `base`: lines are counted from there, and on the
first line so are columns. -/
def shifted (diagnostic : Diagnostic) (base : Location) : Diagnostic :=
  { diagnostic with
    line := base.line + (diagnostic.line - 1)
    column :=
      if diagnostic.line ≤ 1 then base.column + (diagnostic.column - 1) else diagnostic.column }

/-- A diagnostic on one line. -/
def display (diagnostic : Diagnostic) : String :=
  "[" ++ diagnostic.code.text ++ "] " ++ diagnostic.message ++ " (" ++
    (match diagnostic.file with
      | some file => file ++ ":"
      | none => "") ++
    toString diagnostic.line ++ ":" ++ toString diagnostic.column ++ ")"

end Diagnostic

/-- The part of the work in which an error was found. -/
inductive Phase where
  | parse
  | resolution
deriving DecidableEq, Repr

/-- An error, which ends the compilation of its template. -/
structure CompileError where
  phase : Phase
  diagnostic : Diagnostic
deriving DecidableEq, Repr

namespace CompileError

/-- The same error with the code at fault. -/
def withContext (error : CompileError) (context : String) : CompileError :=
  { error with diagnostic := error.diagnostic.withContext context }

/-- The same error in a file, unless its file is known already. -/
def inFile (error : CompileError) (file : Option String) : CompileError :=
  { error with diagnostic := error.diagnostic.inFile file }

/-- The same error for a text that starts at `base`. -/
def shifted (error : CompileError) (base : Location) : CompileError :=
  { error with diagnostic := error.diagnostic.shifted base }

/-- An error on one line. -/
def display (error : CompileError) : String :=
  (match error.phase with
    | .parse => "parse error "
    | .resolution => "resolution error ") ++ error.diagnostic.display

end CompileError

/-- A warning about an attribute or a tag. It is collected, and stops nothing. -/
structure Warning where
  subject : String
  diagnostic : Diagnostic
deriving DecidableEq, Repr

namespace Warning

/-- The same warning in a file, unless its file is known already. -/
def inFile (warning : Warning) (file : Option String) : Warning :=
  { warning with diagnostic := warning.diagnostic.inFile file }

/-- The same warning for a text that starts at `base`. -/
def shifted (warning : Warning) (base : Location) : Warning :=
  { warning with diagnostic := warning.diagnostic.shifted base }

/-- A warning on one line. -/
def display (warning : Warning) : String :=
  "warning " ++ warning.diagnostic.display

end Warning

end RenderTemplate
