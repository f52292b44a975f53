import RenderTemplate.Text.Search
import RenderTemplate.Text.Uppercase

namespace RenderTemplate

namespace Text

/-- A line without the carriage return that stands before its line feed. -/
def chomp (line : List Char) : List Char :=
  match line.reverse with
  | '\r' :: front => front.reverse
  | _ => line

/-- The lines of a text. A line ends in a line feed, with or without a carriage return before it;
the last line may lack its end, and then keeps a carriage return. `line` holds the line so far, last
character first. -/
def linesFrom (line : List Char) : List Char → List (List Char)
  | [] => if line.isEmpty then [] else [line.reverse]
  | '\n' :: rest => chomp line.reverse :: linesFrom [] rest
  | c :: rest => linesFrom (c :: line) rest

/-- The lines of a text. -/
def lines (text : String) : List String :=
  (linesFrom [] text.toList).map String.ofList

/-- Four spaces for each level. -/
def margin (level : Nat) : String :=
  String.ofList (List.replicate (4 * level) ' ')

/-- Every line of a text that is not empty moved to the right; line ends become line feeds, and
there is none after the last line. -/
def indent (text : String) (level : Nat) : String :=
  "\n".intercalate ((lines text).map fun line => if line.isEmpty then "" else margin level ++ line)

end Text

/-- A text with each end of a comment in it broken up. -/
def breakCommentEnds : List Char → List Char
  | '*' :: '/' :: rest => '*' :: ' ' :: '/' :: breakCommentEnds rest
  | c :: rest => c :: breakCommentEnds rest
  | [] => []

/-- A text as a comment of the generated code. -/
def blockComment (text : String) : String :=
  "/*" ++ String.ofList (breakCommentEnds text.toList) ++ "*/"

/-- A name with a capital in front. -/
def capitalize (name : String) : String :=
  match name.toList with
  | [] => ""
  | c :: rest => String.ofList (Text.uppercase c ++ rest)

/-- A function beside the render function. -/
structure Helper where
  name : String
  parameters : List String
  statements : List String := []
  result : Option String := none
deriving DecidableEq, Repr

namespace Helper

/-- The line that returns a result. -/
def returnLine (code : String) : String :=
  Text.margin 1 ++ "return " ++ code ++ ";\n"

/-- The declaration of a helper. -/
def text (helper : Helper) : String :=
  "function " ++ helper.name ++ "(" ++ ", ".intercalate helper.parameters ++ ") \x7b\n" ++
    String.join (helper.statements.map fun statement => Text.indent statement 1 ++ "\n") ++
    (helper.result.map returnLine).getD "" ++ "\x7d"

end Helper

/-- A function with the names from outside bound to it. -/
def boundReference (name : String) (outer : List String) : String :=
  name ++ ".bind(" ++ ", ".intercalate ("this" :: outer) ++ ")"

/-- The render function and the declarations of its helpers. -/
structure RenderFunction where
  helpers : List String
  expression : String
  parameters : String
deriving DecidableEq, Repr

namespace RenderFunction

/-- The parameters of the render function: a stateless one gets what others find in `this`. -/
def parameterList (stateless : Bool) : String :=
  if stateless then "props, context" else ""

/-- The render function around some declarations. -/
def enclosing (render : RenderFunction) (declarations : List String) : String :=
  "function (" ++ render.parameters ++ ") \x7b\n" ++
    String.join (declarations.map fun declaration => Text.indent declaration 1 ++ "\n") ++
    Helper.returnLine render.expression ++ "\x7d"

/-- The render function with its helpers outside of it. -/
def hoisted (render : RenderFunction) : String :=
  render.enclosing []

/-- The render function with its helpers inside of it. -/
def inlined (render : RenderFunction) : String :=
  render.enclosing render.helpers

end RenderFunction

end RenderTemplate
