import RenderTemplate.Diagnostic.Fault
import RenderTemplate.Host.Grammar
import RenderTemplate.Text.Blank
import RenderTemplate.TopLevel

namespace RenderTemplate

/-- What a lambda does: it gives the value of an expression, or runs statements. -/
inductive LambdaBody where
  | expression (code : String)
  | block (code : String)
deriving DecidableEq, Repr

/-- A lambda, with its parameters as they are written. -/
structure Lambda where
  parameters : List String
  body : LambdaBody
deriving DecidableEq, Repr

/-- What a text is that should be a lambda. -/
inductive LambdaReading where
  /-- No expression at all. -/
  | malformed
  /-- An expression of another kind, or an asynchronous one. -/
  | unsuitable
  | lambda (found : Lambda)
deriving DecidableEq, Repr

/-- A language of expressions: what its parser makes of a text, as far as templates depend on it.
All else is the same for any such language. -/
structure HostLanguage where
  /-- The outline of the expression that a text starts with, if there is one. -/
  outline? : String → Option Host.Outline

namespace Host

/-- The characters of a piece of the source. -/
def Span.slice (span : Span) (chars : List Char) : List Char :=
  (chars.drop span.start).take (span.stop - span.start)

/-- The parameters of a lambda, from its text between the parentheses. -/
def parameterNames (text : List Char) : List String :=
  let trimmed := Text.trimList text
  let inner := (Text.unwrap? '(' ')' trimmed).getD trimmed
  ((TopLevel.split ',' (String.ofList inner)).map Text.trim).filter fun name => !name.isEmpty

/-- The statements of a block, without its braces. -/
def blockCode (text : List Char) : String :=
  let trimmed := Text.trimList text
  String.ofList (Text.trimList ((Text.unwrap? '{' '}' trimmed).getD trimmed))

end Host

namespace HostLanguage

/-- The language of the generated modules: JavaScript with types and elements, as in a module. -/
def standard : HostLanguage where
  outline? := Host.outline?

/-- Whether a text that is not blank starts with an expression. -/
def accepts (host : HostLanguage) (code : String) : Bool :=
  (host.outline? code).isSome

/-- Whether a text is a property of `this`. -/
def refersToMethod (host : HostLanguage) (code : String) : Bool :=
  ((host.outline? code).map Host.Outline.isMethodReference).getD false

/-- What a text is as a lambda: an arrow function that is not asynchronous, with or without
parentheses. -/
def readLambda (host : HostLanguage) (code : String) : LambdaReading :=
  match host.outline? code with
  | none => .malformed
  | some outline =>
    match outline.withoutParentheses with
    | .arrow false parameters body isBlock =>
      let chars := code.toList
      .lambda
        { parameters := Host.parameterNames (parameters.slice chars)
          body :=
            if isBlock then .block (Host.blockCode (body.slice chars))
            else .expression (String.ofList (body.slice chars)) }
    | _ => .unsuitable

/-- Refuses what is no expression. -/
def validate (host : HostLanguage) (code : String) (place : Location) : Except CompileError Unit :=
  if Text.isBlank code then .error (Fault.emptyExpression.error place)
  else if host.accepts code then .ok ()
  else .error ((Fault.invalidExpression code).error place)

/-- The lambda that a text is. -/
def lambda (host : HostLanguage) (code : String) (place : Location) : Except CompileError Lambda :=
  match host.readLambda code with
  | .malformed => .error ((Fault.invalidHandler (Text.trim code)).error place)
  | .unsuitable => .error ((Fault.unsuitableHandler (Text.trim code)).error place)
  | .lambda found => .ok found

end HostLanguage

end RenderTemplate
