import RenderTemplate.Host.Expressions
import RenderTemplate.Host.Statements

namespace RenderTemplate.Host

namespace Grammar

/-- The production of each goal. -/
def production (grammar : Grammar) : Grammar
  | .expression => Expressions.full grammar
  | .assignment returnType => Expressions.assignment grammar returnType
  | .operation level => Expressions.operation grammar level
  | .unary => Expressions.operand grammar
  | .access => Expressions.access grammar
  | .type => do Types.full grammar; return .other
  | .parameters => do Function.parameters grammar; return .other
  | .pattern => do Pattern.full grammar; return .other
  | .body => do Function.body grammar; return .other
  | .statement => do Statements.full grammar; return .other
  | .element nested => do Elements.full grammar nested; return .other

/-- The grammar to a depth of phrases inside one another. A goal is answered by its production, and
the goals inside of it by the grammar with one level less to go down. -/
def toDepth : Nat → Grammar
  | 0 => fun _ => failure
  | depth + 1 => production (toDepth depth)

end Grammar

/-- The outline of the expression that a text starts with. What follows the expression is ignored,
except that the next token has to be one. There is none if the text starts with no expression or a
fault was noted. -/
def outline? (code : String) : Option Outline :=
  let chars := code.toList
  let first := Lexer.next 0 chars
  let start : State :=
    { token := first.token, here := first.here, rest := first.rest,
      faulty := first.token.kind == .malformed }
  match Grammar.toDepth (32 * (chars.length + 4)) .expression start with
  | some (outline, state) => if state.faulty || !state.defaults.isEmpty then none else some outline
  | none => none

end RenderTemplate.Host
