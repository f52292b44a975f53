import RenderTemplate.Host.Recognizer

namespace RenderTemplate.Host

/-- A phrase of the grammar that other phrases contain. -/
inductive Goal where
  /-- Assignments between commas. -/
  | expression
  /-- An expression without commas. An arrow function in it may have a return type, or else only if
  a colon follows the function. -/
  | assignment (returnType : Bool)
  /-- Operations that bind more tightly than a level. -/
  | operation (level : Nat)
  /-- An operand with operators before or after it. -/
  | unary
  /-- Accesses and calls. -/
  | access
  | type
  /-- Parameters in parentheses. -/
  | parameters
  /-- A declared name, or a pattern of them. -/
  | pattern
  /-- Statements in braces, as the body of a function. -/
  | body
  | statement
  /-- An element in markup, which may be inside another. -/
  | element (nested : Bool)

/-- Answers every goal with a recognizer. Productions are written for an arbitrary grammar, which
answers the goals inside of a phrase. -/
abbrev Grammar := Goal → Recognizer Outline

namespace Grammar

/-- Recognizes a goal and forgets its outline. -/
def skip (grammar : Grammar) (goal : Goal) : Recognizer Unit := do
  let _ ← grammar goal

/-- An assignment where the operator `in` is allowed. -/
def value (grammar : Grammar) : Recognizer Outline :=
  Recognizer.allowingIn (grammar (.assignment true))

/-- The name of a member: a word, a string, a number, or an expression in brackets. -/
def memberName (grammar : Grammar) : Recognizer Unit := do
  let token ← Recognizer.token
  if token.kind == .word || token.kind == .string || token.kind == .number then Recognizer.advance
  else
    Recognizer.expect "["
    let _ ← grammar.value
    Recognizer.expect "]"

/-- A template literal. In code its substitutions are expressions, in types they are types. Escapes
have to be in order unless the literal is tagged. -/
def templateLiteral (grammar : Grammar) (inside : Goal) (tagged : Bool) : Recognizer Unit := do
  let first ← Recognizer.token
  Recognizer.ensure (tagged || first.cooked)
  if first.kind == .template then Recognizer.advance
  else
    Recognizer.require (first.kind == .templateHead)
    Recognizer.advance
    Recognizer.allowingIn (grammar.skip inside)
    let continued : Recognizer Token := do
      Recognizer.require (← Recognizer.sees "\x7d")
      Recognizer.reread fun chars =>
        let piece := Lexer.template false true 1 (chars.drop 1)
        piece
      Recognizer.token
    Recognizer.repeatWhile do
      let piece ← continued
      Recognizer.ensure (tagged || piece.cooked)
      if piece.kind == .templateTail then
        Recognizer.advance
        return false
      Recognizer.require (piece.kind == .templateMiddle)
      Recognizer.advance
      Recognizer.allowingIn (grammar.skip inside)
      return true

end Grammar

end RenderTemplate.Host
