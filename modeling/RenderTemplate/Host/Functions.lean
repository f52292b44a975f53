import RenderTemplate.Host.Types

namespace RenderTemplate.Host

open Recognizer

namespace Pattern

/-- A pattern with a default, which may be missing. -/
def element (grammar : Grammar) : Recognizer Unit := do
  grammar.skip .pattern
  if ← eat "=" then let _ ← grammar.value

/-- The elements of an array pattern. The one that takes the rest comes last. -/
def elements (grammar : Grammar) : Recognizer Unit := do
  expect "["
  repeatWhile do
    if ← sees "]" then return false
    if ← eat "," then return true
    if ← eat "..." then
      grammar.skip .pattern
      require (← sees "]")
      return false
    element grammar
    if ← sees "]" then return false
    expect ","
    return true
  expect "]"

/-- A member of an object pattern: a name alone, or a name and what it is taken to. -/
def member (grammar : Grammar) : Recognizer Unit := do
  let state ← get
  let alone ← foresees do
    require (isReferenceName state.token state.context)
    advance
    return !(← sees ":")
  if alone then
    advance
    if ← eat "=" then let _ ← grammar.value
  else
    grammar.memberName
    expect ":"
    element grammar

/-- The members of an object pattern. The name that takes the rest comes last. -/
def members (grammar : Grammar) : Recognizer Unit := do
  expect "\x7b"
  repeatWhile do
    if ← sees "\x7d" then return false
    if ← eat "..." then
      declaredName
      require (← sees "\x7d")
      return false
    member grammar
    if ← sees "\x7d" then return false
    expect ","
    return true
  expect "\x7d"

/-- A declared name, or a pattern of them. -/
def full (grammar : Grammar) : Recognizer Unit := do
  if ← sees "[" then elements grammar
  else if ← sees "\x7b" then members grammar
  else declaredName

end Pattern

namespace Function

/-- Runs a recognizer inside a function. -/
def inside {α : Type} (isAsync isGenerator : Bool) (recognizer : Recognizer α) : Recognizer α :=
  within (fun context =>
    { context with
      awaits := isAsync, yields := isGenerator, allowsIn := true, allowsConditional := true })
    recognizer

/-- Modifiers of a parameter. -/
def parameterModifiers : List String := ["public", "private", "protected", "readonly", "override"]

/-- A parameter. -/
def parameter (grammar : Grammar) : Recognizer Unit := do
  repeatWhile do
    if ← eat "@" then
      grammar.skip .access
      return true
    let first ← token
    if first.kind == .word && parameterModifiers.contains first.text then
      let followed ← foresees do
        advance
        let next ← token
        return next.isName || next.isPunctuator "[" || next.isPunctuator "\x7b"
      if followed then
        advance
        return true
    return false
  grammar.skip .pattern
  let _ ← eat "?"
  Types.annotation? grammar
  if ← eat "=" then let _ ← grammar.value

/-- Parameters in parentheses. The one that is `this` comes first, and the one that takes the rest
comes last. -/
def parameters (grammar : Grammar) : Recognizer Unit := do
  expect "("
  if ← eatWord "this" then
    Types.annotation? grammar
    if !(← sees ")") then expect ","
  repeatWhile do
    if ← sees ")" then return false
    if ← eat "..." then
      grammar.skip .pattern
      let _ ← eat "?"
      Types.annotation? grammar
      if ← sees "=" then
        fault
        advance
        let _ ← grammar.value
      if ← eat "," then
        require (← sees ")")
        fault
      return false
    parameter grammar
    if ← sees ")" then return false
    expect ","
    return true
  expect ")"

/-- The body of a function. -/
def body (grammar : Grammar) : Recognizer Unit := do
  expect "\x7b"
  repeatWhile do
    if ← sees "\x7d" then return false
    grammar.skip .statement
    return true
  expect "\x7d"

/-- Type parameters, parameters, result and body. A function without body is a mere signature, which
ends like a statement. -/
def rest (grammar : Grammar) (isAsync isGenerator needsBody : Bool) : Recognizer Unit := do
  inside isAsync isGenerator do
    Types.parameters? grammar
    grammar.skip .parameters
    let _ ← Types.result? grammar
    if (← sees "\x7b") || needsBody then grammar.skip .body else semicolon

/-- A function from the word `function` on. One that is declared has a name. -/
def full (grammar : Grammar) (isAsync isDeclared : Bool) : Recognizer Unit := do
  expectWord "function"
  let isGenerator ← eat "*"
  if (← token).isName then
    within (fun context => { context with awaits := isAsync, yields := isGenerator }) declaredName
  else ensure !isDeclared
  rest grammar isAsync isGenerator false

/-- The body of an arrow function, from its arrow on: an expression, or statements in braces. -/
def arrowTail (grammar : Grammar) (isAsync returnType : Bool) (parameters : Span) :
    Recognizer Outline := do
  ensure !(← afterLineEnd)
  expect "=>"
  let start := (← token).start
  let isBlock ← sees "\x7b"
  within (fun context => { context with awaits := isAsync, yields := false }) do
    if isBlock then grammar.skip .body else grammar.skip (.assignment returnType)
  return .arrow isAsync parameters ⟨start, (← get).previousStop⟩ isBlock

/-- The head of an arrow function with parentheses: whether it is asynchronous, where its parameters
stand, and whether it tells its result. None of its parameters is `this`. -/
def arrowHead (grammar : Grammar) : Recognizer (Bool × Span × Bool) := do
  let isAsync ← eatWord "async"
  let context := (← get).context
  let span ← within (fun context => { context with awaits := context.awaits || isAsync }) do
    Types.parameters? grammar
    let start := (← token).start
    let startsWithThis ← foresees do
      expect "("
      seesWord "this"
    grammar.skip .parameters
    ensure !startsWithThis
    return Span.mk start (← get).previousStop
  let hasResult ← within (fun _ => { context with allowsConditional := true })
      (Types.result? grammar)
  require (← sees "=>")
  return (isAsync, span, hasResult)

/-- Whether an arrow function with parentheses starts here. -/
inductive Likelihood where
  | no
  | perhaps
  | yes

/-- What a parenthesis tells after its first tokens. -/
def afterParenthesis : Recognizer Likelihood := do
  let second ← token
  if second.isPunctuator ")" then
    advance
    if ← sees ":" then return .perhaps
    return if ← seesAny ["=>", "\x7b"] then .yes else .no
  if second.isPunctuator "[" || second.isPunctuator "\x7b" then return .perhaps
  if second.isPunctuator "..." then return .yes
  advance
  let third ← token
  if second.kind == .word && parameterModifiers.contains second.text && third.isName then
    return if third.text == "as" || third.text == "satisfies" then .no else .yes
  if !(second.isName || second.isWord "this") then return .no
  if third.isPunctuator ":" then return .yes
  if third.isPunctuator "?" then
    advance
    return if ← seesAny [":", ",", "=", ")"] then .yes else .no
  return if third.isPunctuator "," || third.isPunctuator "=" || third.isPunctuator ")" then .perhaps
    else .no

/-- What an angle bracket tells after its first tokens: only type parameters that cannot be the
start of an element make an arrow function. -/
def afterAngle : Recognizer Likelihood := do
  let _ ← eatWord "const"
  if !(← token).isName then return .no
  advance
  if ← eatWord "extends" then return if ← seesAny ["=", ">", "/"] then .no else .yes
  return if ← seesAny [",", "="] then .yes else .no

/-- How likely it is that an arrow function with parentheses starts here. -/
def likelihood : Recognizer Likelihood := do
  let found ← lookahead do
    if ← eatWord "async" then require !(← afterLineEnd)
    if ← eat "(" then afterParenthesis
    else
      expect "<"
      afterAngle
  return found.getD .no

/-- An arrow function with parentheses, if one starts here. Where only its arrow can tell, the
reading goes back if there is none. Where a return type could be what follows a colon in a
condition, another colon has to follow the function. -/
def parenthesizedArrow? (grammar : Grammar) (returnType : Bool) : Recognizer (Option Outline) := do
  match ← likelihood with
  | .no => return none
  | .yes =>
    let (isAsync, span, _) ← arrowHead grammar
    return some (← arrowTail grammar isAsync true span)
  | .perhaps =>
    let before ← get
    match ← attempt (arrowHead grammar) with
    | none => return none
    | some (isAsync, span, hasResult) =>
      let arrow ← arrowTail grammar isAsync returnType span
      if !returnType && hasResult && !(← sees ":") then
        set before
        return none
      return some arrow

/-- Whether an asynchronous arrow function with one parameter and no parentheses starts here. -/
def startsAsyncArrow : Recognizer Bool :=
  foresees do
    expectWord "async"
    let name ← token
    require (name.isName && !name.afterLineEnd)
    advance
    return (← sees "=>") && !(← afterLineEnd)

/-- An asynchronous arrow function with one parameter and no parentheses. -/
def asyncArrow (grammar : Grammar) (returnType : Bool) : Recognizer Outline := do
  advance
  let name ← token
  within (fun context => { context with awaits := true }) declaredName
  arrowTail grammar true returnType ⟨name.start, name.stop⟩

end Function

end RenderTemplate.Host
