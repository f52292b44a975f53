import RenderTemplate.Host.Members

namespace RenderTemplate.Host.Statements

open Recognizer

/-- An expression where the operator `in` is allowed. -/
def expression (grammar : Grammar) : Recognizer Unit :=
  allowingIn (grammar.skip .expression)

/-- An expression in parentheses. -/
def condition (grammar : Grammar) : Recognizer Unit := do
  expect "("
  expression grammar
  expect ")"

/-- Statements in braces. -/
def block (grammar : Grammar) : Recognizer Unit :=
  Function.body grammar

/-- One declared name or pattern with its type and value. In the head of a loop a value may be
missing that is needed elsewhere. -/
def declarator (grammar : Grammar) (needsValue inHead : Bool) : Recognizer Unit := do
  let isPattern ← seesAny ["[", "\x7b"]
  grammar.skip .pattern
  if (← sees "!") && !(← afterLineEnd) then advance
  Types.annotation? grammar
  if ← eat "=" then grammar.skip (.assignment true)
  else if !inHead then ensure !(needsValue || isPattern)

/-- Declarators between commas. -/
def declarators (grammar : Grammar) (needsValue inHead : Bool) : Recognizer Unit := do
  declarator grammar needsValue inHead
  repeatWhile do
    if ← eat "," then
      declarator grammar needsValue inHead
      return true
    return false

/-- Whether a declaration with `let` starts here, and not an expression with that name. -/
def startsLet : Recognizer Bool :=
  foresees do
    expectWord "let"
    let next ← token
    return (next.isName && next.text != "in" && next.text != "of") || next.isPunctuator "[" ||
      next.isPunctuator "\x7b"

/-- Whether a declaration with `using` starts here. -/
def startsUsing : Recognizer Bool :=
  foresees do
    if ← eatWord "await" then require !(← afterLineEnd)
    expectWord "using"
    let next ← token
    return next.isName && !next.afterLineEnd && next.text != "of"

/-- Whether variables are declared here. -/
def startsVariables : Recognizer Bool := do
  return (← seesWord "var") || (← seesWord "const") || (← startsLet) || (← startsUsing)

/-- Moves past the word that starts a declaration, and tells whether values are needed. -/
def variableWord : Recognizer Bool := do
  let isConst ← seesWord "const"
  if ← seesWord "await" then advance
  let isUsing ← seesWord "using"
  advance
  return isConst || isUsing

/-- The head of a loop after its first part: a list of what to go through, or a condition and a
step. -/
def loopRest (grammar : Grammar) (single : Bool) : Recognizer Unit := do
  if single && (← eatWord "of") then grammar.skip (.assignment true)
  else if single && (← eatWord "in") then expression grammar
  else
    expect ";"
    if !(← sees ";") then expression grammar
    expect ";"
    if !(← sees ")") then expression grammar

/-- A loop with `for`. -/
def loop (grammar : Grammar) : Recognizer Unit := do
  expectWord "for"
  if ← eatWord "await" then ensure (← get).context.awaits
  expect "("
  let withoutIn {α : Type} (recognizer : Recognizer α) : Recognizer α :=
    within (fun context => { context with allowsIn := false }) recognizer
  if ← sees ";" then loopRest grammar false
  else if ← startsVariables then
    let _ ← variableWord
    withoutIn (declarators grammar false true)
    loopRest grammar true
  else
    let first ← withoutIn (grammar .expression)
    if (← seesWord "of") || (← seesWord "in") then
      match first.target? with
      | none => failure
      | some starts => modify fun state =>
          { state with defaults := state.defaults.filter fun start => !starts.contains start }
    loopRest grammar true
  expect ")"
  grammar.skip .statement

/-- A statement with `if`. -/
def branch (grammar : Grammar) : Recognizer Unit := do
  expectWord "if"
  condition grammar
  grammar.skip .statement
  if ← eatWord "else" then grammar.skip .statement

/-- A statement with `switch`. -/
def choice (grammar : Grammar) : Recognizer Unit := do
  expectWord "switch"
  condition grammar
  expect "\x7b"
  repeatWhile do
    if ← sees "\x7d" then return false
    if ← eatWord "case" then expression grammar else expectWord "default"
    expect ":"
    repeatWhile do
      if (← sees "\x7d") || (← seesWord "case") || (← seesWord "default") then return false
      grammar.skip .statement
      return true
    return true
  expect "\x7d"

/-- A statement with `try`. -/
def guarded (grammar : Grammar) : Recognizer Unit := do
  expectWord "try"
  block grammar
  let caught ← eatWord "catch"
  if caught then
    if ← eat "(" then
      grammar.skip .pattern
      Types.annotation? grammar
      expect ")"
    block grammar
  let finished ← eatWord "finally"
  if finished then block grammar
  ensure (caught || finished)

/-- A jump, perhaps to a label. -/
def jump : Recognizer Unit := do
  advance
  let label ← token
  if label.isName && !label.afterLineEnd then advance
  semicolon

/-- Whether a word is followed by a name on the same line. -/
def namesNext (word : String) : Recognizer Bool :=
  foresees do
    expectWord word
    let next ← token
    return next.isName && !next.afterLineEnd

/-- A type with a new name. -/
def typeName (grammar : Grammar) : Recognizer Unit := do
  advance
  declaredName
  Types.parameters? grammar
  expect "="
  grammar.skip .type
  semicolon

/-- An interface. -/
def interface (grammar : Grammar) : Recognizer Unit := do
  advance
  declaredName
  Types.parameters? grammar
  if ← eatWord "extends" then
    require (← token).isName
    Types.entity grammar
    repeatWhile do
      if ← eat "," then
        require (← token).isName
        Types.entity grammar
        return true
      return false
  Types.members grammar

/-- An enumeration. -/
def enumeration (grammar : Grammar) : Recognizer Unit := do
  expectWord "enum"
  declaredName
  expect "\x7b"
  let _ ← enclosed "\x7d" do
    grammar.memberName
    if ← eat "=" then let _ ← grammar.value

/-- A statement. -/
def full (grammar : Grammar) : Recognizer Unit := do
  let first ← token
  let isAsyncFunction ← foresees do
    expectWord "async"
    return (← seesWord "function") && !(← afterLineEnd)
  let isLabel ← foresees do
    require (← token).isName
    advance
    sees ":"
  if first.isPunctuator "\x7b" then block grammar
  else if first.isPunctuator ";" then advance
  else if first.isPunctuator "@" then
    repeatWhile do
      if ← eat "@" then
        grammar.skip .access
        return true
      return false
    Class.full grammar
  else if isLabel then
    advance
    advance
    grammar.skip .statement
  else if isAsyncFunction then
    advance
    Function.full grammar true true
  else if ← namesNext "type" then typeName grammar
  else if ← namesNext "interface" then interface grammar
  else if ← startsVariables then
    let needsValue ← variableWord
    allowingIn (declarators grammar needsValue false)
    semicolon
  else if first.kind == .word then
    match first.text with
    | "if" => branch grammar
    | "for" => loop grammar
    | "while" =>
      advance
      condition grammar
      grammar.skip .statement
    | "do" =>
      advance
      grammar.skip .statement
      expectWord "while"
      condition grammar
      let _ ← eat ";"
    | "switch" => choice grammar
    | "try" => guarded grammar
    | "break" | "continue" => jump
    | "return" =>
      advance
      if !((← sees ";") || (← sees "\x7d") || (← afterLineEnd) || (← token).kind == .finish) then
        expression grammar
      semicolon
    | "throw" =>
      advance
      ensure !(← afterLineEnd)
      expression grammar
      semicolon
    | "debugger" =>
      advance
      semicolon
    | "with" =>
      advance
      condition grammar
      grammar.skip .statement
    | "function" => Function.full grammar false true
    | "class" => Class.full grammar
    | "enum" => enumeration grammar
    | _ =>
      expression grammar
      semicolon
  else
    expression grammar
    semicolon

end RenderTemplate.Host.Statements
