import RenderTemplate.Host.Elements
import RenderTemplate.Host.Members

namespace RenderTemplate.Host.Expressions

open Recognizer

/-- Arguments of a call, in parentheses. -/
def callArguments (grammar : Grammar) : Recognizer Unit := do
  expect "("
  let _ ← enclosed ")" do
    let _ ← eat "..."
    let _ ← grammar.value

/-- An expression in parentheses. -/
def parenthesized (grammar : Grammar) : Recognizer Outline := do
  expect "("
  let (elements, trailing) ← allowingIn (separated ")" (grammar (.assignment true)))
  require !trailing
  expect ")"
  match elements with
  | [] => failure
  | [inner] => return .parentheses inner
  | _ => return .parentheses .other

/-- What `import` starts in an expression. -/
def importing (grammar : Grammar) : Recognizer Outline := do
  expectWord "import"
  if ← eat "." then
    if ← eatWord "meta" then return .other
    require ((← seesWord "source") || (← seesWord "defer"))
    advance
  expect "("
  let _ ← grammar.value
  if ← eat "," then
    if !(← sees ")") then
      let _ ← grammar.value
      let _ ← eat ","
  expect ")"
  return .importCall

/-- How tightly an operator binds, if the token is one between two operands. -/
def level? (token : Token) : Option Nat :=
  match token.kind with
  | .punctuator =>
    match token.text with
    | "??" => some 1
    | "||" => some 2
    | "&&" => some 3
    | "|" => some 4
    | "^" => some 5
    | "&" => some 6
    | "==" | "!=" | "===" | "!==" => some 7
    | "<" | ">" | "<=" | ">=" => some 8
    | "<<" | ">>" | ">>>" => some 9
    | "+" | "-" => some 10
    | "*" | "/" | "%" => some 11
    | "**" => some 12
    | _ => none
  | .word => if ["in", "instanceof", "as", "satisfies"].contains token.text then some 8 else none
  | _ => none

/-- Keywords that start no expression. -/
def idleWords : List String := [
  "break", "case", "catch", "const", "continue", "debugger", "default", "do", "else", "enum",
    "export", "extends",
  "finally", "for", "if", "return", "switch", "throw", "try", "var", "while", "with"]

/-- Whether a token can start an expression. -/
def startsExpression (token : Token) : Bool :=
  match token.kind with
  | .punctuator =>
    ["(", "[", "\x7b", "+", "-", "!", "~", "++", "--", "<", "/", "/=", "@"].contains token.text
  | .word => !idleWords.contains token.text
  | .finish | .malformed => false
  | _ => true

/-- Whether what follows type arguments shows that they are not comparisons. -/
def followsArguments : Recognizer Bool := do
  let token ← token
  if token.isPunctuator "(" || token.kind == .template || token.kind == .templateHead
    then return true
  if ["<", ">", "+", "-"].any token.isPunctuator then return false
  return token.afterLineEnd || (level? token).isSome || !startsExpression token

/-- Type arguments after an expression. Their last bracket is no part of a longer operator. -/
def typeArguments (grammar : Grammar) : Recognizer Unit := do
  Types.openAngle
  let (found, _) ← separated ">" (Types.free grammar)
  if ← sees ">" then reread (Lexer.fromTable Lexer.rightAngles)
  expect ">"
  require (← followsArguments)
  ensure !found.isEmpty

/-- The outline of a property of an object. -/
def accessOf (object access : Outline) : Outline :=
  match object with
  | .chain => .chain
  | _ => access

/-- One more access: a property, an element, a tag of a template literal, or a type. -/
def accessStep (grammar : Grammar) (chains : Bool) (object : Outline) :
    Recognizer (Option Outline) := do
  let here ← token
  if here.isPunctuator "." then
    advance
    let name ← token
    require (name.kind == .word || name.kind == .privateName)
    advance
    return some (accessOf object (if name.kind == .word then .property object else .member))
  if here.isPunctuator "?." && chains then
    let accessed ← foresees do
      advance
      let next ← token
      return next.kind == .word || next.kind == .privateName || next.isPunctuator "["
    if !accessed then return none
    advance
    if ← eat "[" then
      allowingIn (grammar.skip .expression)
      expect "]"
    else advance
    return some .chain
  if here.isPunctuator "[" then
    advance
    allowingIn (grammar.skip .expression)
    expect "]"
    return some (accessOf object .member)
  if here.isPunctuator "!" && !here.afterLineEnd then
    advance
    return some (accessOf object (.typed object))
  if here.kind == .template || here.kind == .templateHead then
    ensure (match object with | .chain => false | _ => true)
    grammar.templateLiteral .expression true
    return some (accessOf object .other)
  if here.isPunctuator "<" || here.isPunctuator "<<" then
    match ← attempt (typeArguments grammar) with
    | some () => return some (accessOf object (.instantiated object))
    | none => return none
  return none

/-- All accesses that follow an operand. -/
def accesses (grammar : Grammar) (chains : Bool) (object : Outline) : Recognizer Outline :=
  iterate (accessStep grammar chains) object

/-- Whether a decorated class starts after the decorators. -/
def decorated (grammar : Grammar) : Recognizer Unit := do
  repeatWhile do
    if ← eat "@" then
      grammar.skip .access
      return true
    return false
  Class.full grammar

/-- An operand by itself. -/
def primary (grammar : Grammar) (creation : Recognizer Outline) : Recognizer Outline := do
  let state ← get
  let first := state.token
  match first.kind with
  | .number | .string =>
    advance
    return .other
  | .template | .templateHead =>
    grammar.templateLiteral .expression false
    return .other
  | .punctuator =>
    match first.text with
    | "(" => parenthesized grammar
    | "[" => Literal.array grammar
    | "\x7b" => Literal.object grammar
    | "/" | "/=" =>
      reread fun chars => Lexer.regex false 1 (chars.drop 1)
      advance
      return .other
    | "<" =>
      grammar.skip (.element false)
      return .other
    | "@" =>
      decorated grammar
      return .other
    | _ => failure
  | .word =>
    match first.text with
    | "this" =>
      advance
      return .this
    | "null" | "true" | "false" =>
      advance
      return .other
    | "function" =>
      Function.full grammar false false
      return .other
    | "class" =>
      Class.full grammar
      return .other
    | "new" => creation
    | "super" =>
      advance
      ensure (← seesAny [".", "[", "("])
      return .super
    | "import" => importing grammar
    | _ =>
      let isAsync ← foresees do
        expectWord "async"
        return (← seesWord "function") && !(← afterLineEnd)
      if isAsync then
        advance
        Function.full grammar true false
        return .other
      require (isReferenceName first state.context)
      advance
      return .name first.text
  | _ => failure

/-- A creation of an object, from the word `new` on, inside at most `depth` others. -/
def creation (grammar : Grammar) : Nat → Recognizer Outline
  | 0 => failure
  | depth + 1 => do
    expectWord "new"
    if ← eat "." then
      expectWord "target"
      return .other
    let class' ← accesses grammar false (← primary grammar (creation grammar depth))
    ensure (match class' with | .importCall => false | _ => true)
    ensure !(← sees "?.")
    if ← sees "(" then callArguments grammar
    return .other

/-- Accesses and calls. -/
def access (grammar : Grammar) : Recognizer Outline := do
  let depth := (← get).rest.length
  let first ← accesses grammar true (← primary grammar (creation grammar (depth + 1)))
  iterate (fun callee => do
    if ← eat "?." then
      if (← sees "<") || (← sees "<<") then Types.arguments grammar
      let here ← token
      if here.kind == .template || here.kind == .templateHead then
        fault
        grammar.templateLiteral .expression true
      else callArguments grammar
      return some (← accesses grammar true .chain)
    if ← sees "(" then
      callArguments grammar
      return some (← accesses grammar true (accessOf callee .other))
    return none) first

/-- An operand with an increment before or after it. -/
def update (grammar : Grammar) : Recognizer Outline := do
  if ← seesAny ["++", "--"] then
    advance
    let target ← grammar .unary
    require target.isSimpleTarget
    return .other
  let isElement ← foresees do
    expect "<"
    let next ← token
    return next.kind == .word || next.isPunctuator ">"
  if isElement then
    grammar.skip (.element false)
    return .other
  let target ← grammar .access
  if (← seesAny ["++", "--"]) && !(← afterLineEnd) then
    require target.isSimpleTarget
    advance
    return .other
  return target

/-- Whether the token is an operator with one operand after it. -/
def isUnaryOperator (token : Token) : Bool :=
  ["+", "-", "!", "~"].any token.isPunctuator || ["typeof", "void", "delete"].any token.isWord

/-- Whether the word after this one, on the same line, shows that this one is an operator. -/
def operandFollows : Recognizer Bool :=
  foresees do
    advance
    let next ← token
    return !next.afterLineEnd &&
      (next.kind == .word || next.kind == .number || next.kind == .string)

/-- An operand with operators before it. -/
def operand (grammar : Grammar) : Recognizer Outline := do
  let state ← get
  if isUnaryOperator state.token then
    advance
    grammar.skip .unary
    return .unary
  if state.token.isWord "await" && (state.context.awaits || (← operandFollows)) then
    ensure state.context.awaits
    advance
    within (fun context => { context with awaits := true }) (grammar.skip .unary)
    return .unary
  update grammar

/-- The outline of an operation. A power of an operation with one operand is a fault, and so is `??`
beside another logical operator, unless there are parentheses. -/
def operationOf (operator : String) (left right : Outline) : Recognizer Outline := do
  match operator with
  | "**" =>
    ensure (match left with | .unary => false | _ => true)
    return .other
  | "??" =>
    ensure !(left.isLogical || right.isLogical)
    return .other
  | "&&" | "||" => return .logical
  | _ => return .other

/-- One more operation that binds more tightly than `level`. -/
def operationStep (grammar : Grammar) (level : Nat) (left : Outline) :
    Recognizer (Option Outline) := do
  if ← sees ">" then reread (Lexer.fromTable Lexer.rightAngles)
  let state ← get
  let operator := state.token
  match level? operator with
  | none => return none
  | some found =>
    if found < level || (found == level && operator.text != "**") then return none
    if operator.isWord "in" && !state.context.allowsIn then return none
    if operator.isWord "as" || operator.isWord "satisfies" then
      if operator.afterLineEnd then return none
      advance
      grammar.skip .type
      return some (.typed left)
    advance
    let right ← grammar (.operation found)
    return some (← operationOf operator.text left right)

/-- Operations that bind more tightly than a level. A private name stands only before `in`. -/
def operation (grammar : Grammar) (level : Nat) : Recognizer Outline := do
  if (← token).kind == .privateName then
    advance
    require (← seesWord "in")
    iterate (operationStep grammar level) .other
  else iterate (operationStep grammar level) (← grammar .unary)

/-- Whether a token assigns. -/
def isAssignment (token : Token) : Bool :=
  ["=", "+=", "-=", "*=", "/=", "%=", "**=", "<<=", ">>=", ">>>=", "&=", "|=", "^=", "&&=", "||=",
    "??="].any
    token.isPunctuator

/-- Whether the word `yield` is an operator here. -/
def startsYield : Recognizer Bool := do
  let state ← get
  if state.token.isWord "yield" then
    if state.context.yields then return true
    return ← operandFollows
  return false

/-- What a generator yields. -/
def yielded (grammar : Grammar) : Recognizer Outline := do
  ensure (← get).context.yields
  advance
  if ← afterLineEnd then return .other
  let delegates ← eat "*"
  let next ← token
  let missing :=
    [")", "]", "\x7d", ":", ";", ","].any next.isPunctuator || next.isWord "in" || next.kind ==
    .finish
  if delegates || !missing then
    within (fun context => { context with yields := true }) (grammar.skip (.assignment true))
  return .other

/-- Marks the defaults of a pattern as in order. -/
def settle (target : Outline) : Recognizer Unit := do
  match target.target? with
  | none => failure
  | some starts => modify fun state =>
      { state with defaults := state.defaults.filter fun start => !starts.contains start }

/-- An expression without commas. -/
def assignment (grammar : Grammar) (returnType : Bool) : Recognizer Outline := do
  if ← startsYield then return ← yielded grammar
  if let some arrow ← Function.parenthesizedArrow? grammar returnType then return arrow
  if ← Function.startsAsyncArrow then return ← Function.asyncArrow grammar returnType
  let first ← token
  let left ← grammar (.operation 0)
  let here ← token
  match left with
  | .name _ =>
    if here.isPunctuator "=>" then
      return ← Function.arrowTail grammar false returnType ⟨first.start, first.stop⟩
  | _ => pure ()
  if isAssignment here then
    if here.isPunctuator "=" then settle left else require left.isSimpleTarget
    advance
    grammar.skip (.assignment returnType)
    return .assignment (here.isPunctuator "=")
  if ← eat "?" then
    allowingIn (grammar.skip (.assignment false))
    expect ":"
    grammar.skip (.assignment returnType)
    return .other
  return left

/-- Expressions between commas. -/
def full (grammar : Grammar) : Recognizer Outline := do
  let first ← grammar (.assignment true)
  iterate (fun _ => do
    if ← eat "," then
      grammar.skip (.assignment true)
      return some .other
    return none) first

end RenderTemplate.Host.Expressions
