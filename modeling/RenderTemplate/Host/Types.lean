import RenderTemplate.Host.Goal

namespace RenderTemplate.Host.Types

open Recognizer

/-- A type where conditional types are allowed again. -/
def free (grammar : Grammar) : Recognizer Unit :=
  within (fun context => { context with allowsConditional := true }) (grammar.skip .type)

/-- A type that is no conditional type. -/
def unconditional (grammar : Grammar) : Recognizer Unit :=
  within (fun context => { context with allowsConditional := false }) (grammar.skip .type)

/-- Moves past an opening angle bracket, which may be the first half of a shift. -/
def openAngle : Recognizer Unit := do
  if ← sees "<<" then reread (Lexer.fromTable ["<"])
  expect "<"

/-- Type arguments in angle brackets. -/
def arguments (grammar : Grammar) : Recognizer Unit := do
  openAngle
  let (found, _) ← enclosed ">" (free grammar)
  ensure !found.isEmpty

/-- Type parameters in angle brackets. -/
def parameters (grammar : Grammar) : Recognizer Unit := do
  openAngle
  let (found, _) ← enclosed ">" do
    repeatWhile do
      let token ← token
      if token.isWord "const" || token.isWord "in" || token.isWord "out" then
        let followed ← foresees do
          advance
          return (← Recognizer.token).kind == .word
        if followed then
          advance
          return true
      return false
    declaredName
    if ← eatWord "extends" then free grammar
    if ← eat "=" then free grammar
  ensure !found.isEmpty

/-- Type parameters, if there are any. -/
def parameters? (grammar : Grammar) : Recognizer Unit := do
  if ← sees "<" then parameters grammar

/-- What a function gives: a type, or what its answer asserts about a parameter. -/
def result (grammar : Grammar) : Recognizer Unit := do
  let named (token : Token) : Bool := token.isName || token.isWord "this"
  let asserting ← foresees do
    expectWord "asserts"
    let token ← token
    return named token && !token.afterLineEnd
  let predicate ← foresees do
    require (named (← token))
    advance
    let token ← token
    return token.isWord "is" && !token.afterLineEnd
  if asserting then
    advance
    advance
    if ← eatWord "is" then free grammar
  else if predicate then
    advance
    advance
    free grammar
  else free grammar

/-- A type beside a name, if there is one. -/
def annotation? (grammar : Grammar) : Recognizer Unit := do
  if ← eat ":" then free grammar

/-- The type that a function gives, if it is written. -/
def result? (grammar : Grammar) : Recognizer Bool := do
  if ← eat ":" then
    result grammar
    return true
  return false

/-- Whether a parenthesis starts the parameters of a function type. -/
def startsParameters (grammar : Grammar) : Recognizer Bool :=
  foresees do
    expect "("
    if ← seesAny [")", "..."] then return true
    let token ← token
    if token.kind == .word then
      require (token.isName || token.isWord "this")
      advance
    else
      require (← seesAny ["[", "\x7b"])
      grammar.skip .pattern
    if ← seesAny [":", ",", "?", "="] then return true
    expect ")"
    sees "=>"

/-- Whether a function type starts here. -/
def startsFunction (grammar : Grammar) : Recognizer Bool := do
  if ← sees "<" then return true
  if ← sees "(" then return ← startsParameters grammar
  if ← seesWord "new" then return true
  foresees do
    expectWord "abstract"
    seesWord "new"

/-- The type of a function or of a constructor. -/
def function (grammar : Grammar) : Recognizer Unit := do
  let _ ← eatWord "abstract"
  let _ ← eatWord "new"
  parameters? grammar
  grammar.skip .parameters
  expect "=>"
  result grammar

/-- Names joined by dots, with type arguments. -/
def entity (grammar : Grammar) : Recognizer Unit := do
  advance
  repeatWhile do
    if ← eat "." then
      require ((← token).kind == .word || (← token).kind == .privateName)
      advance
      return true
    return false
  if !(← afterLineEnd) && ((← sees "<") || (← sees "<<")) then arguments grammar

/-- The element of a tuple type. -/
def tupleElement (grammar : Grammar) : Recognizer Unit := do
  let _ ← eat "..."
  let labelled ← foresees do
    require ((← token).kind == .word)
    advance
    let _ ← eat "?"
    sees ":"
  if labelled then
    advance
    let _ ← eat "?"
    advance
    free grammar
  else
    free grammar
    let _ ← eat "?"

/-- Whether a mapped type starts here. -/
def startsMapped : Recognizer Bool :=
  foresees do
    expect "\x7b"
    if ← seesAny ["+", "-"] then
      advance
      return ← seesWord "readonly"
    if ← seesWord "readonly" then advance
    expect "["
    require ((← token).kind == .word)
    advance
    seesWord "in"

/-- A type that is computed for each of several keys. -/
def mapped (grammar : Grammar) : Recognizer Unit := do
  expect "\x7b"
  if ← seesAny ["+", "-"] then advance
  let _ ← eatWord "readonly"
  expect "["
  declaredName
  expectWord "in"
  free grammar
  if ← eatWord "as" then free grammar
  expect "]"
  if ← seesAny ["+", "-"] then
    advance
    expect "?"
  else
    let _ ← eat "?"
  annotation? grammar
  let _ ← eat ";"
  expect "\x7d"

/-- A modifier of a member, if a member follows it. -/
def modifier (words : List String) : Recognizer Bool := do
  let first ← token
  if first.kind == .word && words.contains first.text then
    let followed ← foresees do
      advance
      let next ← token
      return next.kind == .word || next.kind == .string || next.kind == .number || next.kind ==
        .privateName ||
        next.isPunctuator "[" || next.isPunctuator "*" || next.isPunctuator "\x7b"
    if followed then
      advance
      return true
  return false

/-- Parameters and result of a signature. -/
def signature (grammar : Grammar) : Recognizer Unit := do
  parameters? grammar
  grammar.skip .parameters
  let _ ← result? grammar

/-- A member of an object type. -/
def member (grammar : Grammar) : Recognizer Unit := do
  let constructs ← foresees do
    expectWord "new"
    seesAny ["(", "<"]
  if ← seesAny ["(", "<"] then signature grammar
  else if constructs then
    advance
    signature grammar
  else
    repeatWhile (modifier ["readonly", "public", "private", "protected", "static"])
    let _ ← modifier ["get", "set"]
    let indexed ← foresees do
      expect "["
      require (← token).isName
      advance
      sees ":"
    if indexed then
      expect "["
      declaredName
      annotation? grammar
      expect "]"
      annotation? grammar
    else
      grammar.memberName
      let _ ← eat "?"
      if ← seesAny ["(", "<"] then signature grammar else annotation? grammar
  if (← sees ";") || (← sees ",") then advance
  else require ((← sees "\x7d") || (← afterLineEnd))

/-- The members of an object type, in braces. -/
def members (grammar : Grammar) : Recognizer Unit := do
  expect "\x7b"
  repeatWhile do
    if ← sees "\x7d" then return false
    member grammar
    return true
  expect "\x7d"

/-- The type of a name or of a module. -/
def query (grammar : Grammar) : Recognizer Unit := do
  expectWord "typeof"
  if ← seesWord "import" then grammar.skip .type
  else
    require ((← token).kind == .word)
    entity grammar

/-- A type from a module. -/
def imported (grammar : Grammar) : Recognizer Unit := do
  expectWord "import"
  expect "("
  free grammar
  if ← eat "," then
    if !(← sees ")") then let _ ← grammar.value
  expect ")"
  if ← eat "." then
    require ((← token).kind == .word)
    entity grammar
  else if (← sees "<") && !(← afterLineEnd) then arguments grammar

/-- Keywords that are types, or start entities that are. -/
def wordTypes : List String := ["this", "void", "null", "true", "false", "const"]

/-- A type without operators. -/
def atom (grammar : Grammar) : Recognizer Unit := do
  let token ← token
  match token.kind with
  | .string | .number => advance
  | .template | .templateHead => grammar.templateLiteral .type false
  | .punctuator =>
    match token.text with
    | "-" =>
      advance
      require ((← Recognizer.token).kind == .number)
      advance
    | "\x7b" => if ← startsMapped then mapped grammar else members grammar
    | "[" =>
      advance
      let _ ← enclosed "]" (tupleElement grammar)
    | "(" =>
      advance
      free grammar
      expect ")"
    | _ => failure
  | .word =>
    if token.text == "typeof" then query grammar
    else if token.text == "import" then imported grammar
    else if wordTypes.contains token.text then advance
    else
      require token.isName
      entity grammar
  | _ => failure

/-- A type with brackets after it. -/
def suffixed (grammar : Grammar) : Recognizer Unit := do
  atom grammar
  repeatWhile do
    if ← afterLineEnd then return false
    if ← eat "!" then return true
    if ← eat "[" then
      if !(← eat "]") then
        free grammar
        expect "]"
      return true
    return false

/-- A type with operators before it. -/
def prefixed (grammar : Grammar) : Recognizer Unit := do
  repeatWhile do
    if (← seesWord "keyof") || (← seesWord "unique") || (← seesWord "readonly") then
      advance
      return true
    return false
  if ← eatWord "infer" then
    declaredName
    let _ ← attempt do
      expectWord "extends"
      unconditional grammar
      let state ← get
      require !(state.context.allowsConditional && state.token.isPunctuator "?")
  else suffixed grammar

/-- Types between two occurrences of an operator, which may also stand before the first. -/
def joined (operator : String) (operand : Recognizer Unit) : Recognizer Unit := do
  let _ ← eat operator
  operand
  repeatWhile do
    if ← eat operator then
      operand
      return true
    return false

/-- A type. -/
def full (grammar : Grammar) : Recognizer Unit := do
  if ← startsFunction grammar then function grammar
  else
    joined "|" (joined "&" do
      if ← startsFunction grammar then function grammar else prefixed grammar)
    let state ← get
    if state.context.allowsConditional && state.token.isWord "extends" && !state.token.afterLineEnd
      then
      advance
      unconditional grammar
      expect "?"
      free grammar
      expect ":"
      free grammar

end RenderTemplate.Host.Types
