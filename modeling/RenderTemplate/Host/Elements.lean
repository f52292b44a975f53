import RenderTemplate.Host.Types

namespace RenderTemplate.Host.Elements

open Recognizer

/-- Moves past the current token to what stands between tags. -/
def advanceToChild : Recognizer Unit := do
  let state ← get
  accept (Lexer.elementChild state.token.stop state.rest)

/-- Moves past the end of a tag. Inside another element text may follow. -/
def endTag (nested : Bool) : Recognizer Unit := do
  require (← sees ">")
  if nested then advanceToChild else advance

/-- A name, in which hyphens may stand. -/
def name : Recognizer String := do
  require ((← token).kind == .word)
  reread Lexer.elementName
  let text := (← token).text
  advance
  return text

/-- The name of a component after a dot, in which no hyphens stand. -/
def memberName : Recognizer String := do
  let text ← name
  require !(text.toList.contains '-')
  return text

/-- The name of an element: a name, a name in a namespace, or names joined by dots. -/
def elementName : Recognizer String := do
  let first ← name
  if ← eat ":" then return first ++ ":" ++ (← name)
  iterate (fun text => do
    if ← eat "." then return some (text ++ "." ++ (← memberName))
    return none) first

/-- An expression in braces as the value of an attribute; it cannot be left out. -/
def braced (grammar : Grammar) : Recognizer Unit := do
  expect "\x7b"
  grammar.skip .expression
  expect "\x7d"

/-- An attribute. -/
def member (grammar : Grammar) : Recognizer Unit := do
  if ← eat "\x7b" then
    expect "..."
    grammar.skip .expression
    expect "\x7d"
  else
    let _ ← name
    if ← eat ":" then let _ ← name
    if ← sees "=" then
      let state ← get
      accept (Lexer.nextBy Lexer.attributeValue state.token.stop state.rest)
      let value ← token
      if value.kind == .string then advance
      else if value.isPunctuator "\x7b" then allowingIn (braced grammar)
      else grammar.skip (.element false)

/-- A child in braces: an expression, all children of a list, or nothing. -/
def bracedChild (grammar : Grammar) : Recognizer Unit := do
  expect "\x7b"
  if !(← sees "\x7d") then
    let _ ← eat "..."
    allowingIn (grammar.skip .expression)
  require (← sees "\x7d")
  advanceToChild

/-- The children of an element up to its closing tag, of which the bracket and the slash are moved
past. -/
def children (grammar : Grammar) : Recognizer Unit := do
  repeatWhile do
    let child ← token
    if child.kind == .elementText then
      advanceToChild
      return true
    if child.isPunctuator "\x7b" then
      bracedChild grammar
      return true
    require (child.isPunctuator "<")
    let closing ← foresees do
      advance
      sees "/"
    if closing then
      advance
      advance
      return false
    grammar.skip (.element true)
    return true

/-- An element or a fragment. Its closing tag repeats its name. -/
def full (grammar : Grammar) (nested : Bool) : Recognizer Unit := do
  expect "<"
  if ← sees ">" then
    advanceToChild
    children grammar
    endTag nested
  else
    let opened ← elementName
    if (← sees "<") || (← sees "<<") then Types.arguments grammar
    repeatWhile do
      if (← sees "/") || (← sees ">") then return false
      member grammar
      return true
    if ← eat "/" then endTag nested
    else
      require (← sees ">")
      advanceToChild
      children grammar
      let closed ← elementName
      ensure (opened == closed)
      endTag nested

end RenderTemplate.Host.Elements
