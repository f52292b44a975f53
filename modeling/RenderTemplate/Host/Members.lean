import RenderTemplate.Host.Functions

namespace RenderTemplate.Host

open Recognizer

/-- Whether the name of a member can follow a modifier here. -/
def seesMemberName : Recognizer Bool := do
  let token ← token
  return token.kind == .word || token.kind == .string || token.kind == .number || token.kind ==
    .privateName ||
    token.isPunctuator "["

/-- Moves past a word before the name of a member, if it is not the name itself. -/
def eatModifier (word : String) (sameLine allowsStar : Bool) : Recognizer Bool := do
  let followed ← foresees do
    expectWord word
    if sameLine then require !(← afterLineEnd)
    return (← seesMemberName) || (allowsStar && (← sees "*"))
  if followed then advance
  return followed

/-- An accessor from its name on: one that reads has no parameters, one that writes has one. -/
def accessor (grammar : Grammar) (writes needsBody : Bool) : Recognizer Unit := do
  let arity ← lookahead do
    Types.parameters? grammar
    expect "("
    if ← sees ")" then return 0
    if ← sees "..." then return 2
    Function.parameter grammar
    let _ ← eat ","
    return if ← sees ")" then 1 else 2
  ensure (arity == some (if writes then 1 else 0))
  Function.rest grammar false false needsBody

namespace Literal

/-- A member of an object literal. -/
def member (grammar : Grammar) : Recognizer Outline := do
  if ← eat "..." then return .spread (← grammar.value)
  let start := (← token).start
  let isAsync ← eatModifier "async" true true
  if !isAsync then
    if ← eatModifier "get" false false then
      grammar.memberName
      accessor grammar false true
      return .method
    if ← eatModifier "set" false false then
      grammar.memberName
      accessor grammar true true
      return .method
  let isGenerator ← eat "*"
  let state ← get
  grammar.memberName
  if isAsync || isGenerator || (← seesAny ["(", "<"]) then
    Function.rest grammar isAsync isGenerator true
    return .method
  if isReferenceName state.token state.context && !(← sees ":") then
    if ← eat "=" then
      let _ ← grammar.value
      modify fun state => { state with defaults := start :: state.defaults }
      return .defaulted start
    return .shorthand
  expect ":"
  grammar.value

/-- An object literal. -/
def object (grammar : Grammar) : Recognizer Outline := do
  expect "\x7b"
  let (members, _) ← enclosed "\x7d" (member grammar)
  return .object members

/-- An element of an array literal, which may be left out. -/
def element (grammar : Grammar) : Recognizer Outline := do
  if ← sees "," then return .hole
  if ← eat "..." then return .spread (← grammar.value)
  grammar.value

/-- An array literal. -/
def array (grammar : Grammar) : Recognizer Outline := do
  expect "["
  let (elements, trailing) ← enclosed "]" (element grammar)
  return .array elements trailing

end Literal

namespace Class

/-- Words that may stand before the name of a member of a class. -/
def modifiers : List String := [
  "public", "private", "protected", "static", "abstract", "override", "readonly", "declare",
    "accessor"]

/-- Moves past a modifier, if it is not the name of the member. -/
def modifier : Recognizer Bool := do
  let word ← token
  if word.kind == .word && modifiers.contains word.text then
    let followed ← foresees do
      advance
      if word.text == "static" && (← sees "\x7b") then return false
      return (← seesMemberName) || (← sees "*")
    if followed then
      advance
      return true
  return false

/-- The name of a member, which may be private. -/
def memberName (grammar : Grammar) : Recognizer Unit := do
  if (← token).kind == .privateName then advance else grammar.memberName

/-- A member of a class. -/
def member (grammar : Grammar) : Recognizer Unit := do
  if ← eat ";" then return
  repeatWhile do
    if ← eat "@" then
      grammar.skip .access
      return true
    return false
  let block ← foresees do
    expectWord "static"
    sees "\x7b"
  if block then
    advance
    Function.inside true false (grammar.skip .body)
    return
  repeatWhile modifier
  let indexed ← foresees do
    expect "["
    require (← token).isName
    advance
    sees ":"
  if indexed then
    expect "["
    declaredName
    Types.annotation? grammar
    expect "]"
    Types.annotation? grammar
    semicolon
    return
  let isAsync ← eatModifier "async" true true
  if !isAsync then
    if ← eatModifier "get" false false then
      memberName grammar
      accessor grammar false false
      return
    if ← eatModifier "set" false false then
      memberName grammar
      accessor grammar true false
      return
  let isGenerator ← eat "*"
  memberName grammar
  if !(← eat "?") then
    if (← sees "!") && !(← afterLineEnd) then advance
  if isAsync || isGenerator || (← seesAny ["(", "<"])
    then Function.rest grammar isAsync isGenerator false
  else
    Types.annotation? grammar
    if ← eat "=" then Function.inside false false (do let _ ← grammar.value)
    semicolon

/-- A class from the word `class` on. -/
def full (grammar : Grammar) : Recognizer Unit := do
  expectWord "class"
  let name ← token
  if name.isName && name.text != "implements" then declaredName
  Types.parameters? grammar
  if ← eatWord "extends" then
    grammar.skip .access
    if (← sees "<") || (← sees "<<") then Types.arguments grammar
  if ← eatWord "implements" then
    Types.entity grammar
    repeatWhile do
      if ← eat "," then
        require (← token).isName
        Types.entity grammar
        return true
      return false
  expect "\x7b"
  repeatWhile do
    if ← sees "\x7d" then return false
    member grammar
    return true
  expect "\x7d"

end Class

end RenderTemplate.Host
