import RenderTemplate.Host.Lexer
import RenderTemplate.Host.Outline

namespace RenderTemplate.Host

/-- What the place in the grammar allows. -/
structure Context where
  /-- The operator `in` may stand here. -/
  allowsIn : Bool := true
  /-- The word `await` is an operator here. -/
  awaits : Bool := true
  /-- The word `yield` is an operator here. -/
  yields : Bool := false
  /-- Conditional types may stand here. -/
  allowsConditional : Bool := true

/-- Where the reading stands. -/
structure State where
  token : Token
  /-- The input from the start of the token. -/
  here : List Char
  /-- The input after the token. -/
  rest : List Char
  /-- Where the token before ends. -/
  previousStop : Nat := 0
  context : Context := {}
  /-- A fault was noted. -/
  faulty : Bool := false
  /-- Where defaults stand in object literals that are no patterns so far. -/
  defaults : List Nat := []

/-- Reads from a state, or fails. It fails where the grammar has no way on. A fault that does not
stop the reading is noted in the state, and so is a default in an object literal until the literal
turns out to be a pattern. -/
abbrev Recognizer := StateT State Option

namespace Recognizer

/-- The current token. -/
def token : Recognizer Token :=
  return (← get).token

/-- Notes a fault. -/
def fault : Recognizer Unit :=
  modify fun state => { state with faulty := true }

/-- Notes a fault unless a condition holds. -/
def ensure (condition : Bool) : Recognizer Unit :=
  if condition then pure () else fault

/-- Fails unless a condition holds. -/
def require (condition : Bool) : Recognizer Unit :=
  if condition then pure () else failure

/-- Makes a reading current. A malformed token is a fault. -/
def accept (reading : Lexer.Reading) : Recognizer Unit :=
  modify fun state =>
    { state with
      previousStop := state.token.stop
      token := reading.token
      here := reading.here
      rest := reading.rest
      faulty := state.faulty || reading.token.kind == .malformed }

/-- Moves to the next token. -/
def advance : Recognizer Unit := do
  let state ← get
  ensure (!(state.token.escaped && keywords.contains state.token.text))
  accept (Lexer.next state.token.stop state.rest)

/-- Reads the current token in another way. -/
def reread (read : List Char → Lexer.Piece) : Recognizer Unit :=
  modify fun state =>
    let piece := read state.here
    { state with
      token := piece.token state.token.start state.token.afterLineEnd
      rest := piece.rest
      faulty := state.faulty || piece.kind == .malformed }

/-- Whether the current token is a punctuator. -/
def sees (text : String) : Recognizer Bool :=
  return (← token).isPunctuator text

/-- Whether the current token is a word. -/
def seesWord (text : String) : Recognizer Bool :=
  return (← token).isWord text

/-- Whether the current token is one of several punctuators. -/
def seesAny (texts : List String) : Recognizer Bool := do
  let token ← token
  return texts.any token.isPunctuator

/-- Moves past a punctuator if it stands here. -/
def eat (text : String) : Recognizer Bool := do
  if ← sees text then
    advance
    return true
  return false

/-- Moves past a word if it stands here. -/
def eatWord (text : String) : Recognizer Bool := do
  if ← seesWord text then
    advance
    return true
  return false

/-- Moves past a punctuator that has to stand here. -/
def expect (text : String) : Recognizer Unit := do
  require (← eat text)

/-- Moves past a word that has to stand here. -/
def expectWord (text : String) : Recognizer Unit := do
  require (← eatWord text)

/-- Whether a line ends before the current token. -/
def afterLineEnd : Recognizer Bool :=
  return (← token).afterLineEnd

/-- What a recognizer would give, without moving. -/
def lookahead {α : Type} (recognizer : Recognizer α) : Recognizer (Option α) := fun state =>
  some ((recognizer state).map (·.1), state)

/-- What a test would tell, without moving. A test that fails tells no. -/
def foresees (test : Recognizer Bool) : Recognizer Bool :=
  return (← lookahead test).getD false

/-- What a recognizer gives; where it fails the reading goes back. -/
def attempt {α : Type} (recognizer : Recognizer α) : Recognizer (Option α) := fun state =>
  match recognizer state with
  | some (value, after) => some (some value, after)
  | none => some (none, state)

/-- Runs a recognizer in another context. -/
def within {α : Type} (change : Context → Context) (recognizer : Recognizer α) : Recognizer α := do
  let context := (← get).context
  modify fun state => { state with context := change context }
  let value ← recognizer
  modify fun state => { state with context := context }
  return value

/-- Runs a recognizer where the operator `in` is allowed. -/
def allowingIn {α : Type} (recognizer : Recognizer α) : Recognizer α :=
  within (fun context => { context with allowsIn := true }) recognizer

/-- Repeats a step at most `bound` times, while it gives a value. -/
def iterateUpTo {α : Type} (step : α → Recognizer (Option α)) : Nat → α → Recognizer α
  | 0, _ => failure
  | bound + 1, value => do
    match ← step value with
    | some value => iterateUpTo step bound value
    | none => return value

/-- Repeats a step while it gives a value. Every repetition reads at least one character, so that
the length of the input bounds their number. -/
def iterate {α : Type} (step : α → Recognizer (Option α)) (value : α) : Recognizer α := do
  iterateUpTo step ((← get).rest.length + 2) value

/-- Repeats a step while it tells to go on. -/
def repeatWhile (step : Recognizer Bool) : Recognizer Unit :=
  iterate (fun () => return if ← step then some () else none) ()

/-- Elements between commas up to a closing punctuator, which is not moved past. A comma may stand
after the last element; the answer tells whether one does. -/
def separated {α : Type} (close : String) (element : Recognizer α) :
    Recognizer (List α × Bool) := do
  let (elements, trailing, _) ← iterate (fun (elements, _, going) => do
    if !going || (← sees close) then return none
    let value ← element
    if ← eat "," then return some (value :: elements, true, true)
    return some (value :: elements, false, false)) (([], false, true) : List α × Bool × Bool)
  return (elements.reverse, trailing)

/-- Elements between commas and closed by a punctuator. -/
def enclosed {α : Type} (close : String) (element : Recognizer α) : Recognizer (List α × Bool) := do
  let found ← separated close element
  expect close
  return found

/-- The end of a statement: a semicolon, or a place where one is understood. -/
def semicolon : Recognizer Unit := do
  let token ← token
  if token.isPunctuator ";" then advance
  else require (token.isPunctuator "\x7d" || token.kind == .finish || token.afterLineEnd)

/-- Whether a token can be used as a name here. -/
def isReferenceName (token : Token) (context : Context) : Bool :=
  token.isName && !(token.text == "await" && context.awaits) &&
    !(token.text == "yield" && context.yields)

/-- A name that is declared here. -/
def declaredName : Recognizer Unit := do
  let state ← get
  require state.token.isName
  ensure (isReferenceName state.token state.context)
  advance

end Recognizer

end RenderTemplate.Host
