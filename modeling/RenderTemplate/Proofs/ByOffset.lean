import RenderTemplate.Proofs.Groups
import RenderTemplate.Proofs.Origins

namespace RenderTemplate

/-- Why work on a source ends without a result. Besides an error there are two ways that a reader at
a cursor does not have: a slice of the source fails if it ends outside of the source or inside of a
character, and a loop fails if it takes more rounds than it may. -/
inductive Halt where
  /-- A slice that ends outside of the source or inside a character. -/
  | slice
  /-- More rounds than are allowed. -/
  | rounds
  | error (error : CompileError)
deriving DecidableEq

namespace Text

theorem before_append_dropBytes (offset : Nat) (chars : List Char) :
    Location.before offset chars ++ dropBytes offset chars = chars := by
  induction chars generalizing offset with
  | nil => rfl
  | cons c rest ih =>
    rw [Location.before, dropBytes]
    split
    · rfl
    · rw [List.cons_append, ih]

/-- An offset is at a boundary if the characters before it have just so many bytes. -/
theorem isBoundary_iff {chars : List Char} {offset : Nat} :
    IsBoundary chars offset ↔ byteLength (Location.before offset chars) = offset := by
  constructor
  · rintro ⟨front, rest, rfl, rfl⟩
    rw [before_append]
  · intro same
    exact ⟨_, _, (before_append_dropBytes offset chars).symm, same⟩

instance (chars : List Char) (offset : Nat) : Decidable (IsBoundary chars offset) :=
  decidable_of_iff _ isBoundary_iff.symm

end Text

namespace Markup

namespace ByOffset

variable (source : String)

/-- The text from an offset on. -/
def onward (pos : Nat) : Except Halt (List Char) :=
  if Text.IsBoundary source.toList pos then .ok (Text.dropBytes pos source.toList)
  else .error .slice

/-- The text between two offsets. -/
def between (start stop : Nat) : Except Halt (List Char) :=
  if Text.IsBoundary source.toList start ∧ Text.IsBoundary source.toList stop ∧ start ≤ stop then
    .ok (Text.slice source.toList start stop)
  else .error .slice

/-- Goes on to an offset that is not before this one. -/
def advanceTo (pos target : Nat) : Except Halt Nat := do
  let _ ← between source pos target
  return target

/-- An error at an offset. -/
def fail {α : Type} (pos : Nat) (fault : Fault) : Except Halt α :=
  .error (.error (fault.error (Location.ofOffset source pos)))

/-- Goes past blanks. -/
def skip (pos : Nat) : Except Halt Nat := do
  let rest ← onward source pos
  advanceTo source pos (pos + Text.byteLength (rest.takeWhile Text.isBlankChar))

/-- The characters at an offset that satisfy a test, and the offset behind them. -/
def word (test : Char → Bool) (pos : Nat) : Except Halt (String × Nat) := do
  let rest ← onward source pos
  let stop ← advanceTo source pos (pos + Text.byteLength (rest.takeWhile test))
  let text ← between source pos stop
  return (String.ofList text, stop)

/-- Looks at one byte after another, past groups in braces, and gives the offset where a byte stops
it or the source ends. -/
def scan (stops : Nat → Char → Except Halt Bool) (fault : Fault) : Nat → Nat → Except Halt Nat
  | 0, _ => .error .rounds
  | rounds + 1, pos =>
    match (Text.units source.toList)[pos]? with
    | none => .ok pos
    | some byte =>
      if byte = '{' then
        match Braces.endAt? source.toList pos with
        | none => fail source pos fault
        | some stop => scan stops fault rounds stop
      else do
        if ← stops pos byte then return pos
        else scan stops fault rounds (pos + 1)

/-- A value in quotes. -/
def readQuoted (rounds : Nat) (quote : Char) (name : String) (pos : Nat) :
    Except Halt (String × Nat) := do
  let start ← advanceTo source pos (pos + 1)
  let stop ← scan source (fun _ byte => .ok (byte == quote)) (.unclosedAttributeExpression name)
      rounds start
  if stop < Text.byteLength source.toList then
    let value ← between source start stop
    let next ← advanceTo source start (stop + 1)
    return (String.ofList value, next)
  else fail source pos (.unclosedValue name)

/-- A value in quotes, in braces, or up to a blank. -/
def valueAt (rounds : Nat) (name : String) (pos : Nat) : Except Halt (String × Nat) := do
  let rest ← onward source pos
  match rest.head? with
  | none => return ("", pos)
  | some c =>
    if c = '"' ∨ c = '\'' then readQuoted source rounds c name pos
    else if c = '{' then
      match Braces.endAt? source.toList pos with
      | none => fail source pos (.unclosedAttributeExpression name)
      | some stop =>
        let next ← advanceTo source pos stop
        let code ← between source pos stop
        return (String.ofList code, next)
    else
      let found ← word source isValueChar pos
      return (String.ofList (found.1.toList.reverse.dropWhile (· == '/')).reverse, found.2)

/-- The offset before a slash that closes a tag. -/
def putBack (pos : Nat) : Except Halt Nat := do
  let front ← between source 0 pos
  let rest ← onward source pos
  return if front.getLast? = some '/' ∧ rest.head? = some '>' then pos - 1 else pos

/-- The value of an attribute. -/
def readValue (rounds : Nat) (name : String) (pos : Nat) : Except Halt (String × Nat) := do
  let found ← valueAt source rounds name pos
  let next ← putBack source found.2
  return (found.1, next)

/-- An attribute. Blanks behind its name that no equals sign follows are given back. -/
def readAttribute (rounds : Nat) (tag : String) (pos : Nat) : Except Halt (Attribute × Nat) := do
  let name ← word source isAttributeChar pos
  if name.1.isEmpty then fail source pos (.unexpectedCharacter tag)
  else
    let sign ← skip source name.2
    let rest ← onward source sign
    if rest.head? = some '=' then
      let afterSign ← advanceTo source sign (sign + 1)
      let start ← skip source afterSign
      let found ← readValue source rounds name.1 start
      return (⟨name.1, some found.1, Location.ofOffset source pos⟩, found.2)
    else return (⟨name.1, none, Location.ofOffset source pos⟩, name.2)

/-- What a round of the loop over the attributes of a tag finds. -/
inductive TagRound where
  | ended (selfClosing : Bool) (next : Nat)
  | more (found : Attribute) (next : Nat)

/-- The offset behind what is found. -/
def TagRound.next : TagRound → Nat
  | ended _ next => next
  | more _ next => next

/-- A round of the loop over the attributes of a tag. -/
def tagRound (rounds : Nat) (tag : String) (location : Location) (found : List Attribute)
    (pos : Nat) :
    Except Halt TagRound := do
  let start ← skip source pos
  let rest ← onward source start
  match rest with
  | [] => .error (.error ((Fault.unterminatedTag tag).error location))
  | c :: after =>
    if c = '>' then
      let next ← advanceTo source start (start + 1)
      return .ended false next
    else if c = '/' ∧ after.head? = some '>' then
      let next ← advanceTo source start (start + 2)
      return .ended true next
    else
      let next ← readAttribute source rounds tag start
      if found.any (·.name == next.1.name) then
        .error (.error ((Fault.duplicateAttribute next.1.name tag).error next.1.location))
      else return .more next.1 next.2

/-- The loop over the attributes of a tag. -/
def readAttributes (tag : String) (location : Location) :
    Nat → List Attribute → Nat → Except Halt (List Attribute × Bool × Nat)
  | 0, _, _ => .error .rounds
  | rounds + 1, found, pos => do
    match ← tagRound source (rounds + 1) tag location found pos with
    | .ended selfClosing next => return (found.reverse, selfClosing, next)
    | .more attr next => readAttributes tag location rounds (attr :: found) next

/-- A closing tag. -/
def readClosing (pos : Nat) : Except Halt (String × Nat) := do
  let start ← advanceTo source pos (pos + 2)
  let name ← word source isTagChar start
  let stop ← skip source name.2
  let rest ← onward source stop
  if rest.head? = some '>' then
    let next ← advanceTo source stop (stop + 1)
    return (name.1, next)
  else fail source pos (.unterminatedClosingTag name.1)

/-- The text of an element with plain text only, up to and with its closing tag. -/
def readRaw (tag : String) (location : Location) (pos : Nat) : Except Halt (String × Nat) := do
  let rest ← onward source pos
  match Text.splitAt? ('<' :: '/' :: tag.toList) rest with
  | none => .error (.error ((Fault.unclosedElement tag).error location))
  | some parts =>
    let stop ← advanceTo source pos (pos + Text.byteLength parts.1)
    let closed ← readClosing source stop
    return (String.ofList parts.1, closed.2)

/-- An opening tag, with all of its element if no children can follow. -/
def readOpening (rounds : Nat) (pos : Nat) : Except Halt (Lexeme × Nat) := do
  let start ← advanceTo source pos (pos + 1)
  let tag ← word source isTagChar start
  let found ← readAttributes source tag.1 (Location.ofOffset source pos) rounds [] tag.2
  let opened : StartTag := ⟨tag.1, found.1, found.2.1, Location.ofOffset source pos⟩
  if found.2.1 || isVoidTag tag.1 then return (.leaf opened, found.2.2)
  else if isRawTag tag.1 then
    let inner ← readRaw source tag.1 (Location.ofOffset source pos) found.2.2
    return (.raw opened inner.1 (Location.ofOffset source found.2.2), inner.2)
  else return (.opening opened, found.2.2)

/-- Whether markup starts at a byte of a text, which it does not at the first one. -/
def stopsText (start : Nat) (pos : Nat) (byte : Char) : Except Halt Bool :=
  if byte = '<' ∧ start < pos then do
    let rest ← onward source pos
    return startsMarkup rest
  else .ok false

/-- A run of text. -/
def readText (rounds : Nat) (pos : Nat) : Except Halt (Lexeme × Nat) := do
  let stop ← scan source (stopsText source pos) .unclosedExpression rounds pos
  let run ← between source pos stop
  match Part.split run with
  | .error position => fail source (pos + Text.byteLength (run.take position)) .unclosedExpression
  | .ok parts =>
    let next ← advanceTo source pos stop
    return (.text (parts.map decodePart) (Location.ofOffset source pos), next)

/-- A comment. -/
def readComment (pos : Nat) : Except Halt (Lexeme × Nat) := do
  let rest ← onward source (pos + 4)
  match Text.splitAt? ['-', '-', '>'] rest with
  | none => fail source pos .unclosedComment
  | some parts =>
    let stop := pos + 4 + Text.byteLength parts.1
    let value ← between source (pos + 4) stop
    let next ← advanceTo source pos (stop + 3)
    return (.comment (String.ofList value) (Location.ofOffset source pos), next)

/-- A declaration. -/
def readDeclaration (pos : Nat) : Except Halt (Lexeme × Nat) := do
  let rest ← onward source pos
  match Text.splitAt? ['>'] rest with
  | none => fail source pos .unclosedDeclaration
  | some parts =>
    let next ← advanceTo source pos (pos + Text.byteLength parts.1 + 1)
    return (.declaration, next)

/-- The lexeme at an offset before the end. -/
def readLexeme (rounds : Nat) (pos : Nat) : Except Halt (Lexeme × Nat) := do
  let rest ← onward source pos
  if ['<', '!', '-', '-'] <+: rest then readComment source pos
  else if ['<', '/'] <+: rest then
    let found ← readClosing source pos
    return (.closing found.1 (Location.ofOffset source pos), found.2)
  else if ['<', '!'] <+: rest ∨ ['<', '?'] <+: rest then readDeclaration source pos
  else if startsMarkup rest then readOpening source rounds pos
  else readText source rounds pos

/-- What a round of the loop over nodes finds. -/
inductive NodeRound where
  /-- The end of the nodes. -/
  | left (next : Nat)
  | read (nodes : List Node) (next : Nat)

/-- A round of the loop over nodes that has read a closing tag. -/
def closeRound (parent : Option StartTag) (name : String) (location : Location) (next : Nat) :
    Except Halt NodeRound :=
  if parent.any (·.name == name) then .ok (.left next)
  else if isVoidTag name then .ok (.read [] next)
  else
    match parent with
    | some start => .error (.error ((Fault.mismatchedClose start.name name).error location))
    | none => .error (.error ((Fault.unexpectedClose name).error location))

/-- A round of the loop over the nodes in an element, or over those at the top. -/
def nodeRound (rounds : Nat) (descend : StartTag → Nat → Except Halt (List Node × Nat))
    (parent : Option StartTag) (pos : Nat) :
    Except Halt NodeRound := do
  if Text.byteLength source.toList ≤ pos then
    match parent with
    | none => return .left pos
    | some start => .error (.error ((Fault.unclosedElement start.name).error start.location))
  else
    let found ← readLexeme source rounds pos
    match found.1 with
    | .comment value location => return .read [.comment value location] found.2
    | .declaration => return .read [] found.2
    | .text parts location => return .read [.text parts location] found.2
    | .leaf start => return .read [.element start []] found.2
    | .raw start content location =>
      return .read [.element start (rawChildren content location)] found.2
    | .opening start =>
      let inner ← descend start found.2
      return .read [.element start inner.1] inner.2
    | .closing name location => closeRound parent name location found.2

/-- The loop over nodes, which enters itself for the children of an element. -/
def readNodes : Nat → Option StartTag → Nat → Except Halt (List Node × Nat)
  | 0, _, _ => .error .rounds
  | rounds + 1, parent, pos => do
    match ← nodeRound source (rounds + 1) (fun start next => readNodes rounds (some start) next)
      parent pos with
    | .left next => return ([], next)
    | .read nodes next =>
      let more ← readNodes rounds parent next
      return (nodes ++ more.1, more.2)

/-- The forest that a file writes. -/
def parseFile (rounds : Nat) (file : Option String) : Except Halt (List Node) :=
  match readNodes source rounds none 0 with
  | .ok found => .ok found.1
  | .error (.error error) => .error (.error (error.inFile file))
  | .error halt => .error halt

end ByOffset

end Markup

end RenderTemplate
