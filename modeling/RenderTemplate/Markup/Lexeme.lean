import RenderTemplate.Diagnostic.Fault
import RenderTemplate.Entity
import RenderTemplate.Markup
import RenderTemplate.Markup.Cursor
import RenderTemplate.Text.Search

namespace RenderTemplate.Markup

/-- A character of the name of a tag. -/
def isTagChar (c : Char) : Bool :=
  c.isAlphanum || c == '-' || c == '_' || c == '.' || c == ':' || c == '$'

/-- A character of the name of an attribute. -/
def isAttributeChar (c : Char) : Bool :=
  !Text.isBlankChar c && c != '=' && c != '>' && c != '/' && c != '<' && c != '"' && c != '\''

/-- A character of a value without quotes. -/
def isValueChar (c : Char) : Bool :=
  !Text.isBlankChar c && c != '>' && c != '<'

/-- Whether a tag, a comment or a declaration starts here. -/
def startsMarkup : List Char → Bool
  | '<' :: c :: _ => c.isAlpha || c == '/' || c == '!' || c == '?' || c == '_' || c == '$'
  | _ => false

/-- A piece of markup. Its reader also tells how many characters it takes, of which there is one at
least. -/
inductive Lexeme where
  | comment (value : String) (location : Location)
  | declaration
  | closing (name : String) (location : Location)
  /-- An opening tag whose children follow. -/
  | opening (start : StartTag)
  /-- An element without children. -/
  | leaf (start : StartTag)
  /-- An element with plain text only, up to and with its closing tag. -/
  | raw (start : StartTag) (content : String) (location : Location)
  | text (parts : List Part) (location : Location)
deriving DecidableEq, Repr

/-- Adds to a count that is found, and to one that an error tells. -/
def shift (count : Nat) : Except (Option Nat) Nat → Except (Option Nat) Nat
  | .ok found => .ok (count + found)
  | .error (some found) => .error (some (count + found))
  | .error none => .error none

/-- How many characters a value in quotes has. The quote does not end it inside braces. An error
tells how many characters stand before a brace that is never closed, or none if it is the quote that
is missing. -/
def quotedLength (quote : Char) : List Char → Except (Option Nat) Nat
  | [] => .error none
  | c :: rest =>
    if c = '{' then
      match Braces.length? (c :: rest) with
      | none => .error (some 0)
      | some count => shift count (quotedLength quote (rest.drop (count - 1)))
    else if c = quote then .ok 0
    else shift 1 (quotedLength quote rest)
termination_by chars => chars.length
decreasing_by
  · simp only [List.length_drop, List.length_cons]; omega
  · simp

/-- How many characters of text stand before the next markup. Markup inside braces does not count,
nor does what would start at the first character. An error tells how many characters stand before a
brace that is never closed. -/
def textLength (first : Bool) : List Char → Except (Option Nat) Nat
  | [] => .ok 0
  | c :: rest =>
    if c = '{' then
      match Braces.length? (c :: rest) with
      | none => .error (some 0)
      | some count => shift count (textLength false (rest.drop (count - 1)))
    else if !first && startsMarkup (c :: rest) then .ok 0
    else shift 1 (textLength false rest)
termination_by chars => chars.length
decreasing_by
  · simp only [List.length_drop, List.length_cons]; omega
  · simp

/-- The text of so many characters at a cursor. -/
def Cursor.slice (cursor : Cursor) (count : Nat) : String :=
  String.ofList (cursor.rest.take count)

/-- The value of an attribute after the equals sign. A slash that closes the tag is not part of a
value without quotes. -/
def readValue (name : String) (cursor : Cursor) : Except CompileError (String × Nat) :=
  match cursor.rest with
  | [] => .ok ("", 0)
  | c :: rest =>
    if c = '"' ∨ c = '\'' then
      match quotedLength c rest with
      | .ok count => .ok ((cursor.advance 1).slice count, count + 2)
      | .error (some count) =>
        .error ((Fault.unclosedAttributeExpression name).error (cursor.advance (count + 1)).place)
      | .error none => .error ((Fault.unclosedValue name).error cursor.place)
    else if c = '{' then
      match Braces.length? (c :: rest) with
      | some count => .ok (cursor.slice count, count)
      | none => .error ((Fault.unclosedAttributeExpression name).error cursor.place)
    else
      let value := (c :: rest).takeWhile isValueChar
      let trimmed := (value.reverse.dropWhile (· == '/')).reverse
      let closes :=
        value.getLast? == some '/' && (cursor.advance value.length).rest.head? == some '>'
      .ok (String.ofList trimmed, if closes then value.length - 1 else value.length)

/-- An attribute. Without an equals sign its name is all there is of it. -/
def readAttribute (tag : String) (cursor : Cursor) : Except CompileError (Attribute × Nat) :=
  let length := cursor.run isAttributeChar
  if length = 0 then .error ((Fault.unexpectedCharacter tag).error cursor.place)
  else
    let name := cursor.slice length
    let afterName := cursor.advance length
    let gap := afterName.run Text.isBlankChar
    match (afterName.advance gap).rest with
    | '=' :: _ =>
      let afterSign := afterName.advance (gap + 1)
      let space := afterSign.run Text.isBlankChar
      match readValue name (afterSign.advance space) with
      | .ok (value, count) =>
        .ok (⟨name, some value, cursor.place⟩, length + (gap + 1 + space + count))
      | .error error => .error error
    | _ => .ok (⟨name, none, cursor.place⟩, length)

/-- Every attribute takes at least one character, so that reading them one after another comes to
an end. -/
theorem readAttribute_pos {tag : String} {cursor : Cursor} {found : Attribute} {count : Nat}
    (read : readAttribute tag cursor = .ok (found, count)) : 0 < count := by
  unfold readAttribute at read
  grind

/-- The attributes of a tag and its end: whether it closes itself, and how many characters there
are. `found` holds the attributes so far, the last one first. -/
def readAttributes (tag : String) (location : Location) (cursor : Cursor) (found : List Attribute) :
    Except CompileError (List Attribute × Bool × Nat) :=
  let gap := cursor.run Text.isBlankChar
  let here := cursor.advance gap
  match nonempty : here.rest with
  | [] => .error ((Fault.unterminatedTag tag).error location)
  | c :: rest =>
    if c = '>' then .ok (found.reverse, false, gap + 1)
    else if c = '/' ∧ rest.head? = some '>' then .ok (found.reverse, true, gap + 2)
    else
      match read : readAttribute tag here with
      | .error error => .error error
      | .ok (next, count) =>
        if found.any (·.name == next.name) then
          .error ((Fault.duplicateAttribute next.name tag).error next.location)
        else
          have shorter : (here.advance count).rest.length < cursor.rest.length := by
            have positive := readAttribute_pos read
            have remains : here.rest.length ≤ cursor.rest.length := by simp [here]
            simp only [nonempty, Cursor.rest_advance, List.length_drop, List.length_cons]
              at remains ⊢
            omega
          match readAttributes tag location (here.advance count) (next :: found) with
          | .ok (attributes, selfClosing, more) => .ok (attributes, selfClosing, gap + count + more)
          | .error error => .error error
termination_by cursor.rest.length
decreasing_by exact shorter

/-- A closing tag: its name and how many characters it takes. -/
def readClosing (cursor : Cursor) : Except CompileError (String × Nat) :=
  let length := (cursor.advance 2).run isTagChar
  let name := (cursor.advance 2).slice length
  let afterName := cursor.advance (2 + length)
  let gap := afterName.run Text.isBlankChar
  match (afterName.advance gap).rest with
  | '>' :: _ => .ok (name, 2 + length + gap + 1)
  | _ => .error ((Fault.unterminatedClosingTag name).error cursor.place)

/-- What follows the opening tag of an element with plain text only: the text, and how many
characters there are with the closing tag. The text ends where its closing tag seems to start. -/
def readRaw (tag : String) (location : Location) (cursor : Cursor) :
    Except CompileError (String × Nat) :=
  match Text.splitAt? ('<' :: '/' :: tag.toList) cursor.rest with
  | none => .error ((Fault.unclosedElement tag).error location)
  | some (content, _) =>
    match readClosing (cursor.advance content.length) with
    | .ok (_, count) => .ok (String.ofList content, content.length + count)
    | .error error => .error error

/-- An opening tag, with all of its element if no children can follow. -/
def readOpening (cursor : Cursor) : Except CompileError (Lexeme × Nat) :=
  let length := (cursor.advance 1).run isTagChar
  let tag := (cursor.advance 1).slice length
  let afterName := cursor.advance (1 + length)
  match readAttributes tag cursor.place afterName [] with
  | .error error => .error error
  | .ok (attributes, selfClosing, count) =>
    let start : StartTag := ⟨tag, attributes, selfClosing, cursor.place⟩
    let size := 1 + length + count
    if selfClosing || isVoidTag tag then .ok (.leaf start, size)
    else if isRawTag tag then
      let content := cursor.advance size
      match readRaw tag cursor.place content with
      | .ok (text, more) => .ok (.raw start text content.place, size + more)
      | .error error => .error error
    else .ok (.opening start, size)

/-- A part of a text with its references replaced by their characters, unless it is an
expression. -/
def decodePart : Part → Part
  | .literal text => .literal (decodeEntities text)
  | .expression code => .expression code

/-- A run of text, in whose literals references are replaced by their characters. -/
def readText (cursor : Cursor) : Except CompileError (Lexeme × Nat) :=
  match textLength true cursor.rest with
  | .error position =>
    .error (Fault.unclosedExpression.error (cursor.advance (position.getD 0)).place)
  | .ok count =>
    match Part.split (cursor.rest.take count) with
    | .error position => .error (Fault.unclosedExpression.error (cursor.advance position).place)
    | .ok parts => .ok (.text (parts.map decodePart) cursor.place, count)

/-- The lexeme at a cursor that is not at the end, and how many characters it takes. -/
def Lexeme.read (cursor : Cursor) : Except CompileError (Lexeme × Nat) :=
  match cursor.rest with
  | '<' :: '!' :: '-' :: '-' :: rest =>
    match Text.splitAt? ['-', '-', '>'] rest with
    | some (value, _) => .ok (.comment (String.ofList value) cursor.place, value.length + 7)
    | none => .error (Fault.unclosedComment.error cursor.place)
  | '<' :: '/' :: _ =>
    match readClosing cursor with
    | .ok (name, count) => .ok (.closing name cursor.place, count)
    | .error error => .error error
  | chars =>
    if startsMarkup chars then
      if chars[1]? = some '!' ∨ chars[1]? = some '?' then
        match Text.splitAt? ['>'] chars with
        | some (before, _) => .ok (.declaration, before.length + 1)
        | none => .error (Fault.unclosedDeclaration.error cursor.place)
      else readOpening cursor
    else readText cursor

end RenderTemplate.Markup
