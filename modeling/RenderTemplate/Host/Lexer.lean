import RenderTemplate.Host.Char
import RenderTemplate.Host.Token
import RenderTemplate.Entity
import RenderTemplate.Text.Search

namespace RenderTemplate.Host

namespace Lexer

/-- What stands before a token. -/
structure Gap where
  length : Nat
  lineEnd : Bool
  /-- False for a block comment without end. -/
  closed : Bool
  rest : List Char

/-- Where a scan of a gap stands. -/
inductive GapMode where
  | blank
  | lineComment
  | blockComment

/-- Skips blanks and comments. -/
def gap : GapMode → Nat → Bool → List Char → Gap
  | mode, length, lineEnd, [] =>
    ⟨length, lineEnd, match mode with | .blockComment => false | _ => true, []⟩
  | .blank, length, lineEnd, '/' :: '/' :: rest => gap .lineComment (length + 2) lineEnd rest
  | .blank, length, lineEnd, '/' :: '*' :: rest => gap .blockComment (length + 2) lineEnd rest
  | .blank, length, lineEnd, c :: rest =>
    if isLineEnd c then gap .blank (length + 1) true rest
    else if isSpace c then gap .blank (length + 1) lineEnd rest
    else ⟨length, lineEnd, true, c :: rest⟩
  | .lineComment, length, lineEnd, c :: rest =>
    if isLineEnd c then gap .blank (length + 1) true rest
    else gap .lineComment (length + 1) lineEnd rest
  | .blockComment, length, lineEnd, '*' :: '/' :: rest => gap .blank (length + 2) lineEnd rest
  | .blockComment, length, lineEnd, c :: rest =>
    gap .blockComment (length + 1) (lineEnd || isLineEnd c) rest

/-- A token text, the number of its characters and what follows it; `none` as text for a malformed
one. -/
structure Piece where
  kind : TokenKind
  text : String := ""
  length : Nat
  rest : List Char
  escaped : Bool := false
  cooked : Bool := true

/-- A malformed piece up to `rest`. -/
def Piece.bad (length : Nat) (rest : List Char) : Piece :=
  { kind := .malformed, length := length, rest := rest }

/-- The value and length of a Unicode escape after its backslash. -/
def unicodeEscape? : List Char → Option (Nat × Nat)
  | 'u' :: '{' :: rest =>
    let digits := rest.takeWhile Entity.isHexDigit
    match rest.drop digits.length with
    | '}' :: _ =>
      let value := Entity.number 16 digits
      if digits.isEmpty || 0x10FFFF < value then none else some (value, digits.length + 3)
    | _ => none
  | 'u' :: rest =>
    let digits := (rest.take 4).takeWhile Entity.isHexDigit
    if digits.length = 4 then some (Entity.number 16 digits, 5) else none
  | _ => none

/-- The characters of an identifier, their number, whether some are escaped, and the rest; `skip`
characters belong to an escape that was read. -/
def identifier (skip : Nat) : List Char → List Char × Nat × Bool × List Char
  | [] => ([], 0, false, [])
  | c :: rest =>
    if 0 < skip then
      let (chars, length, escaped, rest) := identifier (skip - 1) rest
      (chars, length + 1, escaped, rest)
    else if c = '\\' then
      match unicodeEscape? rest with
      | some (value, count) =>
        if isIdentifierPart (Char.ofNat value) then
          let (chars, length, _, rest) := identifier count rest
          (Char.ofNat value :: chars, length + 1, true, rest)
        else ([], 0, false, c :: rest)
      | none => ([], 0, false, c :: rest)
    else if isIdentifierPart c then
      let (chars, length, escaped, rest) := identifier 0 rest
      (c :: chars, length + 1, escaped, rest)
    else ([], 0, false, c :: rest)

/-- Whether an identifier starts here. -/
def startsIdentifier : List Char → Bool
  | '\\' :: rest =>
    match unicodeEscape? rest with
    | some (value, _) => isIdentifierStart (Char.ofNat value)
    | none => false
  | c :: _ => isIdentifierStart c
  | [] => false

/-- Digits with single low lines between them: how many characters, whether they are in order, and
the rest. `lone` says that the character before is no digit. -/
def digits (isDigit : Char → Bool) (lone : Bool) : List Char → Nat × Bool × List Char
  | [] => (0, !lone, [])
  | c :: rest =>
    if isDigit c then
      let (length, good, rest) := digits isDigit false rest
      (length + 1, good, rest)
    else if c = '_' then
      let (length, good, rest) := digits isDigit true rest
      (length + 1, good && !lone, rest)
    else (0, !lone, c :: rest)

/-- A number may not run into a digit or an identifier. -/
def endsNumber : List Char → Bool
  | [] => true
  | c :: _ => !c.isDigit && !isIdentifierStart c && c != '\\'

/-- The end of a number of `length` characters so far. -/
def numberEnd (good : Bool) (length : Nat) (rest : List Char) : Piece :=
  if good && endsNumber rest then { kind := .number, length := length, rest := rest }
  else
    let tail := rest.takeWhile isIdentifierPart
    .bad (length + tail.length) (rest.drop tail.length)

/-- An exponent, if there is one. -/
def exponent (good : Bool) (length : Nat) : List Char → Piece
  | c :: rest =>
    if c = 'e' ∨ c = 'E' then
      let (signed, rest) :=
        match rest with
        | '+' :: rest => (1, rest)
        | '-' :: rest => (1, rest)
        | rest => (0, rest)
      let (count, ordered, rest) := digits Char.isDigit true rest
      numberEnd (good && ordered && 0 < count) (length + 1 + signed + count) rest
    else numberEnd good length (c :: rest)
  | [] => numberEnd good length []

/-- A fraction after its point, which may have no digits. -/
def fraction (good : Bool) (length : Nat) (rest : List Char) : Piece :=
  match rest with
  | c :: _ =>
    if c.isDigit then
      let (count, ordered, rest) := digits Char.isDigit true rest
      exponent (good && ordered) (length + count) rest
    else exponent good length rest
  | [] => exponent good length rest

/-- A number in a base other than ten, after its mark. -/
def based (isDigit : Char → Bool) (rest : List Char) : Piece :=
  let (count, ordered, rest) := digits isDigit true rest
  match rest with
  | 'n' :: after => numberEnd (ordered && 0 < count) (count + 3) after
  | _ => numberEnd (ordered && 0 < count) (count + 2) rest

/-- A number that starts with a digit. -/
def number : List Char → Piece
  | '0' :: c :: rest =>
    if c = 'x' ∨ c = 'X' then based Entity.isHexDigit rest
    else if c = 'o' ∨ c = 'O' then based (fun d => '0' ≤ d && d ≤ '7') rest
    else if c = 'b' ∨ c = 'B' then based (fun d => d == '0' || d == '1') rest
    else if c = 'n' then numberEnd true 2 rest
    else if c = '.' then fraction true 2 rest
    else if c.isDigit then
      let octal := (c :: rest).takeWhile Char.isDigit
      let after := (c :: rest).drop octal.length
      match octal.any ('7' < ·), after with
      | true, '.' :: after => fraction true (octal.length + 2) after
      | true, _ => exponent true (octal.length + 1) after
      | false, _ => numberEnd true (octal.length + 1) after
    else exponent true 1 (c :: rest)
  | rest =>
    let (count, ordered, rest) := digits Char.isDigit true rest
    match rest with
    | '.' :: after => fraction ordered (count + 1) after
    | 'n' :: after => numberEnd ordered (count + 1) after
    | _ => exponent ordered count rest

/-- Whether what follows a backslash in a literal is an escape. Octal numbers are escapes in strings
and not in template literals. -/
def goodEscape (inTemplate : Bool) : List Char → Bool
  | 'x' :: a :: b :: _ => Entity.isHexDigit a && Entity.isHexDigit b
  | 'x' :: _ => false
  | 'u' :: rest => (unicodeEscape? ('u' :: rest)).isSome
  | '0' :: c :: _ => !(inTemplate && c.isDigit)
  | c :: _ => !(inTemplate && '1' ≤ c && c ≤ '9')
  | [] => false

/-- A string literal after its opening quote. -/
def string (quote : Char) (good : Bool) (length : Nat) : List Char → Piece
  | [] => .bad length []
  | '\\' :: '\r' :: '\n' :: rest => string quote good (length + 3) rest
  | '\\' :: c :: rest => string quote (good && goodEscape false (c :: rest)) (length + 2) rest
  | c :: rest =>
    if c = quote then
      if good then { kind := .string, length := length + 1, rest := rest }
      else .bad (length + 1) rest
    else if c = '\n' ∨ c = '\r' then .bad length (c :: rest)
    else string quote good (length + 1) rest

/-- A template literal up to its end or its next substitution. `opened` says that it has just
begun. -/
def template (opened cooked : Bool) (length : Nat) : List Char → Piece
  | [] => .bad length []
  | '\\' :: c :: rest => template opened (cooked && goodEscape true (c :: rest)) (length + 2) rest
  | '$' :: '{' :: rest =>
    { kind := if opened then .templateHead else .templateMiddle
      length := length + 2
      rest := rest
      cooked := cooked }
  | '`' :: rest =>
    { kind := if opened then .template else .templateTail
      length := length + 1
      rest := rest
      cooked := cooked }
  | _ :: rest => template opened cooked (length + 1) rest

/-- The flags of a regular expression: known ones, each at most once. -/
def goodFlags : List Char → Bool
  | [] => true
  | c :: rest => "dgimsuvy".toList.contains c && !rest.contains c && goodFlags rest

/-- A regular expression after its opening slash; `inClass` says that a bracket is open. -/
def regex (inClass : Bool) (length : Nat) : List Char → Piece
  | [] => .bad length []
  | '\\' :: c :: rest =>
    if isLineEnd c then .bad (length + 1) (c :: rest) else regex inClass (length + 2) rest
  | c :: rest =>
    if isLineEnd c then .bad length (c :: rest)
    else if c = '/' ∧ !inClass then
      let flags := rest.takeWhile isIdentifierPart
      let after := rest.drop flags.length
      if goodFlags flags then { kind := .regex, length := length + 1 + flags.length, rest := after }
      else .bad (length + 1 + flags.length) after
    else regex (if c = '[' then true else if c = ']' then false else inClass) (length + 1) rest

/-- Punctuators, longer ones before their beginnings. A `>` is read alone, because it may close a
list of types; `rightAngle` joins it with what follows where it is an operator. -/
def punctuators : List String := [
  "...", "===", "!==", "**=", "<<=", "&&=", "||=", "??=",
  "=>", "==", "!=", "<=", "<<", "&&", "||", "??", "?.", "++", "--", "**", "+=", "-=", "*=", "/=",
  "%=", "&=", "|=", "^=",
  "\x7b", "\x7d", "(", ")", "[", "]", ";", ",", "<", ">", "+", "-", "*", "/", "%", "&", "|", "^",
  "!", "~", "?", ":", "=", ".", "@"]

/-- The operators that start with `>`, longer ones first. -/
def rightAngles : List String := [">>>=", ">>>", ">>=", ">>", ">=", ">"]

/-- The first entry of a table with which the input starts. -/
def fromTable (table : List String) (chars : List Char) : Piece :=
  match table.find? fun entry => (Text.after? entry.toList chars).isSome with
  | some entry =>
    { kind := .punctuator, text := entry, length := entry.length, rest := chars.drop entry.length }
  | none => .bad 1 (chars.drop 1)

/-- The piece that the input starts with, in code. -/
def piece (chars : List Char) : Piece :=
  match chars with
  | [] => { kind := .finish, length := 0, rest := [] }
  | c :: rest =>
    if startsIdentifier chars then
      let (name, length, escaped, rest) := identifier 0 chars
      { kind := .word, text := String.ofList name, length := length, rest := rest,
        escaped := escaped }
    else if c = '#' then
      if startsIdentifier rest then
        let (name, length, _, rest) := identifier 0 rest
        { kind := .privateName, text := String.ofList name, length := length + 1, rest := rest }
      else .bad 1 rest
    else if c.isDigit then number chars
    else if c = '"' ∨ c = '\'' then string c true 1 rest
    else if c = '`' then template true true 1 rest
    else
      match chars with
      | '.' :: d :: _ =>
        if d.isDigit then fraction true 1 rest else fromTable punctuators chars
      | '?' :: '.' :: d :: _ =>
        if d.isDigit then { kind := .punctuator, text := "?", length := 1, rest := rest }
        else fromTable punctuators chars
      | _ => fromTable punctuators chars

/-- The token of a piece that starts at `start`. -/
def Piece.token (piece : Piece) (start : Nat) (afterLineEnd : Bool) : Token :=
  { kind := piece.kind
    text := piece.text
    start := start
    stop := start + piece.length
    afterLineEnd := afterLineEnd
    escaped := piece.escaped
    cooked := piece.cooked }

/-- A token, the input from its start and the input after it. -/
structure Reading where
  token : Token
  here : List Char
  rest : List Char

/-- The next token at a position, by a way of reading pieces. What a slash, a closing brace or a
quote starts depends on where it stands, so there are other ways than that of code: for regular
expressions, for template literals, and for the names, values and text of elements. -/
def nextBy (read : List Char → Piece) (position : Nat) (chars : List Char) : Reading :=
  let gap := gap .blank 0 false chars
  if gap.closed then
    let piece := read gap.rest
    ⟨piece.token (position + gap.length) gap.lineEnd, gap.rest, piece.rest⟩
  else
    let stop := position + gap.length
    ⟨{ kind := .malformed, start := stop, stop := stop }, [], []⟩

/-- The next token of code. -/
def next (position : Nat) (chars : List Char) : Reading :=
  nextBy piece position chars

/-- A name of an element or an attribute, in which hyphens may stand. -/
def elementName (chars : List Char) : Piece :=
  let name := chars.takeWhile fun c => isIdentifierPart c || c == '-'
  { kind := .word, text := String.ofList name, length := name.length,
    rest := chars.drop name.length }

/-- The value of an attribute: a string literal without escapes, or code. -/
def attributeValue (chars : List Char) : Piece :=
  match chars with
  | c :: rest =>
    if c = '"' ∨ c = '\'' then
      let value := rest.takeWhile (· != c)
      match rest.drop value.length with
      | _ :: after => { kind := .string, length := value.length + 2, rest := after }
      | [] => .bad (value.length + 1) []
    else piece chars
  | [] => piece chars

/-- What stands between the tags of an element: a tag, a brace, or text up to one of them. -/
def elementChild (position : Nat) (chars : List Char) : Reading :=
  let piece : Piece :=
    match chars with
    | [] => { kind := .finish, length := 0, rest := [] }
    | '<' :: rest => { kind := .punctuator, text := "<", length := 1, rest := rest }
    | '{' :: rest => { kind := .punctuator, text := "\x7b", length := 1, rest := rest }
    | chars =>
      let text := chars.takeWhile fun c => c != '<' && c != '{'
      { kind := .elementText, length := text.length, rest := chars.drop text.length }
  ⟨piece.token position false, chars, piece.rest⟩

end Lexer

end RenderTemplate.Host
